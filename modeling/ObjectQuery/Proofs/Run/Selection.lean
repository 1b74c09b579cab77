import ObjectQuery.Proofs.Run.Paired

/-!
# What the predicate has a part in

A property that is computed after the predicate filter looks back on those frames only on which its object
was left. `ObjectType.Undisturbed` says when that makes no difference: what is looked back on was left as
well. `Beside` has the frames of a run next to those of the run on all objects, and compares what is
written: undisturbed values are the same (`Beside.get?_of_undisturbed`), and others are missing unless a
property holds on to a value (`Beside.get?_or_invalid`).
-/

namespace ObjectQuery

/-- Whether a property on a frame goes back on a dependency on an earlier one: in the window, and where
it reads its own past on all of them. -/
def Property.LooksBack (property : Property) (dependency : Dependency) (frame earlier : Frame) :
    Prop :=
  property.ReadsOwnPast ∨ frame.id ≤ earlier.id + dependency.window

namespace ObjectType

/-- The value under a name is the same whatever the predicate says: it is known before the filter, or the
track was left wherever something is looked back on, and that is undisturbed as well. -/
inductive Undisturbed (type : ObjectType) (before : List Property) (frames : List Frame)
    (track : Nat) : (name : String) → (place : Nat) → Prop where
  | fixed {name : String} {place : Nat} (fixed : Field.isFixed name = true) :
      Undisturbed type before frames track name place
  | early {property : Property} {place : Nat} (early : property ∈ before) :
      Undisturbed type before frames track property.name place
  | late {property : Property} {place : Nat} {frame : Frame}
      (declared : type.property? property.name = some property)
      (here : frames[place]? = some frame)
      (now : ∀ dependency ∈ property.dependencies, dependency.name ≠ property.name →
        Undisturbed type before frames track dependency.name place)
      (past : ∀ dependency ∈ property.dependencies, ∀ earlier other, earlier < place →
        frames[earlier]? = some other → property.LooksBack dependency frame other →
          ∀ position record, other.recordOf? type.className track = some (position, record) →
            position ∈ other.left type.className)
      (pastUndisturbed : ∀ dependency ∈ property.dependencies, ∀ earlier other, earlier < place →
        frames[earlier]? = some other → property.LooksBack dependency frame other →
          (other.recordOf? type.className track).isSome →
            Undisturbed type before frames track dependency.name earlier) :
      Undisturbed type before frames track property.name place

/-- What is computed after the filter is undisturbed only if what it reads is. -/
theorem Undisturbed.of_late
    {type : ObjectType} {before : List Property} {frames : List Frame} {track place : Nat}
    {property : Property} (undisturbed : type.Undisturbed before frames track property.name place)
    (declared : type.property? property.name = some property)
    (free : Field.isFixed property.name = false)
    (late : ∀ other ∈ before, other.name ≠ property.name) {frame : Frame}
    (here : frames[place]? = some frame) :
    (∀ dependency ∈ property.dependencies, dependency.name ≠ property.name →
        type.Undisturbed before frames track dependency.name place) ∧
      ∀ dependency ∈ property.dependencies, ∀ earlier other, earlier < place →
        frames[earlier]? = some other → property.LooksBack dependency frame other →
          ∀ position record, other.recordOf? type.className track = some (position, record) →
            position ∈ other.left type.className ∧
              type.Undisturbed before frames track dependency.name earlier := by
  generalize named : property.name = name at undisturbed
  cases undisturbed with
  | fixed fixed =>
      rw [← named, free] at fixed
      exact absurd fixed (by simp)
  | early early => exact absurd named.symm (late _ early)
  | late declared' here' now past pastUndisturbed =>
      rw [← named, declared] at declared'
      obtain rfl := Option.some.inj declared'
      obtain rfl := Option.some.inj (here.symm.trans here')
      refine ⟨now, fun dependency listed earlier other sooner there looksBack position record
        found => ⟨past dependency listed earlier other sooner there looksBack position record found,
          pastUndisturbed dependency listed earlier other sooner there looksBack ?_⟩⟩
      rw [found]
      rfl

/-- Nothing that is read for a name after the filter has a value where something is missing. -/
def NeverHolds (type : ObjectType) (before : List Property) (name : String) : Prop :=
  ∀ other property, type.DependsOn name other → type.property? other = some property →
    property ∉ before → property.isSelfDependent = false

end ObjectType

/-! ## Two runs side by side -/

/-- The frames of a run, each with the one that the run on all objects delivers in its place. -/
structure Beside (type : ObjectType) (before after all : List Property) (course whole : Course)
    (scene : Scene) (origin : Ground) (pairs : List (Frame × Frame)) : Prop where
  mine : Story type before after course scene origin (pairs.map Prod.fst)
  theirs : Story type [] all whole scene origin (pairs.map Prod.snd)
  index : scene.index = Plan.filterIndex
  unfiltered : ∀ pair ∈ pairs, scene.passing pair.2 = scene.everything pair.2
  ascends : (pairs.map Prod.fst).Pairwise fun a b => a.id < b.id
  shared : ∀ property ∈ all, property ∈ before ++ after
  ignores : ∀ property ∈ all, property.IgnoresSnapshot

namespace Beside

variable {type : ObjectType} {before after all : List Property} {course whole : Course}
  {scene : Scene} {origin : Ground} {pairs : List (Frame × Frame)}

/-- The names that are written in one of the runs. -/
def writtenNames (course whole : Course) : List String :=
  namesOf (course.before ++ course.after) ++ namesOf (whole.before ++ whole.after)

/-- The run on all objects filters before it computes anything. -/
theorem paired (beside : Beside type before after all course whole scene origin pairs) :
    Paired type before after [] all course whole scene origin pairs :=
  ⟨beside.mine, beside.theirs⟩

theorem free (beside : Beside type before after all course whole scene origin pairs) :
    ∀ name ∈ writtenNames course whole, Field.isFixed name = false :=
  beside.paired.free

/-- Both frames are of the same ground. -/
theorem twins
    (beside : Beside type before after all course whole scene origin pairs) {pair : Frame × Frame}
    (member : pair ∈ pairs) :
    Frame.Extends type.className (writtenNames course whole) pair.1 pair.2 :=
  beside.paired.twins member

/-- What has the same name is the same property. -/
theorem eq_of_name_eq
    (beside : Beside type before after all course whole scene origin pairs)
    {property other : Property} (member : property ∈ before ++ after)
    (otherMember : other ∈ before ++ after) (same : other.name = property.name) :
    other = property := by
  have declared := beside.mine.declared other otherMember
  rw [same, beside.mine.declared property member] at declared
  exact (Option.some.inj declared).symm

/-- What is read is fixed, the property itself, or computed in both runs, for a property that is computed
before the filter before it as well. -/
theorem read_cases
    (beside : Beside type before after all course whole scene origin pairs) {property : Property}
    (member : property ∈ all) {dependency : Dependency}
    (listed : dependency ∈ property.dependencies) :
    Field.isFixed dependency.name = true ∨ dependency.name = property.name ∨
      ∃ other ∈ all, other.name = dependency.name ∧ (property ∈ before → other ∈ before) := by
  by_cases own : dependency.name = property.name
  · exact Or.inr (Or.inl own)
  · cases fixed : Field.isFixed dependency.name with
    | true => exact Or.inl rfl
    | false =>
        have computed : Plan.isComputed property dependency = true := by
          unfold Plan.isComputed
          rw [fixed]
          simp [own]
        obtain ⟨other, otherMember, named⟩ :=
          beside.theirs.closed property member dependency listed computed
        refine Or.inr (Or.inr ⟨other, otherMember, named, fun early => ?_⟩)
        obtain ⟨another, inside, same⟩ :=
          beside.mine.closedBefore property early dependency listed computed
        rwa [beside.eq_of_name_eq (List.mem_append_left after inside)
          (beside.shared other otherMember) (named.trans same.symm)]

section Frames

variable {place position track : Nat} {pair : Frame × Frame} {record record' : ObjectRecord}
  {property : Property}

/-- The run on all objects leaves every object. -/
theorem mem_passing
    (beside : Beside type before after all course whole scene origin pairs)
    (member : pair ∈ pairs)
    (same : SameObject type.className pair position record record') :
    position ∈ scene.passing pair.2 := by
  rw [beside.unfiltered pair member]
  exact beside.theirs.mem_everything same.second

theorem exists_earlier {other : Frame × Frame} (member : other ∈ pairs.take place) :
    ∃ earlier < place, pairs[earlier]? = some other := by
  obtain ⟨earlier, found⟩ := List.mem_iff_getElem?.mp member
  rw [List.getElem?_take] at found
  split at found
  · rename_i before
    exact ⟨earlier, before, found⟩
  · exact absurd found (by simp)

theorem ascends_until
    (beside : Beside type before after all course whole scene origin pairs)
    (here : pairs[place]? = some pair) :
    ((pairs.take place).map Prod.fst ++ [pair.1]).Pairwise fun a b => a.id < b.id := by
  have prefixed := beside.ascends.sublist ((List.take_sublist (place + 1) pairs).map Prod.fst)
  rwa [List.take_add_one, here, Option.toList_some, List.map_append, List.map_singleton] at prefixed

/-- The windows of an object are the same in both runs if the object was handed on in both and the values
were the same wherever the property looks back. -/
theorem past_eq
    (beside : Beside type before after all course whole scene origin pairs)
    (here : pairs[place]? = some pair) {listing : Frame → List Nat} {now now' : Projector}
    (recalls : (type.projectorOf property).Recalls now listing ((pairs.take place).map Prod.fst))
    (recalls' : (type.projectorOf property).Recalls now' scene.passing
      ((pairs.take place).map Prod.snd))
    (past : ∀ dependency ∈ property.windowed, ∀ earlier other, earlier < place →
      pairs[earlier]? = some other → property.LooksBack dependency pair.1 other.1 →
        (type.projectorOf property).Alongside listing scene.passing track [dependency.name] other)
    {dependency : Dependency} (windowed : dependency ∈ property.windowed) :
    now'.past? pair.2 (some track) dependency = now.past? pair.1 (some track) dependency := by
  have twins : ∀ other ∈ pairs.take place, Frame.Extends (type.projectorOf property).className
      (writtenNames course whole) other.1 other.2 :=
    fun other member => beside.twins (List.mem_of_mem_take member)
  have distinct : ∀ other ∈ pairs.take place,
      DistinctTracks (other.1.recordsOf (type.projectorOf property).className) :=
    fun other member => beside.paired.distinct (List.mem_of_mem_take member)
  have same : pair.2.id = pair.1.id := by
    rw [(beside.twins (List.mem_of_getElem? here)).framed]
  by_cases own : property.ReadsOwnPast
  · refine Projector.past_eq_of_alongside recalls recalls' twins beside.free distinct
      (fun other member position record record' found found' => ?_) same dependency
    obtain ⟨earlier, before, there⟩ := exists_earlier member
    have each := fun dependency listed =>
      past dependency listed earlier other before there (Or.inl own) position record record' found
        found'
    obtain ⟨listed, listed', _⟩ := each dependency windowed
    refine ⟨listed, listed', fun name named => ?_⟩
    obtain ⟨another, inside, rfl⟩ := List.mem_map.mp named
    exact (each another inside).2.2 _ List.mem_cons_self
  · refine (type.isPlain_projectorOf own).past_eq_of_alongside recalls recalls'
      (beside.ascends_until here) twins beside.free distinct windowed
      (fun other member near => ?_) same
    obtain ⟨earlier, before, there⟩ := exists_earlier member
    exact past dependency windowed earlier other before there (Or.inr near)

/-- An object is evaluated in neither run, or in both and then on what it reads. -/
theorem get?_eq
    (beside : Beside type before after all course whole scene origin pairs)
    (here : pairs[place]? = some pair) (member : property ∈ all) {listing : Frame → List Nat}
    (wrote : (type.projectorOf property).Wrote listing ((pairs.map Prod.fst).take place) pair.1)
    (same : SameObject type.className pair position record record')
    (listed : position ∈ listing pair.1)
    (current : (type.projectorOf property).isEvaluable record = true →
      ∀ dependency ∈ property.dependencies, dependency.name ≠ property.name →
        record'.get? dependency.name = record.get? dependency.name)
    (past : ∀ track, record.trackId? = some track → ∀ dependency ∈ property.windowed,
      ∀ earlier other, earlier < place → pairs[earlier]? = some other →
        property.LooksBack dependency pair.1 other.1 →
          (type.projectorOf property).Alongside listing scene.passing track [dependency.name]
            other) :
    record'.get? property.name = record.get? property.name := by
  refine beside.paired.get?_eq here (beside.ignores property member) wrote
    (beside.theirs.wroteAfter (getElem?_map_snd here) member) same ?_ current
    fun now now' recalls recalls' track named _ windowed =>
      beside.past_eq here recalls recalls' (past track named) windowed
  exact iff_of_true (beside.mem_passing (List.mem_of_getElem? here) same) listed

/-- What is computed before the filter is computed of all objects in both runs. -/
theorem inCommon (beside : Beside type before after all course whole scene origin pairs) :
    InCommon type pairs fun property => property ∈ before ∧ property ∈ all where
  wrote property shared :=
    ⟨scene.everything, scene.passing, fun pair inside =>
      (beside.unfiltered pair inside).trans (beside.paired.everything_eq inside),
      fun _ _ here => ⟨beside.mine.wroteBefore (getElem?_map_fst here) shared.1,
        beside.theirs.wroteAfter (getElem?_map_snd here) shared.2⟩⟩
  reads property shared dependency listed := by
    rcases beside.read_cases shared.2 listed with fixed | own | ⟨other, inAll, named, alsoEarly⟩
    · exact Or.inl fixed
    · exact Or.inr (Or.inl own)
    · exact Or.inr (Or.inr ⟨other, ⟨alsoEarly shared.1, inAll⟩, named⟩)
  ignores property shared := beside.ignores property shared.2

/-- What is computed before the filter is the same in both runs. -/
theorem get?_of_early
    (beside : Beside type before after all course whole scene origin pairs)
    (here : pairs[place]? = some pair) :
    ∀ property ∈ before, property ∈ all → ∀ (position : Nat) (record record' : ObjectRecord),
      SameObject type.className pair position record record' →
        record'.get? property.name = record.get? property.name :=
  fun property early member => beside.paired.get?_eq_of_inCommon beside.inCommon
    (fun _ shared => List.mem_append_left after shared.1) here property ⟨early, member⟩

theorem passing_eq_left
    (beside : Beside type before after all course whole scene origin pairs) (frame : Frame) :
    scene.passing frame = frame.left type.className := by
  unfold Scene.passing Frame.left
  rw [beside.index, beside.mine.className]

theorem late_of_not_early
    (beside : Beside type before after all course whole scene origin pairs)
    (member : property ∈ all) (late : property ∉ before) :
    property ∈ after ∧ ∀ other ∈ before, other.name ≠ property.name := by
  have shared := beside.shared property member
  refine ⟨(List.mem_append.mp shared).resolve_left late, fun other early same => late ?_⟩
  rwa [← beside.eq_of_name_eq shared (List.mem_append_left after early) same]

/-- Undisturbed values of the objects that are left are the same in both runs. -/
theorem get?_of_undisturbed
    (beside : Beside type before after all course whole scene origin pairs)
    (here : pairs[place]? = some pair) :
    ∀ property ∈ all, ∀ (position : Nat) (record record' : ObjectRecord),
      SameObject type.className pair position record record' → position ∈ scene.passing pair.1 →
        (∀ track, record.trackId? = some track →
          type.Undisturbed before (pairs.map Prod.fst) track property.name place) →
            record'.get? property.name = record.get? property.name := by
  induction place using Nat.strongRecOn generalizing pair with
  | ind place earlierPlaces =>
      have hereFirst := getElem?_map_fst here
      refine Property.induction_of_ordered beside.theirs.ordered fun property member inner position
        record record' same left undisturbed => ?_
      by_cases early : property ∈ before
      · exact beside.get?_of_early here property early member position record record' same
      have shared := beside.shared property member
      obtain ⟨inAfter, unnamed⟩ := beside.late_of_not_early member early
      have reads := fun track named => (undisturbed track named).of_late
        (beside.mine.declared property shared) (beside.mine.free shared) unnamed hereFirst
      refine beside.get?_eq here member (beside.mine.wroteAfter hereFirst inAfter) same left
        (fun _ dependency listed different => ?_)
        fun track named dependency windowed earlier other sooner there looksBack position record record'
          found found' => ?_
      · rcases beside.read_cases member listed with fixed | own | ⟨other, inAll, same', _⟩
        · exact beside.paired.get?_of_fixed (List.mem_of_getElem? here) same fixed
        · exact absurd own different
        · rw [← same']
          exact inner other inAll dependency listed same'.symm (same' ▸ different) position record
            record' same left fun track named =>
              same' ▸ (reads track named).1 dependency listed different
      · have inside := List.mem_of_getElem? there
        have thereFirst := getElem?_map_fst there
        have listed := (List.mem_filter.mp windowed).1
        obtain ⟨same, known⟩ := beside.paired.sameObject_of_found inside found found'
        obtain ⟨kept, deeper⟩ := (reads track named).2 dependency listed earlier other.1 sooner
          thereFirst looksBack position record found
        rw [← beside.passing_eq_left] at kept
        have deeperFor : ∀ track, record.trackId? = some track →
            type.Undisturbed before (pairs.map Prod.fst) track dependency.name earlier := by
          intro another named
          rwa [← Option.some.inj (known.symm.trans named)]
        refine ⟨kept, beside.mem_passing inside same, fun name named => ?_⟩
        rw [List.mem_singleton.mp named]
        rcases beside.read_cases member listed with fixed | own | ⟨another, inAll, same', _⟩
        · exact beside.paired.get?_of_fixed inside same fixed
        · rw [own] at deeperFor ⊢
          exact earlierPlaces earlier sooner there property member position record record' same kept
            deeperFor
        · rw [← same'] at deeperFor ⊢
          exact earlierPlaces earlier sooner there another inAll position record record' same kept
            deeperFor

/-- What is read of a property that has not come out invalid, on a frame and where it looks back. -/
theorem valid_of_valid
    (beside : Beside type before after all course whole scene origin pairs)
    (here : pairs[place]? = some pair) (member : property ∈ all)
    (others : property.isSelfDependent = false)
    (wrote : (type.projectorOf property).Wrote scene.passing ((pairs.map Prod.fst).take place)
      pair.1)
    (same : SameObject type.className pair position record record')
    (left : position ∈ scene.passing pair.1)
    (evaluable : (type.projectorOf property).isEvaluable record = true)
    (valid : ¬ ∃ value, record.get? property.name = some value ∧ value.isInvalid = true)
    {dependency : Dependency} (listed : dependency ∈ property.dependencies) :
    ((type.projectorOf property).currentValue pair.1 position record dependency.name).isInvalid =
        false ∧
      ∀ track, record.trackId? = some track → ∀ earlier other, earlier < place →
        pairs[earlier]? = some other → pair.1.id ≤ other.1.id + dependency.window →
          ∀ position record, other.1.recordOf? type.className track = some (position, record) →
            position ∈ scene.passing other.1 ∧
              ((type.projectorOf property).currentValue other.1 position record
                dependency.name).isInvalid = false := by
  obtain ⟨now, next, recalls, completed⟩ := wrote
  have plain := type.isPlain_projectorOf (Property.not_readsOwnPast others)
  have different := Property.ne_of_not_selfDependent others listed
  have available : (now.read pair.1 position record dependency).isAvailable = true := by
    refine eq_true_of_ne_false fun missing => valid ⟨.invalid, ?_, rfl⟩
    have value := recalls.get?_eq completed (beside.ignores property member) same.first left evaluable
    rwa [Projector.value_of_unavailable (by rwa [recalls.property]) (by rwa [recalls.property])
      missing] at value
  obtain ⟨current, past⟩ := (Projector.isAvailable_read recalls.toAlike different).mp available
  refine ⟨current, fun track named earlier other sooner there near position record found => ?_⟩
  have listedBefore : other ∈ pairs.take place := by
    refine List.mem_iff_getElem?.mpr ⟨earlier, ?_⟩
    rw [List.getElem?_take, if_pos sooner, there]
  have memberBefore : other.1 ∈ (pairs.take place).map Prod.fst := List.mem_map_of_mem listedBefore
  obtain ⟨ascends, _, apart⟩ := List.pairwise_append.mp (beside.ascends_until here)
  have older := apart other.1 memberBefore pair.1 List.mem_cons_self
  have looksBack : 0 < dependency.window := by omega
  obtain ⟨values, window, validPast⟩ := past looksBack
  rw [named] at window
  rw [← List.map_take] at recalls
  obtain ⟨_, source⟩ := Projector.exists_frame_of_past plain recalls
    (List.mem_filter.mpr ⟨listed, decide_eq_true looksBack⟩) window
  obtain ⟨frame, inside, sameId, position', record', found', kept, told⟩ :=
    source other.1.id (by omega) (by omega)
  have distinct : (((pairs.take place).map Prod.fst).map Frame.id).Nodup :=
    (List.pairwise_map.mpr ascends).imp Nat.ne_of_lt
  obtain rfl := List.inj_on_of_nodup_map distinct inside memberBefore sameId
  obtain ⟨rfl, rfl⟩ := Prod.mk.inj (Option.some.inj (found.symm.trans found'))
  exact ⟨kept, eq_false_of_ne_true (List.any_eq_false.mp validPast _ told)⟩

/-- Of an object that is left, a value that is not the same in both runs is invalid, unless a property
holds on to values. -/
theorem get?_or_invalid
    (beside : Beside type before after all course whole scene origin pairs)
    (here : pairs[place]? = some pair) :
    ∀ property ∈ all, type.NeverHolds before property.name →
      ∀ (position : Nat) (record record' : ObjectRecord),
        SameObject type.className pair position record record' → position ∈ scene.passing pair.1 →
          record'.get? property.name = record.get? property.name ∨
            ∃ value, record.get? property.name = some value ∧ value.isInvalid = true := by
  induction place using Nat.strongRecOn generalizing pair with
  | ind place earlierPlaces =>
      have hereFirst := getElem?_map_fst here
      refine Property.induction_of_ordered beside.theirs.ordered fun property member inner neverHolds
        position record record' same left => ?_
      by_cases early : property ∈ before
      · exact Or.inl (beside.get?_of_early here property early member position record record' same)
      have declared := beside.mine.declared property (beside.shared property member)
      have others := neverHolds property.name property (.refl _) declared early
      have deeper : ∀ dependency ∈ property.dependencies, type.NeverHolds before dependency.name :=
        fun dependency listed other another later =>
          neverHolds other another (.through declared listed later)
      have wrote := beside.mine.wroteAfter hereFirst (beside.late_of_not_early member early).1
      refine or_iff_not_imp_right.mpr fun valid => ?_
      have reads := fun evaluable dependency (listed : dependency ∈ property.dependencies) =>
        beside.valid_of_valid here member others wrote same left evaluable valid listed
      have unequal : ∀ {frame : Frame} {position : Nat} {record : ObjectRecord} {name : String},
          ((type.projectorOf property).currentValue frame position record name).isInvalid = false →
            ¬ ∃ value, record.get? name = some value ∧ value.isInvalid = true := by
        rintro frame position record name known ⟨value, written, invalid⟩
        rw [Projector.currentValue_of_written frame position written, invalid] at known
        exact absurd known (by simp)
      refine beside.get?_eq here member wrote same left (fun evaluable dependency listed different => ?_)
        fun track named dependency windowed earlier other sooner there looksBack place' old new found
          found' => ?_
      · rcases beside.read_cases member listed with fixed | own | ⟨other, inAll, same', _⟩
        · exact beside.paired.get?_of_fixed (List.mem_of_getElem? here) same fixed
        · exact absurd own different
        · have known := (reads evaluable dependency listed).1
          rw [← same'] at known ⊢
          exact (inner other inAll dependency listed same'.symm (same' ▸ different)
            (same' ▸ deeper dependency listed) position record record' same left).resolve_right
              (unequal known)
      · have inside := List.mem_of_getElem? there
        have listed := (List.mem_filter.mp windowed).1
        have evaluable : (type.projectorOf property).isEvaluable record = true := by
          unfold Projector.isEvaluable
          rw [named]
          rfl
        have near := looksBack.resolve_left (Property.not_readsOwnPast others)
        obtain ⟨kept, known⟩ := (reads evaluable dependency listed).2 track named earlier other sooner
          there near place' old found
        obtain ⟨same, _⟩ := beside.paired.sameObject_of_found inside found found'
        refine ⟨kept, beside.mem_passing inside same, fun name named => ?_⟩
        rw [List.mem_singleton.mp named]
        rcases beside.read_cases member listed with fixed | own | ⟨another, inAll, same', _⟩
        · exact beside.paired.get?_of_fixed inside same fixed
        · exact absurd own (Property.ne_of_not_selfDependent others listed)
        · rw [← same'] at known ⊢
          exact (earlierPlaces earlier sooner there another inAll (same' ▸ deeper dependency listed)
            place' old new same kept).resolve_right (unequal known)

end Frames

end Beside

end ObjectQuery
