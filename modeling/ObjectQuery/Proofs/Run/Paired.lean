import ObjectQuery.Proofs.Predicate.Answer
import ObjectQuery.Proofs.Run.Story
import ObjectQuery.Proofs.Stage.Reading
import ObjectQuery.Proofs.Stage.SideBySide

/-!
# Two runs on one ground

Runs of two queries on the same video see the same objects, whatever they compute of them: `Paired` has
the frames of the one next to those of the other. What both compute of the same objects, together with all
that is read for it, is the same in both (`Paired.get?_eq_of_inCommon`), and so is the answer of a
predicate that reads nothing else (`Paired.satisfying_eq`).
-/

namespace ObjectQuery

/-- The places of the objects that a query has left on a frame. -/
def Frame.left (frame : Frame) (className : String) : List Nat :=
  (frame.positions? Plan.filterIndex className).getD []

/-- An object of a class on two frames. -/
structure SameObject (className : String) (pair : Frame × Frame) (position : Nat)
    (record record' : ObjectRecord) : Prop where
  first : (pair.1.recordsOf className)[position]? = some record
  second : (pair.2.recordsOf className)[position]? = some record'

/-- Two frames of one number that show the same objects, as far as nothing has been computed of them. -/
structure Frame.ShowsSame (className : String) (frame frame' : Frame) : Prop where
  id : frame'.id = frame.id
  length : (frame'.recordsOf className).length = (frame.recordsOf className).length
  fixed : ∀ position record record',
    SameObject className (frame, frame') position record record' →
      ∀ name, Field.isFixed name = true → record'.get? name = record.get? name

theorem Frame.Extends.showsSame
    {className : String} {names : List String} {frame frame' : Frame}
    (extended : Frame.Extends className names frame frame')
    (free : ∀ name ∈ names, Field.isFixed name = false) :
    frame.ShowsSame className frame' where
  id := by rw [extended.framed]
  length := extended.length
  fixed position record record' same name fixed :=
    extended.fields position record record' same.first same.second name fun written =>
      absurd (fixed.symm.trans (free name written)) (by simp)

/-- The names that a query has written onto the objects. -/
def Course.written (course : Course) : List String :=
  namesOf (course.before ++ course.after)

/-- The filter leaves what satisfies the predicate on the frame as it is in the end, if nothing that the
predicate reads is written after the filter. -/
theorem Story.passing_eq_satisfying
    {type : ObjectType} {before after : List Property} {course : Course} {scene : Scene}
    {origin : Ground} {frames : List Frame}
    (story : Story type before after course scene origin frames)
    (unwritten : ∀ reference ∈ course.predicate.references, reference.name ∉ namesOf course.after)
    {frame : Frame} (member : frame ∈ frames) :
    scene.passing frame = scene.satisfying course.predicate frame := by
  obtain ⟨place, there⟩ := List.mem_iff_getElem?.mp member
  obtain ⟨middle, _, passing, extended⟩ := (story.tells place frame there).filtered
  rw [passing]
  refine List.filter_congr fun position listed => ?_
  have here := List.getElem?_eq_getElem (List.mem_range.mp listed)
  obtain ⟨old, oldHere⟩ := extended.exists_old here
  refine Frame.satisfies_congr here oldHere fun reference read => ?_
  exact (extended.fields position old _ oldHere here _ (unwritten reference read)).symm

/-! ## The frames of both runs -/

/-- The frames of a run, each with the one that another run on the same ground delivers in its place. -/
structure Paired (type : ObjectType) (before after before' after' : List Property)
    (course course' : Course) (scene : Scene) (origin : Ground) (pairs : List (Frame × Frame)) :
    Prop where
  mine : Story type before after course scene origin (pairs.map Prod.fst)
  theirs : Story type before' after' course' scene origin (pairs.map Prod.snd)

theorem getElem?_map_fst {β γ : Type} {pairs : List (β × γ)} {place : Nat} {pair : β × γ}
    (here : pairs[place]? = some pair) :
    (pairs.map Prod.fst)[place]? = some pair.1 := by
  rw [List.getElem?_map, here, Option.map_some]

theorem getElem?_map_snd {β γ : Type} {pairs : List (β × γ)} {place : Nat} {pair : β × γ}
    (here : pairs[place]? = some pair) :
    (pairs.map Prod.snd)[place]? = some pair.2 := by
  rw [List.getElem?_map, here, Option.map_some]

/-- A property that both runs have written on each frame, and of the same objects. -/
def Projector.WroteAlike (start : Projector) (pairs : List (Frame × Frame)) : Prop :=
  ∃ listing listing' : Frame → List Nat,
    (∀ pair ∈ pairs, listing' pair.2 = listing pair.1) ∧
      ∀ place pair, pairs[place]? = some pair →
        start.Wrote listing ((pairs.map Prod.fst).take place) pair.1 ∧
          start.Wrote listing' ((pairs.map Prod.snd).take place) pair.2

/-- Properties that both runs compute alike, with all that is read for them. -/
structure InCommon (type : ObjectType) (pairs : List (Frame × Frame)) (shared : Property → Prop) :
    Prop where
  wrote : ∀ property, shared property → (type.projectorOf property).WroteAlike pairs
  reads : ∀ property, shared property → ∀ dependency ∈ property.dependencies,
    Field.isFixed dependency.name = true ∨ dependency.name = property.name ∨
      ∃ other, shared other ∧ other.name = dependency.name
  ignores : ∀ property, shared property → property.IgnoresSnapshot

namespace Paired

variable {type : ObjectType} {before after before' after' : List Property}
  {course course' : Course} {scene : Scene} {origin : Ground} {pairs : List (Frame × Frame)}

theorem free (paired : Paired type before after before' after' course course' scene origin pairs) :
    ∀ name ∈ course.written ++ course'.written, Field.isFixed name = false := by
  intro name member
  rcases List.mem_append.mp member with here | there
  · exact paired.mine.ready.free name here
  · exact paired.theirs.ready.free name there

/-- Both frames are of the same ground. -/
theorem twins
    (paired : Paired type before after before' after' course course' scene origin pairs)
    {pair : Frame × Frame} (member : pair ∈ pairs) :
    Frame.Extends type.className (course.written ++ course'.written) pair.1 pair.2 := by
  obtain ⟨place, here⟩ := List.mem_iff_getElem?.mp member
  obtain ⟨base, baseEq, _, extended⟩ :=
    (paired.mine.tells place pair.1 (getElem?_map_fst here)).base
  obtain ⟨base', baseEq', _, extended'⟩ :=
    (paired.theirs.tells place pair.2 (getElem?_map_snd here)).base
  rw [List.length_take, List.length_map] at baseEq baseEq'
  obtain rfl := Except.ok.inj (baseEq.symm.trans baseEq')
  rw [← paired.mine.className]
  exact extended.symm.trans extended'

theorem showsSame
    (paired : Paired type before after before' after' course course' scene origin pairs)
    {pair : Frame × Frame} (member : pair ∈ pairs) :
    pair.1.ShowsSame type.className pair.2 :=
  (paired.twins member).showsSame paired.free

theorem distinct
    (paired : Paired type before after before' after' course course' scene origin pairs)
    {pair : Frame × Frame} (member : pair ∈ pairs) :
    DistinctTracks (pair.1.recordsOf type.className) :=
  paired.mine.distinct_mem (List.mem_map_of_mem member)

theorem everything_eq
    (paired : Paired type before after before' after' course course' scene origin pairs)
    {pair : Frame × Frame} (member : pair ∈ pairs) :
    scene.everything pair.2 = scene.everything pair.1 :=
  Scene.everything_extends (paired.mine.className ▸ paired.twins member)

/-! ## One property in both runs -/

section Frames

variable {place position track : Nat} {pair : Frame × Frame} {record record' : ObjectRecord}
  {property : Property}

theorem get?_of_fixed
    (paired : Paired type before after before' after' course course' scene origin pairs)
    (member : pair ∈ pairs) (same : SameObject type.className pair position record record')
    {name : String} (fixed : Field.isFixed name = true) :
    record'.get? name = record.get? name :=
  (paired.showsSame member).fixed position record record' same name fixed

theorem trackId_eq
    (paired : Paired type before after before' after' course course' scene origin pairs)
    (member : pair ∈ pairs) (same : SameObject type.className pair position record record') :
    record'.trackId? = record.trackId? :=
  (paired.twins member).trackId_eq paired.free same.first same.second

/-- The object of a track in both runs. -/
theorem sameObject_of_found
    (paired : Paired type before after before' after' course course' scene origin pairs)
    (member : pair ∈ pairs)
    (found : pair.1.recordOf? type.className track = some (position, record))
    (found' : pair.2.recordOf? type.className track = some (position, record')) :
    SameObject type.className pair position record record' ∧ record.trackId? = some track := by
  have distinct := paired.distinct member
  obtain ⟨first, named⟩ := (Frame.recordOf?_eq_some distinct).mp found
  obtain ⟨second, _⟩ := (Frame.recordOf?_eq_some
    ((paired.twins member).distinctTracks paired.free distinct)).mp found'
  exact ⟨⟨first, second⟩, named⟩

/-- An object that is left is there in both runs. -/
theorem exists_sameObject
    (paired : Paired type before after before' after' course course' scene origin pairs)
    (member : pair ∈ pairs) (left : position ∈ scene.passing pair.1) :
    ∃ record record', SameObject type.className pair position record record' := by
  obtain ⟨place, here⟩ := List.mem_iff_getElem?.mp member
  obtain ⟨middle, _, passing, _⟩ :=
    (paired.mine.tells place pair.1 (getElem?_map_fst here)).filtered
  rw [passing] at left
  have room := List.mem_range.mp (List.mem_filter.mp left).1
  rw [paired.mine.className] at room
  have first := List.getElem?_eq_getElem room
  obtain ⟨record', second⟩ := (paired.twins member).exists_new first
  exact ⟨_, record', first, second⟩

/-- What is computed of an object is the same in both runs if it is handed on in both or in neither, and
the same is read of it. -/
theorem get?_eq
    (paired : Paired type before after before' after' course course' scene origin pairs)
    (here : pairs[place]? = some pair) {listing listing' : Frame → List Nat}
    (ignores : property.IgnoresSnapshot)
    (wrote : (type.projectorOf property).Wrote listing ((pairs.map Prod.fst).take place) pair.1)
    (wrote' : (type.projectorOf property).Wrote listing' ((pairs.map Prod.snd).take place) pair.2)
    (same : SameObject type.className pair position record record')
    (listed : position ∈ listing' pair.2 ↔ position ∈ listing pair.1)
    (current : (type.projectorOf property).isEvaluable record = true →
      ∀ dependency ∈ property.dependencies, dependency.name ≠ property.name →
        record'.get? dependency.name = record.get? dependency.name)
    (past : ∀ now now',
      (type.projectorOf property).Recalls now listing ((pairs.take place).map Prod.fst) →
        (type.projectorOf property).Recalls now' listing' ((pairs.take place).map Prod.snd) →
          ∀ track, record.trackId? = some track → ∀ dependency ∈ property.windowed,
            now'.past? pair.2 (some track) dependency =
              now.past? pair.1 (some track) dependency) :
    record'.get? property.name = record.get? property.name := by
  have inside := List.mem_of_getElem? here
  have tracks := paired.trackId_eq inside same
  have evaluables : (type.projectorOf property).isEvaluable record' =
      (type.projectorOf property).isEvaluable record := by
    unfold Projector.isEvaluable
    rw [tracks]
  obtain ⟨now, next, recalls, completed⟩ := wrote
  obtain ⟨now', next', recalls', completed'⟩ := wrote'
  rw [← List.map_take] at recalls recalls'
  by_cases handed : position ∈ listing pair.1 ∧
      (type.projectorOf property).isEvaluable record = true
  · obtain ⟨left, evaluable⟩ := handed
    have value := recalls.get?_eq completed ignores same.first left evaluable
    have value' := recalls'.get?_eq completed' ignores same.second (listed.mpr left)
      (evaluables.trans evaluable)
    refine value'.trans (Eq.trans (congrArg some ?_) value.symm)
    refine Projector.evaluate_congr (by rwa [recalls.property])
      (recalls'.property.trans recalls.property.symm) ?_
    unfold Projector.readings
    rw [recalls.property, recalls'.property]
    refine List.map_congr_left fun dependency read => ?_
    refine Projector.read_eq recalls.toAlike recalls'.toAlike tracks (fun different => ?_)
      fun looksBack track named => ?_
    · exact Projector.currentValue_of_get? (paired.twins inside) paired.free same.first same.second
        (current evaluable dependency read different)
    · exact past now now' recalls recalls' track named dependency
        (List.mem_filter.mpr ⟨read, decide_eq_true looksBack⟩)
  · -- where an object is not handed on nothing is written, in either run
    have skipped : position ∉ listing pair.1 ∨
        (type.projectorOf property).isEvaluable record = false := by
      rw [Bool.eq_false_iff]
      exact not_and_or.mp handed
    have absent := recalls.get?_eq_none completed same.first skipped
    have absent' := recalls'.get?_eq_none completed' same.second
      (skipped.imp (fun missing there => missing (listed.mp there)) evaluables.trans)
    exact absent'.trans absent.symm

/-- What is remembered of a track is the same where it has been handed on in both runs or in neither, with
the same values. -/
theorem past_eq
    (paired : Paired type before after before' after' course course' scene origin pairs)
    (here : pairs[place]? = some pair) {listing listing' : Frame → List Nat} {now now' : Projector}
    (recalls : (type.projectorOf property).Recalls now listing ((pairs.take place).map Prod.fst))
    (recalls' : (type.projectorOf property).Recalls now' listing' ((pairs.take place).map Prod.snd))
    (listed : ∀ other ∈ pairs.take place, listing' other.2 = listing other.1)
    (values : ∀ earlier other, earlier < place → pairs[earlier]? = some other →
      ∀ position record record', SameObject type.className other position record record' →
        ∀ dependency ∈ property.windowed,
          record'.get? dependency.name = record.get? dependency.name)
    (dependency : Dependency) :
    now'.past? pair.2 (some track) dependency = now.past? pair.1 (some track) dependency := by
  have inside {other : Frame × Frame} (member : other ∈ pairs.take place) : other ∈ pairs :=
    List.mem_of_mem_take member
  refine Projector.past_eq_of_rowIn recalls recalls' (fun other member => paired.twins (inside member))
    paired.free (fun other member => ?_) (paired.showsSame (List.mem_of_getElem? here)).id dependency
  refine Projector.rowIn_eq_of_listed_iff (paired.twins (inside member)) paired.free
    (paired.distinct (inside member)) fun position record record' found found' => ?_
  obtain ⟨earlier, there⟩ := List.mem_iff_getElem?.mp member
  have sooner : earlier < place := (List.length_take_le place pairs).trans_lt'
    (List.getElem?_eq_some_iff.mp there).1
  rw [List.getElem?_take_of_lt sooner] at there
  rw [listed other member]
  exact ⟨Iff.rfl, fun _ => values earlier other sooner there position record record'
    (paired.sameObject_of_found (inside member) found found').1⟩

/-! ## All that both runs compute -/

variable {shared : Property → Prop}

/-- What both runs compute alike comes out the same. -/
theorem get?_eq_of_inCommon
    (paired : Paired type before after before' after' course course' scene origin pairs)
    (common : InCommon type pairs shared) (computed : ∀ property, shared property →
      property ∈ before ++ after) (here : pairs[place]? = some pair) :
    ∀ property, shared property → ∀ (position : Nat) (record record' : ObjectRecord),
      SameObject type.className pair position record record' →
        record'.get? property.name = record.get? property.name := by
  induction place using Nat.strongRecOn generalizing pair with
  | ind place earlierPlaces =>
      -- along the order in which the properties are computed on this frame
      have holds : ∀ property ∈ before ++ after, shared property →
          ∀ (position : Nat) (record record' : ObjectRecord),
            SameObject type.className pair position record record' →
              record'.get? property.name = record.get? property.name := by
        refine Property.induction_of_ordered paired.mine.ordered fun property _ inner member position
          record record' same => ?_
        obtain ⟨listing, listing', listed, wrote⟩ := common.wrote property member
        have inside := List.mem_of_getElem? here
        refine paired.get?_eq here (common.ignores property member) (wrote place pair here).1
          (wrote place pair here).2 same (by rw [listed pair inside])
          (fun _ dependency read different => ?_) fun now now' recalls recalls' track named dependency
            windowed => ?_
        · rcases common.reads property member dependency read with fixed | own | ⟨other, also, named⟩
          · exact paired.get?_of_fixed inside same fixed
          · exact absurd own different
          · rw [← named] at different ⊢
            exact inner other (computed other also) dependency read named.symm different also position
              record record' same
        · refine paired.past_eq here recalls recalls'
            (fun other member => listed other (List.mem_of_mem_take member))
            (fun earlier other sooner there position record record' same dependency windowed => ?_)
            dependency
          rcases common.reads property member dependency (List.mem_filter.mp windowed).1 with
            fixed | own | ⟨another, also, named⟩
          · exact paired.get?_of_fixed (List.mem_of_getElem? there) same fixed
          · rw [own]
            exact earlierPlaces earlier sooner there property member position record record' same
          · rw [← named]
            exact earlierPlaces earlier sooner there another also position record record' same
      exact fun property member => holds property (computed property member) member

/-- A predicate is satisfied by the same objects in both runs if it reads nothing else. -/
theorem satisfying_eq
    (paired : Paired type before after before' after' course course' scene origin pairs)
    (common : InCommon type pairs shared) (computed : ∀ property, shared property →
      property ∈ before ++ after) (member : pair ∈ pairs) {predicate : Predicate}
    (reads : ∀ reference ∈ predicate.references, Field.isFixed reference.name = true ∨
      ∃ property, shared property ∧ property.name = reference.name) :
    scene.satisfying predicate pair.2 = scene.satisfying predicate pair.1 := by
  obtain ⟨place, here⟩ := List.mem_iff_getElem?.mp member
  unfold Scene.satisfying
  rw [paired.everything_eq member, paired.mine.className]
  refine List.filter_congr fun position listed => ?_
  have room := List.mem_range.mp listed
  rw [paired.mine.className] at room
  have first := List.getElem?_eq_getElem room
  obtain ⟨record', second⟩ := (paired.twins member).exists_new first
  have same : SameObject type.className pair position _ record' := ⟨first, second⟩
  refine Frame.satisfies_congr first second fun reference read => ?_
  rcases reads reference read with fixed | ⟨property, also, named⟩
  · exact paired.get?_of_fixed member same fixed
  · rw [← named]
    exact paired.get?_eq_of_inCommon common computed here property also position _ record' same

end Frames

/-! ## What is computed alike -/

/-- What one run computes before its filter is computed alike in another that computes it before its own. -/
theorem inCommon_before
    (paired : Paired type before after before' after' course course' scene origin pairs)
    (early : ∀ property ∈ before, property ∈ before')
    (ignores : ∀ property ∈ before, property.IgnoresSnapshot) :
    InCommon type pairs (· ∈ before) where
  wrote property member :=
    ⟨scene.everything, scene.everything, fun _ inside => paired.everything_eq inside,
      fun _ _ here => ⟨paired.mine.wroteBefore (getElem?_map_fst here) member,
        paired.theirs.wroteBefore (getElem?_map_snd here) (early property member)⟩⟩
  reads _ member _ listed := (paired.mine.read_cases listed).1 member
  ignores := ignores

/-- What both runs compute is computed alike if the same is computed before the filter, and the same objects
are left. -/
theorem inCommon_of_passing_eq
    (paired : Paired type before after before' after' course course' scene origin pairs)
    (early : ∀ property, property ∈ before' ↔ property ∈ before)
    (passing : ∀ pair ∈ pairs, scene.passing pair.2 = scene.passing pair.1)
    (ignores : ∀ property ∈ before ++ after, property.IgnoresSnapshot) :
    InCommon type pairs fun property => property ∈ before ++ after ∧ property ∈ before' ++ after' where
  wrote property shared := by
    by_cases first : property ∈ before
    · exact (paired.inCommon_before (fun other => (early other).mpr)
        fun other member => ignores other (List.mem_append_left _ member)).wrote property first
    · have late := (List.mem_append.mp shared.1).resolve_left first
      have late' := (List.mem_append.mp shared.2).resolve_left fun there =>
        first ((early property).mp there)
      exact ⟨scene.passing, scene.passing, passing, fun _ _ here =>
        ⟨paired.mine.wroteAfter (getElem?_map_fst here) late,
          paired.theirs.wroteAfter (getElem?_map_snd here) late'⟩⟩
  reads property shared dependency listed := by
    rcases (paired.mine.read_cases listed).2 shared.1 with fixed | own | ⟨other, member, named⟩
    · exact Or.inl fixed
    · exact Or.inr (Or.inl own)
    · rcases (paired.theirs.read_cases listed).2 shared.2 with fixed | own | ⟨other', member', named'⟩
      · exact Or.inl fixed
      · exact Or.inr (Or.inl own)
      · -- the two that are read under the name are one property
        obtain rfl := paired.mine.eq_of_name_eq paired.theirs member member'
          (named'.trans named.symm)
        exact Or.inr (Or.inr ⟨other', ⟨member, member'⟩, named⟩)
  ignores property shared := ignores property shared.1

end Paired

end ObjectQuery
