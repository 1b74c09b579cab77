import Mathlib.Data.List.Permutation
import ObjectQuery.Proofs.Run.Story
import ObjectQuery.Proofs.Stage.Reading

/-!
# What is written onto the objects

A property that is computed before the predicate filter is computed for every object of the class, so
what is written depends on nothing but the frames: it is what the property means. This holds of properties
that neither depend on themselves nor look at the other objects, directly or through others.
-/

namespace ObjectQuery

/-! ## Properties that depend on nothing but values -/

/-- Nothing that is read for a name depends on itself or looks at the other objects. -/
def ObjectType.IsFunctional (type : ObjectType) (name : String) : Prop :=
  ∀ other property, type.DependsOn name other → type.property? other = some property →
    property.isSelfDependent = false ∧ property.IgnoresSnapshot

theorem ObjectType.IsFunctional.dependency
    {type : ObjectType} {name : String} (functional : type.IsFunctional name) {property : Property}
    (declared : type.property? name = some property) {dependency : Dependency}
    (member : dependency ∈ property.dependencies) :
    type.IsFunctional dependency.name :=
  fun other property later found =>
    functional other property (.through declared member later) found

/-- Where no property depends on itself or looks at the other objects, no name leads to one that does. -/
theorem ObjectType.isFunctional_of_forall
    {type : ObjectType} (all : ∀ property ∈ type.properties,
      property.isSelfDependent = false ∧ property.IgnoresSnapshot) (name : String) :
    type.IsFunctional name :=
  fun _ property _ found => all property (Plan.property?_eq_some found).1

/-! ## Meaning on a frame -/

theorem Projector.CountedFrom.id_eq
    {first place : Nat} {frames : List Frame} (counted : CountedFrom first frames) {frame : Frame}
    (here : frames[place]? = some frame) :
    frame.id = first + place := by
  have room : place < frames.length := (List.getElem?_eq_some_iff.mp here).1
  rw [(countedFrom_concat.mp (counted.until_frame here)).2, List.length_take,
    Nat.min_eq_left (Nat.le_of_lt room)]

/-- Where the values of a window are not all there and valid, the window has a gap, or one of its values
is not valid. -/
theorem Projector.gap_or_invalid
    {projector : Projector} {first place track : Nat} {frames : List Frame}
    (counted : CountedFrom first frames) {frame : Frame} (here : frames[place]? = some frame)
    (isSeen : (sighting? frames projector.className track frame.id).isSome)
    {dependency : Dependency}
    (lacking : ¬ projector.Provides frames track place dependency frame.id) :
    (frame.id < dependency.window ∨ ∃ past, frame.id ≤ past + dependency.window ∧
      past < frame.id ∧ sighting? frames projector.className track past = none) ∨
    ∃ past, frame.id ≤ past + dependency.window ∧ past ≤ frame.id ∧
      (sighting? frames projector.className track past).isSome ∧
        (projector.valueAt frames track dependency.name past).isInvalid = true := by
  refine or_iff_not_imp_left.mpr fun whole => ?_
  obtain ⟨short, present⟩ := not_or.mp whole
  have sighted : ∀ past, frame.id ≤ past + dependency.window → past ≤ frame.id →
      (sighting? frames projector.className track past).isSome := by
    intro past lower upper
    rcases Nat.lt_or_eq_of_le upper with earlier | rfl
    · exact Option.isSome_iff_ne_none.mpr fun absent => present ⟨past, lower, earlier, absent⟩
    · exact isSeen
  have long : dependency.window ≤ place := by
    have numbered := counted.id_eq here
    obtain ⟨⟨other, _, _⟩, found⟩ := Option.isSome_iff_exists.mp
      (sighted (frame.id - dependency.window) (by omega) (by omega))
    obtain ⟨inside, same, _⟩ := (sighting?_eq_some counted).mp found
    have bound := (counted.bounds inside).1
    omega
  by_contra valid
  refine lacking ⟨long, sighted, fun past lower upper => eq_false_of_ne_true fun invalid => ?_⟩
  exact valid ⟨past, lower, upper, sighted past lower upper, invalid⟩

namespace Story

variable {type : ObjectType} {before after : List Property} {course : Course} {scene : Scene}
  {origin : Ground} {first : Nat} {frames : List Frame}

variable {place position track : Nat} {frame : Frame} {record : ObjectRecord}

/-- The value of a dependency is its meaning. -/
theorem means_currentValue
    (story : Story type before after course scene origin frames)
    (counted : Projector.CountedFrom first frames)
    (here : frames[place]? = some frame)
    (recordHere : (frame.recordsOf type.className)[position]? = some record)
    (named : record.trackId? = some track) {property : Property} (member : property ∈ before)
    {dependency : Dependency} (listed : dependency ∈ property.dependencies)
    (different : dependency.name ≠ property.name)
    (written : ∀ other ∈ before, other.name = dependency.name →
      ∃ value, record.get? other.name = some value ∧
        ∀ reader, Means type frames track reader other.name frame.id value) :
    Means type frames track property.name dependency.name frame.id
      ((type.projectorOf property).currentValue frame position record dependency.name) := by
  have seen : sighting? frames type.className track frame.id = some (frame, position, record) :=
    (Projector.sighting?_eq_some counted).mpr ⟨List.mem_of_getElem? here, rfl,
      (Frame.recordOf?_eq_some (story.distinct here)).mpr ⟨recordHere, named⟩⟩
  cases fixed : Field.isFixed dependency.name with
  | true =>
      have absent : Field.isBuiltin dependency.name = false → record.get? dependency.name = none :=
        fun synthetic => (story.tells place frame here).get?_of_synthetic story.ready fixed
          synthetic (by rw [story.className]; exact recordHere)
      rw [Projector.currentValue_eq_fixedValue rfl absent]
      exact .fixed fixed seen
  | false =>
      have computed : Plan.isComputed property dependency = true := by
        unfold Plan.isComputed
        rw [fixed]
        simp [different]
      obtain ⟨other, otherMember, same⟩ := story.closedBefore property member dependency listed computed
      obtain ⟨value, got, means⟩ := written other otherMember same
      rw [same] at got means
      rw [Projector.currentValue_of_written frame position got]
      exact means property.name

/-- What is written is the meaning of the property if that is so for what it reads. -/
theorem means_of_written
    (story : Story type before after course scene origin frames)
    (counted : Projector.CountedFrom first frames)
    (here : frames[place]? = some frame)
    (recordHere : (frame.recordsOf type.className)[position]? = some record)
    (named : record.trackId? = some track) {property : Property} (member : property ∈ before)
    (functional : type.IsFunctional property.name)
    (means : ∀ dependency ∈ property.dependencies, ∀ other ∈ frames, other.id ≤ frame.id →
      ∀ position record, other.recordOf? type.className track = some (position, record) →
        Means type frames track property.name dependency.name other.id
          ((type.projectorOf property).currentValue other position record dependency.name)) :
    ∃ value, record.get? property.name = some value ∧
      ∀ reader, Means type frames track reader property.name frame.id value := by
  have early := List.mem_append_left after member
  have declared := story.declared property early
  obtain ⟨others, ignores⟩ := functional property.name property (.refl _) declared
  have plain := type.isPlain_projectorOf (Property.not_readsOwnPast others)
  have numbered := counted.id_eq here
  obtain ⟨now, next, recalls, completed⟩ := story.wroteBefore here member
  have recorded := (Frame.recordOf?_eq_some (story.distinct here)).mpr ⟨recordHere, named⟩
  have seen : sighting? frames type.className track frame.id = some (frame, position, record) :=
    (Projector.sighting?_eq_some counted).mpr ⟨List.mem_of_getElem? here, rfl, recorded⟩
  have isSeen : (sighting? frames type.className track frame.id).isSome := by rw [seen]; rfl
  have written : record.get? property.name = some (now.evaluate frame position record).value :=
    recalls.get?_eq completed ignores recordHere (story.mem_everything recordHere) (by
      unfold Projector.isEvaluable
      rw [named]
      rfl)
  refine ⟨_, written, fun reader => ?_⟩
  have available (dependency : Dependency) (listed : dependency ∈ property.dependencies) :=
    Projector.isAvailable_iff plain recalls counted here recorded named
      (fun before inside position record found => story.mem_everything
        ((Frame.recordOf?_eq_some (story.distinct_mem inside)).mp found).1) listed
      (Property.ne_of_not_selfDependent others listed)
  have meaning : ∀ dependency ∈ property.dependencies, ∀ past ≤ frame.id,
      (sighting? frames type.className track past).isSome →
        Means type frames track property.name dependency.name past
          ((type.projectorOf property).valueAt frames track dependency.name past) := by
    intro dependency listed past upper sighted
    obtain ⟨⟨other, position, record⟩, found⟩ := Option.isSome_iff_exists.mp sighted
    obtain ⟨inside, rfl, recorded⟩ := (Projector.sighting?_eq_some counted).mp found
    rw [Projector.valueAt_eq counted inside recorded]
    exact means dependency listed other inside upper position record recorded
  have free := story.free early
  by_cases all : ∀ dependency ∈ property.dependencies,
      (type.projectorOf property).Provides frames track place dependency frame.id
  · have value := Projector.value_of_inputs ignores recalls.property (story.once property early)
      fun dependency listed => ⟨(available dependency listed).1.mpr (all dependency listed),
        (available dependency listed).2 (all dependency listed)⟩
    rw [value]
    refine .computed free declared isSeen (fun dependency listed => ?_)
      (fun dependency listed past lower upper => ?_) fun dependency listed => (all dependency listed).valid
    · have long := (all dependency listed).long
      omega
    · exact meaning dependency listed past upper ((all dependency listed).seen past lower upper)
  · obtain ⟨dependency, lacking⟩ := not_forall.mp all
    obtain ⟨listed, lacking⟩ := Classical.not_imp.mp lacking
    have unavailable := eq_false_of_ne_true
      (fun holds => lacking ((available dependency listed).1.mp holds))
    rw [Projector.value_of_unavailable (by rwa [recalls.property])
      (by rwa [recalls.property]) unavailable]
    rcases Projector.gap_or_invalid counted here isSeen lacking with
      gap | ⟨past, lower, upper, sighted, invalid⟩
    · exact .missing free declared isSeen listed gap
    · exact .invalid free declared isSeen listed lower upper
        (meaning dependency listed past upper sighted) invalid

/-- Everything computed before the filter is written as it is meant. -/
theorem written
    (story : Story type before after course scene origin frames)
    (counted : Projector.CountedFrom first frames)
    (here : frames[place]? = some frame) :
    ∀ property ∈ before, type.IsFunctional property.name →
      ∀ (position : Nat) (record : ObjectRecord) (track : Nat),
      (frame.recordsOf type.className)[position]? = some record → record.trackId? = some track →
        ∃ value, record.get? property.name = some value ∧
          ∀ reader, Means type frames track reader property.name frame.id value := by
  induction place using Nat.strongRecOn generalizing frame with
  | ind place earlier =>
      have ordered := (List.pairwise_append.mp story.ordered).1
      refine Property.induction_of_ordered ordered fun property member current functional position
        record track recordHere named => ?_
      have declared := story.declared property (List.mem_append_left after member)
      obtain ⟨others, _⟩ := functional property.name property (.refl _) declared
      refine story.means_of_written counted here recordHere named member functional
        fun dependency listed other inside upper position' record' recorded => ?_
      have deeper := functional.dependency declared listed
      have different := Property.ne_of_not_selfDependent others listed
      obtain ⟨place', here'⟩ := List.mem_iff_getElem?.mp inside
      obtain ⟨recordHere', named'⟩ := (Frame.recordOf?_eq_some (story.distinct_mem inside)).mp recorded
      refine story.means_currentValue counted here' recordHere' named' member listed different
        fun another anotherMember same => ?_
      rw [counted.id_eq here, counted.id_eq here'] at upper
      rcases Nat.lt_or_eq_of_le (Nat.le_of_add_le_add_left upper) with before | rfl
      · exact earlier place' before here' another anotherMember (same ▸ deeper) position' record'
          track recordHere' named'
      · obtain rfl := Option.some.inj (here.symm.trans here')
        exact current another anotherMember dependency listed same.symm (same ▸ different)
          (same ▸ deeper) position' record' track recordHere' named'

end Story

/-- On every frame that a run delivers, a property that is computed before the predicate filter, neither
depends on itself nor looks at the other objects, directly or through others, is on every tracked object
what it means for the track. -/
theorem Run.written_iff_means
    {query : Query} {plan : Plan} (compiled : Plan.compile query = .ok plan)
    (wellFormed : plan.type.WellFormed)
    (free : ∀ property ∈ plan.type.properties, Field.isFixed property.name = false)
    {source : VideoSource} {first : Nat} (counts : source.CountsFrom first) {detector : Detector}
    (fits : (source.detectionCounts detector).sum < 2 ^ 64) {detectorName : String}
    {tracker : TrackerConfig} {output : OutputConfig} {run : Run}
    (started : Run.start plan source detector detectorName tracker output = .ok run)
    {property : Property} (early : property ∈ plan.projectedBeforeFilter)
    (functional : plan.type.IsFunctional property.name) (limit : Nat) (clock : Nat → Float)
    (reader : String) :
    let frames := ((run.withLimit limit).deliveries clock).map Prod.fst
    ∀ frame ∈ frames, ∀ record ∈ frame.recordsOf plan.type.className, ∀ track,
      record.trackId? = some track →
        ∃ value, record.get? property.name = some value ∧
          ∀ other, Means plan.type frames track reader property.name frame.id other ↔
            other = value := by
  intro frames frame member record present track named
  obtain ⟨predicateNames, outputNames, before, after, compiled⟩ :=
    Plan.compile_eq_ok compiled wellFormed
  have story := compiled.story wellFormed free fits started limit clock
  have counted := story.tells.counted counts
  rw [compiled.projectedBeforeFilter_eq] at early
  obtain ⟨place, here⟩ := List.mem_iff_getElem?.mp member
  obtain ⟨position, recordHere⟩ := List.mem_iff_getElem?.mp present
  obtain ⟨value, written, means⟩ :=
    story.written counted here property early functional position record track recordHere named
  refine ⟨value, written, fun other => ⟨fun another => ?_, fun same => ?_⟩⟩
  · exact another.functional (means reader)
  · rw [same]
    exact means reader

/-! ## People who walk -/

namespace Walkers

/-- How far the left edge has come since the last frame. -/
def step : Property :=
  .declare "step" [⟨Field.box, 1⟩] fun inputs =>
    match inputs.window? Field.box with
    | some [.box last, .box now] => .float (now.left - last.left)
    | _ => .invalid

/-- Whether the last step was made to the right. -/
def walking : Property :=
  .declare "walking" [⟨"step", 0⟩] fun inputs =>
    match inputs.number? "step" with
    | some step => .bool (decide (0 < step))
    | none => .invalid

def person : ObjectType := .declare "Person" "person" [.property step, .property walking]

def query : Query where
  name := "walkers"
  constraint := .equal (.property ⟨person, "walking"⟩) (.literal (.bool true))
  output := [⟨person, "walking"⟩]

def plan : Plan where
  queryName := "walkers"
  type := person
  stages :=
    [.classFilter "person" 0, Plan.projection person step, Plan.projection person walking,
      .predicateFilter query.constraint "person" 0,
      .report ⟨"Person", "person", 0, ["walking"]⟩]

def video : VideoSource := .blank ⟨10, 640, 480, 2⟩

/-- Somebody who comes a little farther on every frame. -/
def detector : Detector :=
  .ofTable ["person"] fun frame =>
    [⟨⟨10 + frame.toFloat32, 100, 50 + frame.toFloat32, 200⟩, .ofScientific 8 true 1, 0⟩]

theorem functional : ∀ property ∈ plan.type.properties,
    property.isSelfDependent = false ∧ property.IgnoresSnapshot := by
  intro property member
  rcases List.mem_cons.mp member with rfl | later
  · exact ⟨rfl, fun _ _ => rfl⟩
  · rw [List.mem_singleton.mp later]
    exact ⟨rfl, fun _ _ => rfl⟩

theorem counts : video.CountsFrom 1 := by
  intro position raw _ delivered
  rw [← Except.ok.inj delivered]
  exact Nat.add_comm position 1

theorem wellFormed : plan.type.WellFormed := ⟨by decide, by decide⟩

/-- Whether somebody is said to walk. -/
def walks (record : ObjectRecord) : Bool :=
  match record.get? "walking" with
  | some (.bool walks) => walks
  | _ => false

end Walkers

open Walkers in
/-- A step takes two frames. -/
theorem Run.written_iff_means_walking :
    ∃ run, Run.start plan video detector "table" {} {} = .ok run ∧
      let frames := ((run.withLimit 0).deliveries fun _ => 0).map Prod.fst
      (frames.map fun frame => (frame.recordsOf "person").map fun record =>
          (record.trackId?, walks record)) =
        [[(some 1, false)], [(some 1, true)]] ∧
        ∀ frame ∈ frames, ∀ record ∈ frame.recordsOf "person", ∀ track,
          record.trackId? = some track →
            ∃ value, record.get? "walking" = some value ∧
              ∀ other, Means person frames track "walking" "walking" frame.id other ↔
                other = value := by
  have compiled : Plan.compile query = .ok plan := by cbv
  have fits : (video.detectionCounts detector).sum < 2 ^ 64 := by decide +kernel
  have early : walking ∈ plan.projectedBeforeFilter := List.mem_cons_of_mem _ List.mem_cons_self
  refine ⟨_, rfl, by decide +kernel, ?_⟩
  exact Run.written_iff_means compiled wellFormed (by decide) counts fits rfl early
    (ObjectType.isFunctional_of_forall functional _) 0 (fun _ => 0) "walking"

end ObjectQuery
