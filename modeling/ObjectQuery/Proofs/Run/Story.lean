import ObjectQuery.Proofs.Plan.Reach
import ObjectQuery.Proofs.Run.Deliveries

/-!
# The story of a run

`Story` is what is told of the frames that the run of a compiled query delivers: each comes from the
scene and has been written on by the projectors, and what is read is there before it is read.
-/

namespace ObjectQuery

/-! ## What is read for a name -/

/-- A name that is read for another one, directly or through others. -/
inductive ObjectType.DependsOn (type : ObjectType) : (name other : String) → Prop where
  | refl (name : String) : DependsOn type name name
  | through {name other : String} {property : Property} {dependency : Dependency}
      (declared : type.property? name = some property)
      (member : dependency ∈ property.dependencies)
      (later : DependsOn type dependency.name other) : DependsOn type name other

theorem Property.ne_of_not_selfDependent
    {property : Property} (others : property.isSelfDependent = false) {dependency : Dependency}
    (member : dependency ∈ property.dependencies) :
    dependency.name ≠ property.name := by
  intro same
  unfold isSelfDependent window? at others
  rw [Option.isSome_map] at others
  have missing := List.find?_eq_none.mp (Option.not_isSome_iff_eq_none.mp
    (by rw [others]; simp)) dependency member
  exact missing (decide_eq_true same)

/-- A property that looks back on its own values. -/
def Property.ReadsOwnPast (property : Property) : Prop :=
  ∃ dependency ∈ property.windowed, dependency.name = property.name

theorem Property.not_readsOwnPast
    {property : Property} (others : property.isSelfDependent = false) :
    ¬ property.ReadsOwnPast :=
  fun ⟨_, member, same⟩ => ne_of_not_selfDependent others (List.mem_filter.mp member).1 same

theorem ObjectType.isPlain_projectorOf
    (type : ObjectType) {property : Property} (others : ¬ property.ReadsOwnPast) :
    (type.projectorOf property).IsPlain where
  columns := rfl
  reach _ member := (Property.window_le_maxWindow member).trans (Nat.le_max_right ..)
  others dependency member same := others ⟨dependency, member, same⟩

/-! ## Delivered frames -/

namespace Course.Delivers

variable {course : Course} {scene : Scene} {origin : Ground} {earlier : List Frame} {frame : Frame}

theorem distinct
    (delivers : course.Delivers scene origin earlier frame)
    (ready : scene.Ready course.before course.after) :
    DistinctTracks (frame.recordsOf scene.className) := by
  obtain ⟨base, _, isBase, extended⟩ := delivers.base
  exact extended.distinctTracks ready.free isBase.distinct

/-- What is read from the frame is not written onto the objects. -/
theorem get?_of_synthetic
    (delivers : course.Delivers scene origin earlier frame)
    (ready : scene.Ready course.before course.after) {name : String}
    (fixed : Field.isFixed name = true) (synthetic : Field.isBuiltin name = false)
    {position : Nat} {record : ObjectRecord}
    (here : (frame.recordsOf scene.className)[position]? = some record) :
    record.get? name = none := by
  obtain ⟨base, _, isBase, extended⟩ := delivers.base
  obtain ⟨old, oldHere⟩ := extended.exists_old here
  have unwritten : name ∉ namesOf (course.before ++ course.after) := fun member =>
    absurd (fixed.symm.trans (ready.free name member)) (by simp)
  rw [extended.fields position old record oldHere here name unwritten]
  exact isBase.fresh name synthetic old (List.mem_of_getElem? oldHere)

end Course.Delivers

/-- The frames of a run, the properties computed before and after the filter, and what the planner has
seen to. -/
structure Story (type : ObjectType) (before after : List Property) (course : Course) (scene : Scene)
    (origin : Ground) (frames : List Frame) : Prop where
  tells : course.Tells scene origin frames
  courseBefore : course.before = before.map type.projectorOf
  courseAfter : course.after = after.map type.projectorOf
  className : scene.className = type.className
  ready : scene.Ready course.before course.after
  declared : ∀ property ∈ before ++ after, type.property? property.name = some property
  once : ∀ property ∈ before ++ after, (property.dependencies.map Dependency.name).Nodup
  ordered : (before ++ after).Pairwise Property.Precedes
  closedBefore : ∀ property ∈ before, ∀ dependency ∈ property.dependencies,
    Plan.isComputed property dependency = true → ∃ other ∈ before, other.name = dependency.name
  closed : ∀ property ∈ before ++ after, ∀ dependency ∈ property.dependencies,
    Plan.isComputed property dependency = true →
      ∃ other ∈ before ++ after, other.name = dependency.name

namespace Story

variable {type : ObjectType} {before after : List Property} {course : Course} {scene : Scene}
  {origin : Ground} {frames : List Frame}

theorem free (story : Story type before after course scene origin frames)
    {property : Property} (member : property ∈ before ++ after) :
    Field.isFixed property.name = false := by
  refine story.ready.free property.name ?_
  rw [story.courseBefore, story.courseAfter, ← List.map_append, ObjectType.namesOf_projectors]
  exact List.mem_map_of_mem member

theorem distinct
    (story : Story type before after course scene origin frames) {place : Nat}
    {frame : Frame} (here : frames[place]? = some frame) :
    DistinctTracks (frame.recordsOf type.className) :=
  story.className ▸ (story.tells place frame here).distinct story.ready

theorem distinct_mem
    (story : Story type before after course scene origin frames) {frame : Frame}
    (member : frame ∈ frames) :
    DistinctTracks (frame.recordsOf type.className) := by
  obtain ⟨place, here⟩ := List.mem_iff_getElem?.mp member
  exact story.distinct here

theorem mem_everything
    (story : Story type before after course scene origin frames) {frame : Frame}
    {position : Nat} {record : ObjectRecord}
    (here : (frame.recordsOf type.className)[position]? = some record) :
    position ∈ scene.everything frame := by
  unfold Scene.everything
  rw [story.className]
  exact List.mem_range.mpr (List.getElem?_eq_some_iff.mp here).1

theorem wroteBefore
    (story : Story type before after course scene origin frames) {place : Nat}
    {frame : Frame} (here : frames[place]? = some frame) {property : Property}
    (member : property ∈ before) :
    (type.projectorOf property).Wrote scene.everything (frames.take place) frame :=
  (story.tells place frame here).early _ (story.courseBefore ▸ List.mem_map_of_mem member)

theorem wroteAfter
    (story : Story type before after course scene origin frames) {place : Nat}
    {frame : Frame} (here : frames[place]? = some frame) {property : Property}
    (member : property ∈ after) :
    (type.projectorOf property).Wrote scene.passing (frames.take place) frame :=
  (story.tells place frame here).late _ (story.courseAfter ▸ List.mem_map_of_mem member)

/-- What is read for a property has a fixed meaning, is the property itself, or is computed; for a property
that is computed before the filter it is computed there as well. -/
theorem read_cases
    (story : Story type before after course scene origin frames) {property : Property}
    {dependency : Dependency} (listed : dependency ∈ property.dependencies) :
    (property ∈ before → Field.isFixed dependency.name = true ∨ dependency.name = property.name ∨
      ∃ other ∈ before, other.name = dependency.name) ∧
      (property ∈ before ++ after → Field.isFixed dependency.name = true ∨
        dependency.name = property.name ∨ ∃ other ∈ before ++ after, other.name = dependency.name) := by
  cases computed : Plan.isComputed property dependency with
  | true =>
      exact ⟨fun early => Or.inr (Or.inr (story.closedBefore property early dependency listed computed)),
        fun member => Or.inr (Or.inr (story.closed property member dependency listed computed))⟩
  | false =>
      have given := Plan.isComputed_eq_false computed
      exact ⟨fun _ => given.symm.imp_right Or.inl, fun _ => given.symm.imp_right Or.inl⟩

/-- What has one name in two runs is the same property. -/
theorem eq_of_name_eq
    (story : Story type before after course scene origin frames) {before' after' : List Property}
    {course' : Course} {frames' : List Frame}
    (story' : Story type before' after' course' scene origin frames') {property other : Property}
    (member : property ∈ before ++ after) (otherMember : other ∈ before' ++ after')
    (same : other.name = property.name) :
    other = property := by
  have declared := story'.declared other otherMember
  rw [same, story.declared property member] at declared
  exact (Option.some.inj declared).symm

end Story

/-! ## Runs of compiled queries -/

/-- The properties that a plan computes before its predicate filter. -/
def Plan.projectedBeforeFilter (plan : Plan) : List Property :=
  (plan.stages.takeWhile fun stage =>
    match stage with
    | .predicateFilter .. => false
    | _ => true).filterMap PlanStage.property?

namespace Plan.Compiled

variable {query : Query} {plan : Plan} {predicateNames outputNames : List String}
  {before after : List Property}

theorem projectedBeforeFilter_eq
    (compiled : Compiled query plan predicateNames outputNames before after) :
    plan.projectedBeforeFilter = before := by
  unfold projectedBeforeFilter
  rw [compiled.stages, List.append_assoc, List.append_assoc,
    List.takeWhile_append_of_pos fun stage member => ?_]
  · simp only [List.filterMap_append, List.cons_append, List.nil_append, List.takeWhile_cons,
      List.filterMap_cons, PlanStage.property?, property?_projections]
    exact List.append_nil before
  · rcases List.mem_append.mp member with first | projected
    · rw [List.mem_singleton.mp first]
    · obtain ⟨property, _, rfl⟩ := List.mem_map.mp projected
      rfl

/-- Nothing that the predicate reads is written after the filter. -/
theorem unwritten
    (compiled : Compiled query plan predicateNames outputNames before after)
    (free : ∀ property ∈ plan.type.properties, Field.isFixed property.name = false)
    (output : OutputConfig) :
    ∀ reference ∈ (course query plan before after output).predicate.references,
      reference.name ∉ namesOf (course query plan before after output).after := by
  intro reference read late
  have named := ObjectType.namesOf_projectors plan.type after
  obtain ⟨property, member, same⟩ := List.mem_map.mp (named ▸ late)
  rcases compiled.fixed_or_mem_of_read read with fixed | ⟨other, early, otherNamed⟩
  · rw [← same, free property (compiled.declared (List.mem_append_right _ member))] at fixed
    exact absurd fixed (by simp)
  · have once := compiled.nodup_names
    rw [List.map_append, List.nodup_append] at once
    exact once.2.2 _ (List.mem_map_of_mem early) _ (List.mem_map_of_mem member)
      (otherNamed.trans same.symm)

theorem story
    (compiled : Compiled query plan predicateNames outputNames before after)
    (wellFormed : plan.type.WellFormed)
    (free : ∀ property ∈ plan.type.properties, Field.isFixed property.name = false)
    {source : VideoSource} {detector : Detector}
    (fits : (source.detectionCounts detector).sum < 2 ^ 64) {detectorName : String}
    {tracker : TrackerConfig} {output : OutputConfig} {run : Run}
    (started : Run.start plan source detector detectorName tracker output = .ok run) (limit : Nat)
    (clock : Nat → Float) :
    Story plan.type before after (course query plan before after output)
      (Scene.of source detector detectorName plan.type.className)
      (Ground.start source plan.type.className tracker)
      (((run.withLimit limit).deliveries clock).map Prod.fst) := by
  have ready := @ready query plan predicateNames outputNames before after compiled wellFormed free
    source detector detectorName
  have tells := (compiled.reaches started fits limit).tells ready clock
  exact
    { tells := tells
      courseBefore := rfl
      courseAfter := rfl
      className := rfl
      ready := ready
      declared := fun property member =>
        ObjectType.property?_of_mem wellFormed.names (compiled.declared member)
      once := fun property member => wellFormed.dependencies property (compiled.declared member)
      ordered := compiled.ordered wellFormed.names free
      closedBefore := fun property member dependency listed computed =>
        (compiled.dependency wellFormed.names listed computed).1 member
      closed := fun property member dependency listed computed =>
        (compiled.dependency wellFormed.names listed computed).2 member }

end Plan.Compiled

end ObjectQuery
