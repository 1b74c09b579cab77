import ObjectQuery.Proofs.Run.Story
import ObjectQuery.Proofs.Stage.Arrivals
import ObjectQuery.Proofs.Stage.Reading
import ObjectQuery.Proofs.Stage.Reporter

/-!
# Who reads a name

A name of an object is read by the predicate, by property functions and by the reporter, each on the
frame as it is when it comes to them. For the fields of the object and for what is computed before the
filter they read the same. What the frame knows is read by functions and by the reporter, but not by
the predicate, and the picture inside the box by functions only.
-/

namespace ObjectQuery

/-- A value, unless it is invalid. -/
def Value.valid? (value : Value) : Option Value := if value.isInvalid then none else some value

/-! ## One object -/

section Object

variable {frame : Frame} {record : ObjectRecord} {name : String}

theorem ObjectRecord.valid?_eq (record : ObjectRecord) (name : String) :
    record.valid? name = (record.get? name).bind Value.valid? := by
  unfold valid? Value.valid?
  cases record.get? name with
  | none => rfl
  | some value => cases invalid : value.isInvalid <;> simp [Option.filter, invalid]

theorem Reporter.field?_eq_bind (frame : Frame) (record : ObjectRecord) (name : String) :
    Reporter.field? frame record name =
      (record.get? name <|> frame.fact? name).bind Value.valid? := by
  unfold Reporter.field?
  cases record.get? name <|> frame.fact? name <;> rfl

/-- What a function is handed is what is reported, but for the picture. -/
theorem Projector.valid?_currentValue
    (projector : Projector) (position : Nat) (other : name ≠ Field.image) :
    (projector.currentValue frame position record name).valid? =
      Reporter.field? frame record name := by
  rw [Reporter.field?_eq_bind]
  unfold currentValue
  cases record.get? name with
  | some value => rfl
  | none =>
      rw [if_neg other]
      cases frame.fact? name <;> rfl

/-- What a function is handed for another property without a window. -/
theorem Projector.input_read
    (projector : Projector) (frame : Frame) (position : Nat) (record : ObjectRecord)
    {dependency : Dependency} (current : dependency.window = 0)
    (apart : projector.property.name ≠ dependency.name) :
    (projector.read frame position record dependency).input =
      some (.current (projector.currentValue frame position record dependency.name)) := by
  unfold read readOther
  rw [if_neg (Ne.symm apart), if_pos current]

theorem Reporter.field?_eq_valid? (frame : Frame) (record : ObjectRecord)
    (own : Field.isSynthetic name = false) :
    Reporter.field? frame record name = record.valid? name := by
  rw [field?_eq_bind, ObjectRecord.valid?_eq, (frame.fact?_eq_none own).2]
  cases record.get? name <;> rfl

end Object

/-! ## On the way of a frame -/

namespace Pipeline

/-- What the predicate filter reads under a name of an object of the next frame. -/
def PredicateReads (pipeline : Pipeline) (className : String) (position : Nat) (name : String)
    (read : Option Value) : Prop :=
  ∃ predicate index frame record, (Stage.keep predicate className index, frame) ∈ pipeline.arrivals ∧
    (frame.recordsOf className)[position]? = some record ∧ record.valid? name = read

/-- What some property function is handed for a dependency without a window, if it is valid. -/
def FunctionReads (pipeline : Pipeline) (className : String) (position : Nat) (name : String)
    (read : Option Value) : Prop :=
  ∃ (projector : Projector) (frame : Frame) (record : ObjectRecord) (dependency : Dependency)
    (value : Value),
    (Stage.project projector, frame) ∈ pipeline.arrivals ∧
      (frame.recordsOf className)[position]? = some record ∧
      dependency ∈ projector.property.dependencies ∧ dependency.name = name ∧
      dependency.window = 0 ∧ projector.property.name ≠ name ∧
      (projector.read frame position record dependency).input = some (.current value) ∧
      value.valid? = read

/-- Some property function depends on the name without a window. -/
def Asks (pipeline : Pipeline) (name : String) : Prop :=
  ∃ projector, Stage.project projector ∈ pipeline.stages ∧
    ∃ dependency ∈ projector.property.dependencies, dependency.name = name ∧
      dependency.window = 0 ∧ projector.property.name ≠ name

/-- What the reporter tells of an object of the next frame under a name. -/
def ReporterReads (pipeline : Pipeline) (className : String) (position : Nat) (name : String)
    (read : Option Value) : Prop :=
  ∃ frame record, pipeline.pull.frame = .ok frame ∧
    (frame.recordsOf className)[position]? = some record ∧ Reporter.field? frame record name = read

/-- Under a name of an object the predicate reads the first value, functions that ask for it the second and
the reporter the third; none stands for one that is not there or not valid. -/
structure Reads (pipeline : Pipeline) (className : String) (position : Nat) (name : String)
    (predicate function reporter : Option Value) : Prop where
  predicate : ∀ read, pipeline.PredicateReads className position name read ↔ read = predicate
  function : ∀ read, pipeline.FunctionReads className position name read ↔
    pipeline.Asks name ∧ read = function
  reporter : ∀ read, pipeline.ReporterReads className position name read ↔ read = reporter

end Pipeline

/-! ## The stages of a compiled query -/

namespace Scene

variable {scene : Scene} {ground later : Ground} {base : Frame} {predicate : Predicate}
  {before after : List Projector}

/-- A stage after the class filter with the frame that it finds: the predicate filter, when what is computed
before it is written, or a projector, when what it reads of that is. -/
inductive Finds (scene : Scene) (predicate : Predicate) (before after : List Projector)
    (middle final : Frame) : Stage × Frame → Prop where
  | filter : Finds scene predicate before after middle final
      (.keep predicate scene.className scene.index, middle)
  | projector {projector : Projector} {seen : Frame} {names : List String}
      (extended : Frame.Extends scene.className names seen final)
      (computed : names ⊆ namesOf (before ++ after))
      (placed : projector.className = scene.className)
      (written : ∀ dependency ∈ projector.property.dependencies,
        projector.property.name ≠ dependency.name → dependency.name ∈ namesOf before →
          dependency.name ∉ names) :
      Finds scene predicate before after middle final (.project projector, seen)

theorem namesOf_append (front back : List Projector) :
    namesOf (front ++ back) = namesOf front ++ namesOf back := by
  unfold namesOf
  rw [List.map_append]

theorem Ready.finds_before
    (ready : scene.Ready before after) {middle final seen : Frame}
    (extendedAfter : Frame.Extends scene.className (namesOf after) middle final)
    {projector : Projector}
    (among : Stage.FindsAmong scene.className before middle projector seen) :
    scene.Finds predicate before after middle final (.project projector, seen) := by
  obtain ⟨front, back, split, extended⟩ := among
  have member : projector ∈ before := by
    rw [split]
    exact List.mem_append_right front List.mem_cons_self
  have precedes : ∀ other ∈ back, projector.property.Precedes other.property := by
    have ordered := ready.pairwise.1
    rw [split, propertiesOf, List.map_append] at ordered
    have late := (List.pairwise_append.mp ordered).2.1
    intro other listed
    exact (List.pairwise_cons.mp late).1 other.property (List.mem_map_of_mem listed)
  apply Finds.projector (extended.trans extendedAfter)
  · rw [namesOf_append, split, namesOf_append]
    apply List.append_subset.mpr
    constructor
    · intro name listed
      exact List.mem_append_left _ (List.mem_append_right _ listed)
    · exact List.subset_append_right _ _
  · exact (ready.placed projector (List.mem_append_left after member)).1
  · intro dependency reads other _ listed
    rcases List.mem_append.mp listed with own | late
    · rcases List.mem_cons.mp own with same | inBack
      · exact other same.symm
      · obtain ⟨another, inside, named⟩ := List.mem_map.mp inBack
        exact (precedes another inside).2 dependency reads named.symm
    · exact (ready.unwritten member).2 dependency reads late

theorem Ready.finds_after
    (ready : scene.Ready before after) {middle final seen : Frame} {projector : Projector}
    (among : Stage.FindsAmong scene.className after final projector seen) :
    scene.Finds predicate before after middle final (.project projector, seen) := by
  obtain ⟨front, back, split, extended⟩ := among
  have inside : namesOf (projector :: back) ⊆ namesOf after := by
    rw [split, namesOf_append]
    exact List.subset_append_right _ _
  have member : projector ∈ after := by
    rw [split]
    exact List.mem_append_right front List.mem_cons_self
  apply Finds.projector extended
  · rw [namesOf_append]
    exact List.Subset.trans inside (List.subset_append_right _ _)
  · exact (ready.placed projector (List.mem_append_right before member)).1
  · intro dependency _ _ early listed
    exact ready.apart (inside listed) early

/-- A frame comes through the projectors before the filter, the filter and those after it. -/
theorem Ready.through_derivedStages
    (predicate : Predicate) (ready : scene.Ready before after) (isBase : scene.IsBase base) :
    ∃ middle final place,
      (Stage.applyAll 3 (before.map Stage.project) base).frame = .ok middle ∧
        Frame.Extends scene.className (namesOf before) base middle ∧
          (Stage.applyAll place (after.map Stage.project)
            (scene.filteredBy predicate middle)).frame = .ok final ∧
            Frame.Extends scene.className (namesOf after) middle final ∧
              (Stage.applyAll 3 (scene.derivedStages predicate before after) base).frame =
                  .ok final ∧
                Stage.arriving 3 (scene.derivedStages predicate before after) base =
                  Stage.arriving 3 (before.map Stage.project) base ++
                    (Stage.keep predicate scene.className scene.index, middle) ::
                      Stage.arriving place (after.map Stage.project)
                        (scene.filteredBy predicate middle) := by
  obtain ⟨middle, middleEq, framed, extended⟩ :=
    Stage.exists_frame_applyAll_projectors (ready.appliableBefore isBase) 3
  have filteredEq := @keepSatisfying_eq scene predicate middle
    (listed_of_framed isBase framed extended)
  have kept (place : Nat) : ((Stage.keep predicate scene.className scene.index).apply place
      middle).frame = .ok (scene.filteredBy predicate middle) := filteredEq
  have appliable := ready.appliableFiltered isBase extended predicate
  obtain ⟨final, finalEq, _, extendedFiltered⟩ := Stage.exists_frame_applyAll_projectors appliable
    (3 + (before.map Stage.project).length + 1)
  have extendedAfter := (extends_filteredBy scene predicate middle).trans extendedFiltered
  rw [List.nil_append] at extendedAfter
  refine ⟨middle, final, _, middleEq, extended, finalEq, extendedAfter, ?_, ?_⟩
  · unfold derivedStages
    rw [Stage.frame_applyAll_append middleEq, Stage.frame_applyAll_cons (kept _), finalEq]
  · unfold derivedStages
    rw [Stage.arriving_append middleEq, Stage.arriving_cons (kept _)]

/-- The way of a frame from the class filter on. -/
theorem Ready.arriving_derivedStages
    (predicate : Predicate) (ready : scene.Ready before after) (isBase : scene.IsBase base) :
    ∃ middle final,
      (Stage.applyAll 3 (scene.derivedStages predicate before after) base).frame = .ok final ∧
        Frame.Extends scene.className (namesOf before) base middle ∧
          Frame.Extends scene.className (namesOf after) middle final ∧
            (Stage.keep predicate scene.className scene.index, middle) ∈
                Stage.arriving 3 (scene.derivedStages predicate before after) base ∧
              ∀ entry ∈ Stage.arriving 3 (scene.derivedStages predicate before after) base,
                scene.Finds predicate before after middle final entry := by
  obtain ⟨middle, final, place, middleEq, extended, finalEq, extendedAfter, through, arrives⟩ :=
    ready.through_derivedStages predicate isBase
  refine ⟨middle, final, through, extended, extendedAfter, ?_, ?_⟩
  · rw [arrives]
    exact List.mem_append_right _ List.mem_cons_self
  · intro entry member
    rw [arrives] at member
    rcases List.mem_append.mp member with early | later
    · obtain ⟨projector, seen, rfl, among⟩ :=
        Stage.finds_of_arriving (ready.appliableBefore isBase) middleEq early
      exact ready.finds_before extendedAfter among
    · rcases List.mem_cons.mp later with rfl | late
      · exact .filter
      · obtain ⟨projector, seen, rfl, among⟩ := Stage.finds_of_arriving
          (ready.appliableFiltered isBase extended predicate) finalEq late
        exact ready.finds_after among

/-- A frame comes to the stages from the class filter on as its scene has it. -/
theorem exists_arrivals_eq (pulled : scene.pull ground = .ok (later, base)) :
    ∃ front, (∀ entry ∈ front, entry.1 ∈
        groundStages scene.detection ground.tracker scene.className scene.index) ∧
      (scene.pipeline predicate ground before after).arrivals =
          front ++ Stage.arriving 3 (scene.derivedStages predicate before after) base ∧
        (scene.pipeline predicate ground before after).pull.frame =
          (Stage.applyAll 3 (scene.derivedStages predicate before after) base).frame := by
  obtain ⟨raw, detections, room, delivered, found, rfl, rfl⟩ := pull_eq_ok pulled
  have played := Playback.pull_delivered room delivered
  have grounded := @applyAll_ground scene.detection ground.tracker scene.className scene.index raw
    scene.source.metadata scene.only detections found []
  have through := congrArg Passage.frame grounded
  rw [List.append_nil] at through
  refine ⟨Stage.arriving 0 (groundStages scene.detection ground.tracker scene.className
    scene.index) (.ofRaw raw scene.source.metadata), fun entry => Stage.mem_of_arriving, ?_, ?_⟩
  · unfold Pipeline.arrivals pipeline
    rw [played]
    exact Stage.arriving_append through
  · unfold Pipeline.pull pipeline
    rw [played]
    exact Stage.frame_applyAll_append through

/-- The way of the next frame through a pipeline: as it is after the class filter, at the predicate filter
and at the end. -/
structure Passes (scene : Scene) (predicate : Predicate) (before after : List Projector)
    (pipeline : Pipeline) (base middle final : Frame) : Prop where
  pulled : pipeline.pull.frame = .ok final
  isBase : scene.IsBase base
  extended : Frame.Extends scene.className (namesOf (before ++ after)) base final
  extendedAfter : Frame.Extends scene.className (namesOf after) middle final
  filtered : (Stage.keep predicate scene.className scene.index, middle) ∈ pipeline.arrivals
  finds : ∀ entry ∈ pipeline.arrivals,
    (∃ detection tracker, entry.1 ∈ groundStages detection tracker scene.className scene.index) ∨
      scene.Finds predicate before after middle final entry

theorem exists_passes
    (predicate : Predicate) (ready : scene.Ready before after) (sound : scene.Sound ground)
    (pulled : scene.pull ground = .ok (later, base)) :
    ∃ middle final, scene.Passes predicate before after
      (scene.pipeline predicate ground before after) base middle final := by
  have isBase := (sound_of_pull sound pulled).2
  obtain ⟨front, grounded, arrivals, frame⟩ :=
    @exists_arrivals_eq scene ground later base predicate before after pulled
  obtain ⟨middle, final, through, extended, extendedAfter, filtered, finds⟩ :=
    ready.arriving_derivedStages predicate isBase
  refine ⟨middle, final, frame.trans through, isBase, ?_, extendedAfter, ?_, ?_⟩
  · rw [namesOf_append]
    exact extended.trans extendedAfter
  · rw [arrivals]
    exact List.mem_append_right front filtered
  · intro entry member
    rw [arrivals] at member
    rcases List.mem_append.mp member with inFront | derived
    · exact Or.inl ⟨_, _, grounded entry inFront⟩
    · exact Or.inr (finds entry derived)

namespace Passes

variable {pipeline : Pipeline} {middle final : Frame} {position : Nat} {told : ObjectRecord}
  {name : String}

/-- What is written before the filter, or has a meaning of its own, is not written after it. -/
theorem unwritten
    (ready : scene.Ready before after) (read : Field.isFixed name = true ∨ name ∈ namesOf before) :
    name ∉ namesOf after := by
  intro late
  rcases read with fixed | early
  · rw [ready.freeAfter name late] at fixed
    exact absurd fixed (by decide)
  · exact ready.apart late early

/-- The predicate reads what is written on the object at the end. -/
theorem predicateReads_iff
    (passes : scene.Passes predicate before after pipeline base middle final)
    (here : (final.recordsOf scene.className)[position]? = some told)
    (kept : name ∉ namesOf after) (read : Option Value) :
    pipeline.PredicateReads scene.className position name read ↔ read = told.valid? name := by
  have same {record : ObjectRecord}
      (earlier : (middle.recordsOf scene.className)[position]? = some record) :
      record.valid? name = told.valid? name := by
    unfold ObjectRecord.valid?
    rw [passes.extendedAfter.fields position record told earlier here name kept]
  constructor
  · rintro ⟨other, index, frame, record, member, recordHere, rfl⟩
    rcases passes.finds _ member with ⟨detection, tracker, ground⟩ | finds
    · simp [groundStages] at ground
    · cases finds
      exact same recordHere
  · rintro rfl
    obtain ⟨record, recordHere⟩ := passes.extendedAfter.exists_old here
    exact ⟨predicate, scene.index, middle, record, passes.filtered, recordHere, same recordHere⟩

theorem reporterReads_iff
    (passes : scene.Passes predicate before after pipeline base middle final)
    (here : (final.recordsOf scene.className)[position]? = some told) (read : Option Value) :
    pipeline.ReporterReads scene.className position name read ↔
      read = Reporter.field? final told name := by
  constructor
  · rintro ⟨frame, record, pulled, recordHere, rfl⟩
    obtain rfl := Except.ok.inj (passes.pulled.symm.trans pulled)
    rw [Option.some.inj (recordHere.symm.trans here)]
  · rintro rfl
    exact ⟨final, told, passes.pulled, here, rfl⟩

/-- What a projector finds is the last of what is written on the names that it reads. -/
theorem extends_of_projector
    (passes : scene.Passes predicate before after pipeline base middle final)
    (ready : scene.Ready before after) {projector : Projector} {seen : Frame}
    (member : (Stage.project projector, seen) ∈ pipeline.arrivals) :
    ∃ names, Frame.Extends scene.className names seen final ∧
      ∀ dependency ∈ projector.property.dependencies, projector.property.name ≠ dependency.name →
        Field.isFixed dependency.name = true ∨ dependency.name ∈ namesOf before →
          dependency.name ∉ names := by
  rcases passes.finds _ member with ⟨detection, tracker, ground⟩ | finds
  · simp [groundStages] at ground
  · cases finds with
    | projector extended computed _ written =>
        refine ⟨_, extended, ?_⟩
        intro dependency listed apart readable late
        rcases readable with fixed | early
        · rw [ready.free _ (computed late)] at fixed
          exact absurd fixed (by decide)
        · exact written dependency listed apart early late

/-- Functions read of the object what is reported, but for the picture. -/
theorem functionReads_iff
    (passes : scene.Passes predicate before after pipeline base middle final)
    (ready : scene.Ready before after)
    (here : (final.recordsOf scene.className)[position]? = some told)
    (readable : Field.isFixed name = true ∨ name ∈ namesOf before) (other : name ≠ Field.image)
    (read : Option Value) :
    pipeline.FunctionReads scene.className position name read ↔
      pipeline.Asks name ∧ read = Reporter.field? final told name := by
  have stages := Pipeline.map_fst_arrivals passes.pulled
  have same {projector : Projector} {seen : Frame} {record : ObjectRecord}
      (extended : ∃ names, Frame.Extends scene.className names seen final ∧ name ∉ names)
      (earlier : (seen.recordsOf scene.className)[position]? = some record) :
      (projector.currentValue seen position record name).valid? =
        Reporter.field? final told name := by
    obtain ⟨names, extended, kept⟩ := extended
    have written := extended.fields position record told earlier here name kept
    rw [Projector.valid?_currentValue projector position other, Reporter.field?_eq extended written]
  constructor
  · rintro ⟨projector, seen, record, dependency, value, member, earlier, listed, rfl, current, apart,
      handed, rfl⟩
    rw [Projector.input_read projector seen position record current apart] at handed
    obtain rfl := PropertyInput.current.inj (Option.some.inj handed)
    obtain ⟨names, extended, kept⟩ := passes.extends_of_projector ready member
    constructor
    · refine ⟨projector, ?_, dependency, listed, rfl, current, apart⟩
      rw [← stages]
      exact List.mem_map_of_mem member
    · exact same ⟨names, extended, kept dependency listed apart readable⟩ earlier
  · rintro ⟨⟨projector, placed, dependency, listed, rfl, current, apart⟩, rfl⟩
    rw [← stages] at placed
    obtain ⟨⟨stage, seen⟩, member, rfl⟩ := List.mem_map.mp placed
    obtain ⟨names, extended, kept⟩ := passes.extends_of_projector ready member
    obtain ⟨record, earlier⟩ := extended.exists_old here
    exact ⟨projector, seen, record, dependency, _, member, earlier, listed, rfl, current, apart,
      Projector.input_read projector seen position record current apart,
      same ⟨names, extended, kept dependency listed apart readable⟩ earlier⟩

/-- What the readers of a name read, but for the picture. -/
theorem reads
    (passes : scene.Passes predicate before after pipeline base middle final)
    (ready : scene.Ready before after)
    (here : (final.recordsOf scene.className)[position]? = some told)
    (readable : Field.isFixed name = true ∨ name ∈ namesOf before) (other : name ≠ Field.image) :
    pipeline.Reads scene.className position name (told.valid? name)
      (Reporter.field? final told name) (Reporter.field? final told name) where
  predicate := passes.predicateReads_iff here (unwritten ready readable)
  function := passes.functionReads_iff ready here readable other
  reporter := passes.reporterReads_iff here

theorem get?_of_synthetic
    (passes : scene.Passes predicate before after pipeline base middle final)
    (ready : scene.Ready before after)
    (here : (final.recordsOf scene.className)[position]? = some told)
    (synthetic : Field.isSynthetic name = true) :
    told.get? name = none := by
  have kept : name ∉ namesOf (before ++ after) := by
    intro member
    have free := ready.free name member
    rw [Field.isFixed_of_isSynthetic synthetic] at free
    exact absurd free (by decide)
  have own := Field.isBuiltin_of_isSynthetic synthetic
  obtain ⟨old, oldHere⟩ := passes.extended.exists_old here
  rw [passes.extended.fields position old told oldHere here name kept]
  exact passes.isBase.fresh name own old (List.mem_of_getElem? oldHere)

end Passes

end Scene

end ObjectQuery
