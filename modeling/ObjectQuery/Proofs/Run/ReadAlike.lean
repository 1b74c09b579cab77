import Mathlib.Data.List.Permutation
import ObjectQuery.Proofs.Run.Readers

/-!
# What is read alike

On every frame of a run of a compiled query the predicate, the functions and the reporter read the same
under the names of what the detector and the tracker write and of what is computed before the filter.
Under the other names that the planner takes they do not: what the frame knows is handed to functions and
reported, and the predicate finds nothing.
-/

namespace ObjectQuery

/-! ## Later in a run -/

/-- A run some frames later, however long they have taken. -/
inductive Run.Later (first : Run) : Run → Prop where
  | refl : Later first first
  | settle {run : Run} {frame : Frame} (later : Later first run)
      (pulled : run.pipeline.pull.frame = .ok frame) (seconds : Float) :
      Later first (run.settle run.pull seconds)

namespace Course

variable {course : Course} {scene : Scene} {origin ground : Ground} {earlier : List Frame}
  {first run : Run} {before after : List Projector} {frame : Frame}

/-- A frame that a run delivers has come from the scene. -/
theorem Reaches.exists_pull
    (reaches : course.Reaches scene origin earlier run ground before after)
    (pulled : run.pipeline.pull.frame = .ok frame) :
    ∃ result, scene.pull ground = .ok result := by
  cases outcome : scene.pull ground with
  | ok result => exact ⟨result, rfl⟩
  | error error =>
      rw [reaches.pull_error outcome] at pulled
      exact absurd pulled (by simp)

theorem Reaches.later
    (reaches : course.Reaches scene origin [] first ground before after)
    (ready : scene.Ready course.before course.after) (later : first.Later run) :
    ∃ earlier groundNow beforeNow afterNow,
      course.Reaches scene origin earlier run groundNow beforeNow afterNow := by
  induction later with
  | refl => exact ⟨[], ground, before, after, reaches⟩
  | settle _ pulled seconds inductionHypothesis =>
      obtain ⟨earlier, groundNow, beforeNow, afterNow, reached⟩ := inductionHypothesis
      obtain ⟨⟨groundNext, base⟩, fromScene⟩ := reached.exists_pull pulled
      obtain ⟨frame, delivered, _, onward⟩ := reached.step ready fromScene
      obtain ⟨beforeNext, afterNext, reachedNext⟩ :=
        onward _ (Run.continues_settle delivered seconds)
      exact ⟨earlier ++ [frame], groundNext, beforeNext, afterNext, reachedNext⟩

end Course

/-! ## Compiled queries -/

namespace Plan.Compiled

variable {query : Query} {plan : Plan} {predicateNames outputNames : List String}
  {before after : List Property} {source : VideoSource} {detector : Detector} {detectorName : String}
  {tracker : TrackerConfig} {output : OutputConfig} {first run : Run} {limit : Nat} {frame : Frame}

/-- The way of a frame through the stages of a run. -/
theorem exists_passes
    (compiled : Compiled query plan predicateNames outputNames before after)
    (wellFormed : plan.type.WellFormed)
    (free : ∀ property ∈ plan.type.properties, Field.isFixed property.name = false)
    (fits : (source.detectionCounts detector).sum < 2 ^ 64)
    (started : Run.start plan source detector detectorName tracker output = .ok first)
    (later : (first.withLimit limit).Later run) (pulled : run.pipeline.pull.frame = .ok frame) :
    ∃ (scene : Scene) (early late : List Projector) (base middle : Frame),
      scene.className = plan.type.className ∧ scene.Ready early late ∧
        namesOf early = before.map Property.name ∧
          scene.Passes query.constraint early late run.pipeline base middle frame := by
  have ready := @ready query plan predicateNames outputNames before after compiled wellFormed free
    source detector detectorName
  obtain ⟨earlier, ground, early, late, reached⟩ :=
    (compiled.reaches started fits limit).later ready later
  obtain ⟨⟨groundNext, base⟩, fromScene⟩ := reached.exists_pull pulled
  have alike := reached.alike
  have readyNow := Course.ready_alike ready alike.1 alike.2
  obtain ⟨middle, final, passes⟩ :=
    Scene.exists_passes query.constraint readyNow reached.sound fromScene
  have sameRun : run.pipeline = (Scene.of source detector detectorName
      plan.type.className).pipeline query.constraint ground early late := reached.pipeline
  rw [← sameRun] at passes
  obtain rfl := Except.ok.inj (passes.pulled.symm.trans pulled)
  refine ⟨_, early, late, base, middle, rfl, readyNow, ?_, passes⟩
  rw [Course.namesOf_alike alike.1]
  exact ObjectType.namesOf_projectors plan.type before

end Plan.Compiled

namespace Scene.Passes

variable {scene : Scene} {predicate : Predicate} {before after : List Projector} {pipeline : Pipeline}
  {base middle frame : Frame} {position : Nat} {name : String}

/-- What is on the object is read alike. -/
theorem reads_own
    (passes : scene.Passes predicate before after pipeline base middle frame)
    (ready : scene.Ready before after)
    (present : position < (frame.recordsOf scene.className).length)
    (own : Field.isBuiltin name = true ∨ name ∈ namesOf before) :
    ∃ read, pipeline.Reads scene.className position name read read read := by
  have here := List.getElem?_eq_getElem present
  have apart : Field.isSynthetic name = false := by
    rcases own with builtin | early
    · exact Field.isSynthetic_of_isBuiltin builtin
    · have free := ready.free name (by rw [namesOf_append]; exact List.mem_append_left _ early)
      exact (Bool.or_eq_false_iff.mp free).2
  have readable := Or.imp_left Field.isFixed_of_isBuiltin own
  have reads := passes.reads ready here readable (frame.fact?_eq_none apart).1
  rw [Reporter.field?_eq_valid? frame _ apart] at reads
  exact ⟨_, reads⟩

/-- What the frame knows is read by functions and reported. -/
theorem reads_fact
    (passes : scene.Passes predicate before after pipeline base middle frame)
    (ready : scene.Ready before after)
    (present : position < (frame.recordsOf scene.className).length)
    (synthetic : Field.isSynthetic name = true) (other : name ≠ Field.image) :
    ∃ fact, frame.fact? name = some fact ∧
      pipeline.Reads scene.className position name none (some fact) (some fact) := by
  have here := List.getElem?_eq_getElem present
  obtain ⟨fact, known, valid⟩ := frame.exists_fact? synthetic other
  have valued : fact.valid? = some fact := by
    rw [Value.valid?, valid]
    rfl
  have unwritten := passes.get?_of_synthetic ready here synthetic
  have readable := Field.isFixed_of_isSynthetic synthetic
  have reads := passes.reads ready here (Or.inl readable) other
  rw [ObjectRecord.valid?_eq, Reporter.field?_eq_bind, unwritten, known] at reads
  change pipeline.Reads scene.className position name none fact.valid? fact.valid? at reads
  rw [valued] at reads
  exact ⟨fact, known, reads⟩

/-- The picture inside the box is neither tested nor reported. -/
theorem reads_image
    (passes : scene.Passes predicate before after pipeline base middle frame)
    (ready : scene.Ready before after)
    (present : position < (frame.recordsOf scene.className).length) (read : Option Value) :
    (pipeline.PredicateReads scene.className position Field.image read ↔ read = none) ∧
      (pipeline.ReporterReads scene.className position Field.image read ↔ read = none) := by
  have here := List.getElem?_eq_getElem present
  have unwritten := passes.get?_of_synthetic ready here (by decide : Field.isSynthetic Field.image = true)
  have kept := Scene.Passes.unwritten ready (Or.inl (by decide : Field.isFixed Field.image = true))
  constructor
  · rw [passes.predicateReads_iff here kept, ObjectRecord.valid?_eq, unwritten]
    rfl
  · rw [passes.reporterReads_iff here, Reporter.field?_eq_bind, unwritten]
    rfl

end Scene.Passes

/-- On every frame of a run the fields of an object and what is computed before the predicate filter are
the same for the predicate, for property functions and in the report. What the frame knows is the same
for functions and in the report, and nothing for the predicate; the picture inside the box is nothing for
the predicate and in the report. -/
theorem Run.reads_alike
    {query : Query} {plan : Plan} (compiled : Plan.compile query = .ok plan)
    (wellFormed : plan.type.WellFormed)
    (free : ∀ property ∈ plan.type.properties, Field.isFixed property.name = false)
    {source : VideoSource} {detector : Detector}
    (fits : (source.detectionCounts detector).sum < 2 ^ 64) {detectorName : String}
    {tracker : TrackerConfig} {output : OutputConfig} {first run : Run}
    (started : Run.start plan source detector detectorName tracker output = .ok first) {limit : Nat}
    (later : (first.withLimit limit).Later run) {frame : Frame}
    (pulled : run.pipeline.pull.frame = .ok frame) {position : Nat}
    (present : position < (frame.recordsOf plan.type.className).length) :
    (∀ name, (Field.isBuiltin name = true ∨
        ∃ property ∈ plan.projectedBeforeFilter, property.name = name) →
      ∃ read, run.pipeline.Reads plan.type.className position name read read read) ∧
    (∀ name, Field.isSynthetic name = true → name ≠ Field.image →
      ∃ fact, frame.fact? name = some fact ∧
        run.pipeline.Reads plan.type.className position name none (some fact) (some fact)) ∧
    ∀ read,
      (run.pipeline.PredicateReads plan.type.className position Field.image read ↔ read = none) ∧
        (run.pipeline.ReporterReads plan.type.className position Field.image read ↔ read = none) := by
  obtain ⟨predicateNames, outputNames, before, after, compiled⟩ :=
    Plan.compile_eq_ok compiled wellFormed
  obtain ⟨scene, early, late, base, middle, className, ready, names, passes⟩ :=
    compiled.exists_passes wellFormed free fits started later pulled
  rw [compiled.projectedBeforeFilter_eq]
  rw [← className] at present ⊢
  refine ⟨?_, ?_, ?_⟩
  · intro name own
    apply passes.reads_own ready present
    rw [names, List.mem_map]
    exact own
  · intro name synthetic other
    exact passes.reads_fact ready present synthetic other
  · intro read
    exact passes.reads_image ready present read

/-! ## The rate of a video -/

namespace Timed

/-- The frame rate, told of everybody. -/
def rate : Property :=
  .declare "rate" [⟨Field.fps, 0⟩] fun inputs => (inputs.current? Field.fps).getD .invalid

def person : ObjectType := .declare "Person" "person" [.property rate]

/-- Everybody, while the frame rate is more than zero. -/
def query : Query where
  name := "timed"
  constraint := .greater (.property ⟨person, Field.fps⟩) (.literal (.ofNat 0))
  output := [⟨person, Field.fps⟩, ⟨person, "rate"⟩]

def plan : Plan where
  queryName := "timed"
  type := person
  stages :=
    [.classFilter "person" 0, .predicateFilter query.constraint "person" 0,
      Plan.projection person rate, .report ⟨"Person", "person", 0, [Field.fps, "rate"]⟩]

def video : VideoSource := .blank ⟨10, 640, 480, 2⟩

def detector : Detector :=
  .ofTable ["person"] fun frame =>
    [⟨⟨9 + frame.toFloat32, 100, 49 + frame.toFloat32, 200⟩, .ofScientific 8 true 1, 0⟩]

theorem compile_query : Plan.compile query = .ok plan := by cbv

theorem wellFormed : plan.type.WellFormed := ⟨by decide, by decide⟩

theorem fits : (video.detectionCounts detector).sum < 2 ^ 64 := by decide +kernel

/-- How many people there are on the next frame, and how many frames are reported. -/
def counted (run : Run) : Option Nat × Nat :=
  (run.pipeline.pull.frame.toOption.map fun frame => (frame.recordsOf "person").length,
    (run.items fun _ => 0).1.length)

theorem exists_run :
    ∃ run, Run.start plan video detector "table" {} {} = .ok run ∧
      counted (run.withLimit 0) = (some 1, 0) ∧ (run.withLimit 0).pipeline.Asks Field.fps := by
  refine ⟨_, rfl, by decide +kernel, person.projectorOf rate, ?_, ⟨Field.fps, 0⟩, List.mem_cons_self,
    rfl, rfl, by decide⟩
  exact List.mem_of_getElem? (i := 4) rfl

theorem exists_frame {run : Run} {people reports : Nat} (counts : counted run = (some people, reports)) :
    ∃ frame, run.pipeline.pull.frame = .ok frame ∧ (frame.recordsOf "person").length = people := by
  obtain ⟨frame, pulled, rfl⟩ := Option.map_eq_some_iff.mp (congrArg Prod.fst counts)
  exact ⟨frame, eq_ok_of_toOption pulled, rfl⟩

/-- A predicate on the frame rate lets nobody pass, though the planner takes it and a function is handed
the rate. -/
theorem rate_not_read_alike :
    ∃ run frame fact, Plan.compile query = .ok plan ∧
      Run.start plan video detector "table" {} {} = .ok run ∧
        (run.withLimit 0).pipeline.pull.frame = .ok frame ∧
          (frame.recordsOf "person").length = 1 ∧ ((run.withLimit 0).items fun _ => 0).1.length = 0 ∧
            (run.withLimit 0).pipeline.PredicateReads "person" 0 Field.fps none ∧
              (run.withLimit 0).pipeline.FunctionReads "person" 0 Field.fps (some fact) ∧
                ¬ ∃ read, (run.withLimit 0).pipeline.Reads "person" 0 Field.fps read read read := by
  obtain ⟨run, started, counts, asks⟩ := exists_run
  obtain ⟨frame, pulled, people⟩ := exists_frame counts
  obtain ⟨_, _, before, after, compiled⟩ := Plan.compile_eq_ok compile_query wellFormed
  obtain ⟨scene, early, late, base, middle, className, ready, _, passes⟩ :=
    compiled.exists_passes wellFormed (by decide) fits started .refl pulled
  change scene.className = "person" at className
  have present : 0 < (frame.recordsOf scene.className).length := by
    rw [className, people]
    exact Nat.zero_lt_one
  have synthetic : Field.isSynthetic Field.fps = true := by decide
  obtain ⟨fact, _, reads⟩ := passes.reads_fact ready present synthetic (by decide)
  rw [className] at reads
  have tested := (reads.predicate none).mpr rfl
  have handed := (reads.function (some fact)).mpr ⟨asks, rfl⟩
  refine ⟨run, frame, fact, compile_query, started, pulled, people, congrArg Prod.snd counts, tested,
    handed, ?_⟩
  rintro ⟨read, alike⟩
  have nothing := (alike.predicate none).mp tested
  have something := ((alike.function (some fact)).mp handed).2
  exact absurd (nothing.trans something.symm) (by simp)

end Timed

open Timed in
/-- The rate, the box and the picture of the one person of the first frame. -/
theorem Run.reads_alike_rate :
    ∃ run frame, Run.start plan video detector "table" {} {} = .ok run ∧
      (run.withLimit 0).pipeline.pull.frame = .ok frame ∧ 0 < (frame.recordsOf "person").length ∧
        (∃ read, (run.withLimit 0).pipeline.Reads "person" 0 Field.box read read read) ∧
          (∃ fact, frame.fact? Field.fps = some fact ∧
            (run.withLimit 0).pipeline.Reads "person" 0 Field.fps none (some fact) (some fact)) ∧
            ∀ read, (run.withLimit 0).pipeline.PredicateReads "person" 0 Field.image read ↔
              read = none := by
  obtain ⟨run, started, counts, _⟩ := exists_run
  obtain ⟨frame, pulled, people⟩ := exists_frame counts
  have present : 0 < (frame.recordsOf plan.type.className).length := by
    change 0 < (frame.recordsOf "person").length
    rw [people]
    exact Nat.zero_lt_one
  have reads := Run.reads_alike compile_query wellFormed (by decide) fits started .refl pulled present
  refine ⟨run, frame, started, pulled, present, ?_, ?_, ?_⟩
  · exact reads.1 Field.box (Or.inl (by decide))
  · exact reads.2.1 Field.fps (by decide) (by decide)
  · intro read
    exact (reads.2.2 read).1

end ObjectQuery
