import ObjectQuery.Proofs.Run.Steady

/-!
# What can go wrong in a run

The stages of a plan agree on one class and one filter index. A stage that reads what is listed there
finds it as long as the stages before have left it there (`Stage.Reads.apply`), and the class filter lists
it on every frame afresh. So a run of a compiled query fails only where the video or the detector does
(`Run.only_outside_fails`).
-/

namespace ObjectQuery

namespace Stage

/-- The stage works on what is listed for a class under an index. -/
def Reads (className : String) (index : Nat) : Stage → Prop
  | .project projector => projector.className = className ∧ projector.index = index
  | .keep _ name place => name = className ∧ place = index
  | _ => False

variable {className : String} {index : Nat}

/-- What such a stage does with a frame that has a list for it. -/
structure Serviceable (className : String) (index : Nat) (passage : Passage Stage) (final : Frame) :
    Prop where
  through : passage.frame = .ok final
  listed : (final.positions? index className).isSome
  reads : passage.state.Reads className index

theorem positions?_written (projector : Projector) (frame : Frame)
    (evaluations : List Projector.Evaluation) (index : Nat) (className : String) :
    (projector.written frame evaluations).positions? index className =
      frame.positions? index className := by
  rw [Projector.framed_written]
  rfl

/-- A stage finds what it reads and leaves it there for the next one. -/
theorem Reads.apply {stage : Stage} (reads : stage.Reads className index) {frame : Frame}
    (listed : (frame.positions? index className).isSome) (place : Nat) :
    ∃ final, Serviceable className index (stage.apply place frame) final := by
  obtain ⟨positions, found⟩ := Option.isSome_iff_exists.mp listed
  cases stage with
  | project projector =>
      obtain ⟨rfl, rfl⟩ := reads
      have applied : projector.apply frame = .ok
          ⟨{ projector with
              history := projector.settled
                (projector.written frame (projector.evaluations frame positions))
                (projector.remembered frame.id (projector.evaluations frame positions)) },
            projector.written frame (projector.evaluations frame positions),
            projector.evaluations frame positions⟩ := by
        rw [Projector.apply, found]
      refine ⟨projector.written frame (projector.evaluations frame positions), ?_, ?_, ?_⟩
      · rw [Stage.apply, applied]
      · rw [positions?_written, found]
        rfl
      · rw [Stage.apply, applied]
        exact ⟨rfl, rfl⟩
  | keep predicate name place =>
      obtain ⟨rfl, rfl⟩ := reads
      refine ⟨_, by rw [Stage.apply, Frame.keepSatisfying, found], ?_, rfl, rfl⟩
      rw [Scene.positions_setPositions]
      rfl
  | detect | track | selectClass => exact absurd reads not_false

/-- A frame with a list comes through all stages that read it. -/
theorem applyAll_of_reads {stages : List Stage} (reads : ∀ stage ∈ stages, stage.Reads className index)
    {frame : Frame} (listed : (frame.positions? index className).isSome) (place : Nat) :
    (∃ final, (applyAll place stages frame).frame = .ok final) ∧
      ∀ stage ∈ (applyAll place stages frame).state, stage.Reads className index := by
  induction stages generalizing place frame with
  | nil => exact ⟨⟨frame, rfl⟩, fun _ member => absurd member List.not_mem_nil⟩
  | cons stage rest inductionHypothesis =>
      obtain ⟨next, through, listed, here⟩ := (reads stage List.mem_cons_self).apply listed place
      obtain ⟨⟨final, passed⟩, later⟩ := inductionHypothesis
        (fun other member => reads other (List.mem_cons_of_mem _ member)) listed (place + 1)
      refine ⟨⟨final, (frame_applyAll_cons through).trans passed⟩, fun other member => ?_⟩
      rw [state_applyAll_cons through] at member
      rcases List.mem_cons.mp member with rfl | member
      · exact here
      · exact later other member

/-- Counting turns changes nothing in what stages read. -/
theorem reads_withTurns {stages : List Stage}
    (reads : ∀ stage ∈ stages, stage.Reads className index) (done : List String) :
    ∀ stage ∈ withTurns done stages, stage.Reads className index := by
  induction stages generalizing done with
  | nil => exact fun _ member => absurd member List.not_mem_nil
  | cons stage rest inductionHypothesis =>
      have here := reads stage List.mem_cons_self
      have later := inductionHypothesis fun other member => reads other (List.mem_cons_of_mem _ member)
      intro other member
      cases stage with
      | project projector =>
          rcases List.mem_cons.mp member with rfl | member
          · exact here
          · exact later _ other member
      | keep predicate name place =>
          rcases List.mem_cons.mp member with rfl | member
          · exact here
          · exact later _ other member
      | detect | track | selectClass => exact absurd here not_false

end Stage

/-- The video fails to deliver the frame at a position, or the detector fails on it. -/
inductive VideoSource.FailsAt (source : VideoSource) (detector : Detector) (position : Nat) :
    RunError → Prop
  | delivery {error : ServiceError} : position < source.length →
      source.frameAt position = .error error → FailsAt source detector position (.service error)
  | inference {raw : RawFrame} {error : ServiceError} : position < source.length →
      source.frameAt position = .ok raw → detector.infer raw.id raw.picture = .error error →
        FailsAt source detector position (.service error)

/-- The error is about how the stages are put together. -/
def RunError.isWiring : RunError → Bool
  | .duplicateClassFilter .. | .missingFilterIndex .. | .classAlreadyDetected _ | .exhausted => true
  | .service _ | .plan _ | .sink .. => false

theorem VideoSource.FailsAt.isWiring {source : VideoSource} {detector : Detector} {position : Nat}
    {error : RunError} (fails : source.FailsAt detector position error) : error.isWiring = false := by
  cases fails <;> rfl

/-! ## Pipelines -/

/-- A pipeline in which each stage finds what it reads. -/
structure Pipeline.Wired (source : VideoSource) (detector : Detector) (pipeline : Pipeline) : Prop where
  stream : pipeline.playback.stream = .ofVideo source
  stages : ∃ (detection : DetectionStage) (tracker : Tracker Float32) (className : String) (index : Nat)
      (rest : List Stage),
    detection.detector = detector ∧ detection.classNames = [className] ∧
      pipeline.stages = groundStages detection tracker className index ++ rest ∧
        ∀ stage ∈ rest, stage.Reads className index

/-- The next frame comes through, or the video or the detector fails. -/
theorem Pipeline.Wired.pull {source : VideoSource} {detector : Detector} {pipeline : Pipeline}
    (wired : pipeline.Wired source detector) (more : pipeline.hasNext = true) :
    (∃ final, pipeline.pull.frame = .ok final ∧ pipeline.pull.state.Wired source detector ∧
        pipeline.pull.state.playback.position = pipeline.playback.position + 1) ∨
      ∃ error, pipeline.pull.frame = .error error ∧
        source.FailsAt detector pipeline.playback.position error := by
  obtain ⟨stream, detection, tracker, className, index, rest, rfl, only, stages, reads⟩ := wired
  have room := position_lt_of_hasNext stream more
  cases delivered : source.frameAt pipeline.playback.position with
  | error error =>
      refine Or.inr ⟨.service error, ?_, .delivery room delivered⟩
      rw [Pipeline.pull_of_refused stream room delivered]
  | ok raw =>
      rw [Pipeline.pull_of_delivered stream room delivered, stages]
      cases found : detection.detector.infer raw.id raw.picture with
      | error error =>
          refine Or.inr ⟨.service error, ?_, .inference room delivered found⟩
          rw [applyAll_ground_error only found]
      | ok detections =>
          rw [applyAll_ground only found]
          have listed := positions_groundFrame raw source.metadata className index
            (detection.recordsFor detections className) (tracker.update raw.id
              ((detection.recordsFor detections className).map ObjectRecord.observation)).2
          obtain ⟨⟨final, through⟩, later⟩ := Stage.applyAll_of_reads reads
            (Option.isSome_iff_exists.mpr ⟨_, listed⟩) 3
          exact Or.inl ⟨final, through,
            ⟨rfl, detection, _, className, index, _, rfl, only, rfl, later⟩, rfl⟩

/-! ## Compiled queries -/

theorem error_of_make
    {detector : Detector} {detectorName className : String} {error : ServiceError}
    (refused : DetectionStage.make detector detectorName [className] = .error error) :
    error = .unsupportedClass detectorName className ∧ className ∉ detector.classNames := by
  have sorted : DetectionStage.sortedNames [className] = [className] := rfl
  simp only [DetectionStage.make, sorted, List.find?_cons, List.find?_nil] at refused
  cases known : detector.classNames.contains className with
  | true =>
      rw [known] at refused
      exact absurd refused (by simp)
  | false =>
      rw [known] at refused
      exact ⟨(Except.error.inj refused).symm, by simpa using known⟩

namespace Plan

variable {query : Query} {type : ObjectType} {before after : List Property}

/-- The stages of a plan after the class filter. -/
def readers (query : Query) (type : ObjectType) (before after : List Property) : List Stage :=
  (before.map type.projectorOf).map Stage.project ++
    .keep query.constraint type.className filterIndex :: (after.map type.projectorOf).map Stage.project

theorem stages_planOf (query : Query) (type : ObjectType) (before after : List Property) :
    (planOf query type before after).stages.filterMap Run.stageOf? =
      .selectClass type.className filterIndex :: readers query type before after := by
  unfold planOf readers
  simp only [List.filterMap_append, List.filterMap_cons, List.filterMap_nil,
    Compiled.stageOf_projections, Run.stageOf?]
  simp

theorem reads_readers :
    ∀ stage ∈ readers query type before after, stage.Reads type.className filterIndex := by
  have projects {properties : List Property} {stage : Stage}
      (member : stage ∈ (properties.map type.projectorOf).map Stage.project) :
      stage.Reads type.className filterIndex := by
    obtain ⟨projector, listed, rfl⟩ := List.mem_map.mp member
    obtain ⟨property, _, rfl⟩ := List.mem_map.mp listed
    exact ⟨rfl, rfl⟩
  intro stage member
  rcases List.mem_append.mp member with early | late
  · exact projects early
  · rcases List.mem_cons.mp late with rfl | late
    · exact ⟨rfl, rfl⟩
    · exact projects late

theorem reportOf?_planOf (query : Query) (type : ObjectType) (before after : List Property) :
    (Run.reportOf? (planOf query type before after).stages).isSome := by
  simp [Run.reportOf?, planOf, projection]

variable {plan : Plan} {source : VideoSource} {detector : Detector} {detectorName : String}
  {tracker : TrackerConfig} {output : OutputConfig} {run : Run}

/-- A compiled query is not started only if the detector does not know the class. -/
theorem error_of_start (compiled : Plan.compile query = .ok plan) {error : RunError}
    (refused : Run.start plan source detector detectorName tracker output = .error error) :
    error = .service (.unsupportedClass detectorName plan.type.className) ∧
      plan.type.className ∉ detector.classNames := by
  obtain ⟨type, _, _, before, after, _, _, _, _, _, _, rfl⟩ := compile_eq_ok_iff.mp compiled
  unfold Run.start at refused
  split at refused
  · rename_i failed
    obtain ⟨rfl, unknown⟩ := error_of_make failed
    exact ⟨(Except.error.inj refused).symm, unknown⟩
  · obtain ⟨spec, reported⟩ := Option.isSome_iff_exists.mp (reportOf?_planOf query type before after)
    rw [reported] at refused
    exact absurd refused (by simp)

/-- In a compiled query each stage finds what it reads. -/
theorem wired_of_start (compiled : Plan.compile query = .ok plan)
    (started : Run.start plan source detector detectorName tracker output = .ok run) :
    run.pipeline.Wired source detector := by
  obtain ⟨type, _, _, before, after, _, _, _, _, _, _, rfl⟩ := compile_eq_ok_iff.mp compiled
  unfold Run.start at started
  split at started
  · exact absurd started (by simp)
  · rename_i made
    obtain rfl := make_eq_ok made
    split at started
    · exact absurd started (by simp)
    · obtain rfl := Except.ok.inj started
      rw [stages_planOf]
      exact ⟨rfl, _, _, type.className, filterIndex, _, rfl, rfl, rfl,
        Stage.reads_withTurns reads_readers []⟩

end Plan

namespace Run

variable {source : VideoSource} {detector : Detector} {run later : Run} {clock : Nat → Float}
  {front : List Outcome} {error : RunError}

/-- A frame that fails is the first one that the run has not counted. -/
theorem Pulls.failsAt (pulls : Pulls clock run front later)
    (wired : run.pipeline.Wired source detector)
    (counted : run.pipeline.playback.position = run.framesProcessed) {outcome : Outcome}
    (member : outcome ∈ front) (failed : outcome.result = .error error) :
    source.FailsAt detector later.framesProcessed error := by
  induction pulls with
  | none => exact absurd member List.not_mem_nil
  | @frame run later outcomes more pulls inductionHypothesis =>
      have room : run.pipeline.hasNext = true := (Bool.and_eq_true_iff.mp more).2
      rcases wired.pull room with ⟨final, pulled, wired, position⟩ | ⟨cause, pulled, fails⟩
      · have continued := continues_settle pulled (clock run.framesProcessed)
        rcases List.mem_cons.mp member with rfl | member
        · rw [pull_of_ok pulled] at failed
          exact absurd failed (by simp)
        · refine inductionHypothesis (continued.pipeline ▸ wired) ?_ member
          rw [continued.pipeline, continued.framesProcessed, position, counted]
      · -- nothing is pulled after a frame that has failed
        obtain ⟨rfl, rfl⟩ := pulls.of_end (hasNext_of_error pulled _)
        rw [List.mem_singleton.mp member, pull_of_error pulled] at failed
        rw [← Except.error.inj failed, pull_of_error pulled]
        exact counted ▸ fails

theorem mem_items_error {outcome : Outcome} :
    .error error ∈ outcome.items ↔ outcome.result = .error error := by
  rw [Outcome.items]
  cases outcome.result with
  | ok report => simp
  | error cause => simp [eq_comm]

/-- A compiled query is refused only by a detector that does not know its class, and once it runs only the
video or the detector can fail, on the first frame that is not counted. So no stage misses its list,
writes one twice or finds its class on the frame already, and no more frames are pulled than there are. -/
theorem only_outside_fails {query : Query} {plan : Plan} (compiled : Plan.compile query = .ok plan)
    (source : VideoSource) (detector : Detector) (detectorName : String) (tracker : TrackerConfig)
    (output : OutputConfig) :
    (∀ error, Run.start plan source detector detectorName tracker output = .error error →
        error = .service (.unsupportedClass detectorName plan.type.className) ∧
          plan.type.className ∉ detector.classNames) ∧
      ∀ run, Run.start plan source detector detectorName tracker output = .ok run →
        ∀ (limit : Nat) (clock : Nat → Float) (call : Nat) (error : RunError),
          (run.withLimit limit).answer? clock call = some (.error error) →
            source.FailsAt detector
                ((run.withLimit limit).afterCalls clock (call + 1)).framesProcessed error ∧
              error.isWiring = false := by
  refine ⟨fun error => Plan.error_of_start compiled, ?_⟩
  intro run started limit clock call error answered
  obtain ⟨front, outcome, pulls, member, item⟩ := exists_pulls_of_answer answered
  obtain ⟨beginning, _, fresh⟩ := fresh_of_start started
  have counted : (run.withLimit limit).pipeline.playback.position =
      (run.withLimit limit).framesProcessed :=
    (congrArg Playback.position beginning).trans fresh.symm
  have wired : run.pipeline.Wired source detector := Plan.wired_of_start compiled started
  have fails := pulls.failsAt wired counted member (mem_items_error.mp item)
  exact ⟨fails, fails.isWiring⟩

end Run

namespace Faltering

/-- The error that a run answers. -/
def blamed (run : Run) (call : Nat) : Option RunError :=
  match run.answer? (fun _ => 0) call with
  | some (.error error) => some error
  | _ => none

theorem answer?_of_blamed {run : Run} {call : Nat} {error : RunError}
    (failed : blamed run call = some error) :
    run.answer? (fun _ => 0) call = some (.error error) := by
  unfold blamed at failed
  split at failed
  · rename_i answered
    rw [answered, Option.some.inj failed]
  · exact absurd failed (by simp)

end Faltering

open Faltering in
/-- The detector that does not get over the third frame is to blame, after two frames have been counted. -/
theorem Run.only_outside_fails_faltering :
    ∃ run error, Plan.compile Onlookers.query = .ok Onlookers.plan ∧
      Run.start Onlookers.plan video detector "table" {} {} = .ok run ∧
        (run.withLimit 0).answer? (fun _ => 0) 2 = some (.error error) ∧
          error = .service (.inference "table" "no picture") ∧
            ((run.withLimit 0).afterCalls (fun _ => 0) 3).framesProcessed = 2 ∧
              video.FailsAt detector 2 error ∧ error.isWiring = false := by
  have compiled : Plan.compile Onlookers.query = .ok Onlookers.plan := by cbv
  have blames {run : Run} {error : RunError}
      (started : Run.start Onlookers.plan video detector "table" {} {} = .ok run)
      (failed : blamed (run.withLimit 0) 2 = some error)
      (counted : ((run.withLimit 0).afterCalls (fun _ => 0) 3).framesProcessed = 2) :
      video.FailsAt detector 2 error ∧ error.isWiring = false := by
    have fails := (Run.only_outside_fails compiled video detector "table" {} {}).2 run started 0
      (fun _ => 0) 2 error (answer?_of_blamed failed)
    rwa [counted] at fails
  refine ⟨_, .service (.inference "table" "no picture"), compiled, rfl,
    answer?_of_blamed (by decide +kernel), rfl, by decide +kernel, ?_⟩
  exact blames rfl (by decide +kernel) (by decide +kernel)

end ObjectQuery
