import ObjectQuery.Proofs.Run.Plays
import ObjectQuery.Proofs.Run.Reported

/-!
# All frames or only matches

The mode of the output decides which frames are reported, and nothing else: a run that reports only
matches yields what the run on all frames yields, less the reports without an object, and both count the
same. `InStep` is what the two runs have in common after each frame.
-/

namespace ObjectQuery

/-! ## The two modes side by side -/

namespace Reporter

variable {reporter : Reporter} {frame : Frame}

/-- The reporter that reports only frames with an object. -/
def ofMatches (reporter : Reporter) : Reporter :=
  { reporter with config := { reporter.config with mode := .matchesOnly } }

/-- What becomes of a frame in both modes: one without an object is left out and changes nothing. -/
inductive Splits (reporter : Reporter) (frame : Frame) (report : FrameReport) : Prop
  | without : report.size = 0 → report.trackIds = [] → (reporter.apply frame).1 = reporter →
      reporter.ofMatches.apply frame = (reporter.ofMatches, none) → Splits reporter frame report
  | matched : 0 < report.size →
      reporter.ofMatches.apply frame = ((reporter.apply frame).1.ofMatches, some report) →
      Splits reporter frame report

theorem splits (all : reporter.config.mode = .allFrames) (frame : Frame) :
    ∃ report, (reporter.apply frame).2 = some report ∧ reporter.Splits frame report := by
  obtain ⟨spec, config, seen⟩ := reporter
  have silent : (config.mode == OutputMode.matchesOnly) = false := by
    rw [all]
    rfl
  cases passing : frame.passing spec.index spec.className with
  | nil =>
      refine ⟨_, by simp only [apply, passing, silent, Bool.and_false]; rfl, .without rfl rfl ?_ ?_⟩
      · simp [apply, passing, silent, addSeen]
      · simp [apply, ofMatches, passing]
  | cons record records =>
      refine ⟨_, by simp [apply, passing]; rfl, .matched ?_ ?_⟩
      · simp [FrameReport.size, Keyed.values]
      · simp [apply, ofMatches, passing, objectReport]

end Reporter

/-- Two tallies that count the same but for the reports and the time. -/
structure RunTally.CountsAs (tally other : RunTally) : Prop where
  framesProcessed : tally.framesProcessed = other.framesProcessed
  framesMatched : tally.framesMatched = other.framesMatched
  objectsEmitted : tally.objectsEmitted = other.objectsEmitted
  tracks : tally.tracks = other.tracks

namespace RunTally.CountsAs

variable {tally other : RunTally}

theorem recordProcessed (alike : tally.CountsAs other) (milliseconds milliseconds' : Float) :
    (tally.recordProcessed milliseconds).CountsAs (other.recordProcessed milliseconds') :=
  ⟨congrArg (· + 1) alike.framesProcessed, alike.framesMatched, alike.objectsEmitted, alike.tracks⟩

theorem recordReport (alike : tally.CountsAs other) (report : FrameReport) :
    (tally.recordReport report).CountsAs (other.recordReport report) :=
  ⟨alike.framesProcessed, congrArg (· + _) alike.framesMatched,
    congrArg (· + _) alike.objectsEmitted, congrArg (report.trackIds.foldl addNew) alike.tracks⟩

/-- A report without an object counts for nothing. -/
theorem recordEmpty (alike : tally.CountsAs other) {report : FrameReport} (empty : report.size = 0)
    (untracked : report.trackIds = []) : tally.CountsAs (other.recordReport report) := by
  refine ⟨alike.framesProcessed, ?_, ?_, ?_⟩
  · simp [RunTally.recordReport, empty, alike.framesMatched]
  · simp [RunTally.recordReport, empty, alike.objectsEmitted]
  · simp [RunTally.recordReport, untracked, alike.tracks]

end RunTally.CountsAs

namespace Run

variable {all matching final final' : Run} {clock clock' : Nat → Float} {items items' : List Item}

/-- Whether an item is left when only matches are reported. -/
def Item.isLeft : Item → Bool
  | .ok report => decide (0 < report.size)
  | .error _ => true

/-- A run on all frames and the run that reports only matches, after the same frames. -/
structure InStep (all matching : Run) : Prop where
  pipeline : matching.pipeline = all.pipeline
  mode : all.reporter.config.mode = .allFrames
  reporter : matching.reporter = all.reporter.ofMatches
  framesProcessed : matching.framesProcessed = all.framesProcessed
  limit : matching.limit = all.limit
  failed : matching.failed = all.failed
  tally : matching.tally.CountsAs all.tally

namespace InStep

theorem hasNext_eq (inStep : InStep all matching) : matching.hasNext = all.hasNext := by
  unfold hasNext limitReached
  rw [inStep.pipeline, inStep.framesProcessed, inStep.limit, inStep.failed]

/-- One frame keeps the runs in step. -/
theorem settle (inStep : InStep all matching) (seconds seconds' : Float) :
    InStep (all.settle all.pull seconds) (matching.settle matching.pull seconds') ∧
      matching.pull.items = all.pull.items.filter Item.isLeft := by
  have pipeline := congrArg (fun pipeline => pipeline.pull.state) inStep.pipeline
  cases pulled : all.pipeline.pull.frame with
  | error error =>
      have pulled' : matching.pipeline.pull.frame = .error error := by rw [inStep.pipeline, pulled]
      rw [items_of_error pulled, items_of_error pulled', pull_of_error pulled, pull_of_error pulled']
      exact ⟨⟨pipeline, inStep.mode, inStep.reporter, inStep.framesProcessed, inStep.limit, rfl,
        inStep.tally⟩, rfl⟩
  | ok frame =>
      have pulled' : matching.pipeline.pull.frame = .ok frame := by rw [inStep.pipeline, pulled]
      obtain ⟨report, reported, splits⟩ := Reporter.splits inStep.mode frame
      have mode : (all.reporter.apply frame).1.config.mode = .allFrames := by
        rw [(all.reporter.config_apply frame).2, inStep.mode]
      have processed := congrArg (· + 1) inStep.framesProcessed
      have tally := inStep.tally.recordProcessed (seconds' * 1000.0) (seconds * 1000.0)
      rw [items_of_ok pulled, items_of_ok pulled', pull_of_ok pulled, pull_of_ok pulled',
        inStep.reporter, reported]
      cases splits with
      | without empty untracked same skipped =>
          -- only the run on all frames has a report to count, and that one counts for nothing
          rw [skipped]
          exact ⟨⟨pipeline, mode, congrArg Reporter.ofMatches same.symm, processed, inStep.limit,
            inStep.failed, tally.recordEmpty empty untracked⟩, by simp [Item.isLeft, empty]⟩
      | matched some same =>
          rw [same]
          exact ⟨⟨pipeline, mode, rfl, processed, inStep.limit, inStep.failed,
            tally.recordReport report⟩, by simp [Item.isLeft, some]⟩

/-- Runs in step stay in step to their end. -/
theorem plays (inStep : InStep all matching) (plays : Plays clock all items final)
    (plays' : Plays clock' matching items' final') :
    InStep final final' ∧ items' = items.filter Item.isLeft := by
  induction plays generalizing matching items' with
  | ended ended =>
      cases plays' with
      | ended => exact ⟨inStep, rfl⟩
      | frame more => exact absurd (inStep.hasNext_eq ▸ more) (by simp [ended])
  | frame more later inductionHypothesis =>
      cases plays' with
      | ended ended => exact absurd more (by simp [← inStep.hasNext_eq, ended])
      | frame more' later' =>
          obtain ⟨inStep, first⟩ := inStep.settle _ _
          obtain ⟨inStep, rest⟩ := inductionHypothesis inStep later'
          exact ⟨inStep, by rw [first, rest, List.filter_append]⟩

end InStep

/-- Two runs have processed and matched as many frames and reported as many objects and tracks. -/
structure CountsAs (run other : Run) : Prop where
  framesProcessed : run.framesProcessed = other.framesProcessed
  framesTallied : run.tally.framesProcessed = other.tally.framesProcessed
  framesMatched : run.tally.framesMatched = other.tally.framesMatched
  objectsEmitted : run.tally.objectsEmitted = other.tally.objectsEmitted
  distinctTracks : run.tally.distinctTracks = other.tally.distinctTracks

theorem InStep.countsAs (inStep : InStep all matching) : matching.CountsAs all :=
  ⟨inStep.framesProcessed, inStep.tally.framesProcessed, inStep.tally.framesMatched,
    inStep.tally.objectsEmitted, congrArg List.length inStep.tally.tracks⟩

section Started

variable {plan : Plan} {source : VideoSource} {detector : Detector} {detectorName : String}
  {tracker : TrackerConfig} {output : OutputConfig}

theorem inStep_start
    (started : Run.start plan source detector detectorName tracker
      { output with mode := .allFrames } = .ok all) :
    ∃ matching, Run.start plan source detector detectorName tracker
        { output with mode := .matchesOnly } = .ok matching ∧ InStep all matching := by
  unfold Run.start at *
  split at started
  · exact absurd started (by simp)
  · split at started
    · exact absurd started (by simp)
    · obtain rfl := Except.ok.inj started
      exact ⟨_, rfl, rfl, rfl, rfl, rfl, rfl, rfl, ⟨rfl, rfl, rfl, rfl⟩⟩

/-- Reporting only matches leaves out the reports without an object, and nothing else: what is reported
of the other frames, the error at the end and the counts stay the same. -/
theorem only_matches_left (output : OutputConfig)
    (started : Run.start plan source detector detectorName tracker
      { output with mode := .allFrames } = .ok all) (limit : Nat) (clock clock' : Nat → Float) :
    ∃ matching, Run.start plan source detector detectorName tracker
        { output with mode := .matchesOnly } = .ok matching ∧
      ((matching.withLimit limit).items clock').1 =
          ((all.withLimit limit).items clock).1.filter Item.isLeft ∧
        ((matching.withLimit limit).items clock').2.CountsAs ((all.withLimit limit).items clock).2 := by
  obtain ⟨matching, started, inStep⟩ := inStep_start started
  have limited : InStep (all.withLimit limit) (matching.withLimit limit) :=
    { inStep with limit := rfl }
  obtain ⟨finished, left⟩ := limited.plays (plays_items clock _) (plays_items clock' _)
  exact ⟨matching, started, left, finished.countsAs⟩

end Started

open Passersby in
/-- Somebody who is turned away on the first of two frames. -/
theorem only_matches_left_surer :
    ∃ all, Run.start (surerPlan 0.85) video detector "table" {} { mode := .allFrames } = .ok all ∧
      told "moved" all = [(1, []), (2, [none])] ∧
        ∃ matching, Run.start (surerPlan 0.85) video detector "table" {} { mode := .matchesOnly } =
            .ok matching ∧
          ((matching.withLimit 0).items fun _ => 0).1 =
              ((all.withLimit 0).items fun _ => 0).1.filter Item.isLeft ∧
            ((matching.withLimit 0).items fun _ => 0).2.CountsAs
              ((all.withLimit 0).items fun _ => 0).2 :=
  ⟨_, rfl, by decide +kernel, only_matches_left {} rfl 0 _ _⟩

end Run

end ObjectQuery
