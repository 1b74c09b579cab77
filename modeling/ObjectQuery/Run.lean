import ObjectQuery.Stage.Pipeline
import ObjectQuery.Stage.Reporter
import ObjectQuery.Statistics.Tally
/-!
# Runs

A run pulls the frames of a video through the stages of a plan, one after another, until the video
ends, a limit is reached or a stage fails. After a failure it stays finished.
-/

namespace ObjectQuery

/-- A query that is running. -/
structure Run where
  queryName : String
  pipeline : Pipeline
  reporter : Reporter
  framesProcessed : Nat
  /-- The time that the frames have taken, in seconds. -/
  seconds : Float
  /-- After how many frames to stop. -/
  limit : Option Nat
  tally : RunTally
  failed : Bool

namespace Run

/-! ## Beginning -/

/-- The stage that a step of a plan asks for, if it is not the report. -/
def stageOf? : PlanStage → Option Stage
  | .classFilter className index => some (.selectClass className index)
  | .project spec => some (.project (.ofSpec spec))
  | .predicateFilter predicate className index => some (.keep predicate className index)
  | .report _ => none

/-- The report of a plan, the last one if there are several. -/
def reportOf? (stages : List PlanStage) : Option ReportSpec :=
  (stages.filterMap fun
    | .report spec => some spec
    | _ => none).getLast?

/-- A plan set up on a video with a detector. -/
def start (plan : Plan) (source : VideoSource) (detector : Detector) (detectorName : String)
    (tracker : TrackerConfig) (output : OutputConfig) : Except RunError Run :=
  match DetectionStage.make detector detectorName [plan.type.className] with
  | .error error => .error (.service error)
  | .ok detection =>
    match reportOf? plan.stages with
    | none => .error (.service (.other "plan has no output stage"))
    | some spec =>
      let trackers := ClassTrackers.configured [plan.type.className] tracker source.metadata.fps
      .ok {
        queryName := plan.queryName
        pipeline := .make (.start (.ofVideo source))
          (.detect detection :: .track trackers :: plan.stages.filterMap stageOf?)
        reporter := .start spec output
        framesProcessed := 0
        seconds := 0.0
        limit := none
        tally := .empty
        failed := false }

/-- The run stopped after a number of frames, zero for no limit. -/
def withLimit (run : Run) (limit : Nat) : Run :=
  { run with limit := if limit = 0 then none else some limit }

/-- The mean time of a frame, in milliseconds. -/
def meanMilliseconds (run : Run) : Float :=
  if run.framesProcessed = 0 then 0.0
  else run.seconds * 1000.0 / Float.nearestInt run.framesProcessed

/-! ## One frame -/

def limitReached (run : Run) : Bool :=
  match run.limit with
  | some limit => decide (limit ≤ run.framesProcessed)
  | none => false

def hasNext (run : Run) : Bool := !run.failed && !run.limitReached && run.pipeline.hasNext

/-- What has become of one frame. -/
structure Outcome where
  pipeline : Pipeline
  reporter : Reporter
  result : Except RunError (Option FrameReport)
  calls : List PropertyCall

def pull (run : Run) : Outcome :=
  let passage := run.pipeline.pull
  match passage.frame with
  | .ok frame =>
    let (reporter, report) := run.reporter.apply frame
    ⟨passage.state, reporter, .ok report, passage.calls⟩
  | .error error => ⟨passage.state, run.reporter, .error error, passage.calls⟩

/-- The run after a frame that has taken the given time. -/
def settle (run : Run) (outcome : Outcome) (seconds : Float) : Run :=
  let after := { run with pipeline := outcome.pipeline, reporter := outcome.reporter }
  match outcome.result with
  | .ok report =>
    let tally := run.tally.recordProcessed (seconds * 1000.0)
    { after with
      framesProcessed := run.framesProcessed + 1
      seconds := run.seconds + seconds
      tally := match report with
        | some report => tally.recordReport report
        | none => tally }
  | .error _ => { after with failed := true }

/-! ## Reports -/

/-- What a run yields: a report or the error that ends it. -/
abbrev Item := Except RunError FrameReport

/-- The run after the next report, the report, and the property functions called for it. -/
structure Yield where
  run : Run
  item : Option Item
  calls : List PropertyCall

/-- Pull at most the given number of frames until one is reported or fails. -/
def nextWithin (clock : Nat → Float) : Nat → Run → Yield
  | 0, run => ⟨run, none, []⟩
  | frames + 1, run =>
    if run.hasNext then
      let outcome := run.pull
      let after := run.settle outcome (clock run.framesProcessed)
      match outcome.result with
      | .ok (some report) => ⟨after, some (.ok report), outcome.calls⟩
      | .error error => ⟨after, some (.error error), outcome.calls⟩
      | .ok none =>
        let later := nextWithin clock frames after
        { later with calls := outcome.calls ++ later.calls }
    else ⟨run, none, []⟩

/-- The next report, none at the end. The clock tells how many seconds each frame takes. -/
def next (clock : Nat → Float) (run : Run) : Yield :=
  run.nextWithin clock run.pipeline.playback.remaining

def itemsWithin (clock : Nat → Float) : Nat → Run → List Item × Run
  | 0, run => ([], run)
  | count + 1, run =>
    let yielded := run.next clock
    match yielded.item with
    | some item =>
      let (items, final) := itemsWithin clock count yielded.run
      (item :: items, final)
    | none => ([], yielded.run)

/-- Everything that a run yields, and the run at its end. -/
def items (clock : Nat → Float) (run : Run) : List Item × Run :=
  run.itemsWithin clock (run.pipeline.playback.remaining + 1)

end Run

end ObjectQuery
