import ObjectQuery.Command.Invocation
import ObjectQuery.Command.Outcome
import ObjectQuery.Launch.Load
import ObjectQuery.Launch.Start
import ObjectQuery.Plan.Compile
import ObjectQuery.Report.Sink
/-!
# Running a query

A query of the catalogue is run over the configured video. Reports are written as they come, so that
those before a failure stay; a summary is printed at the end.
-/

namespace ObjectQuery

namespace RunOptions

/-- The configuration with what the command line puts in its place. -/
def override (options : RunOptions) (config : LaunchConfig) : LaunchConfig :=
  { config with output := { config.output with
      savePath := options.output <|> config.output.savePath
      mode := if options.allFrames then .allFrames else config.output.mode } }

/-- The configuration of a run, which has to be valid as loaded and with what is put in its place. -/
def settled (options : RunOptions) (loaded : Except ServiceError LaunchConfig) :
    Except CommandError LaunchConfig :=
  match loaded >>= fun config => (options.override config).validated with
  | .ok config => .ok config
  | .error error => .error (.configInvalid error.message)

def plan (options : RunOptions) (config : LaunchConfig) : Except CommandError Plan :=
  match Query.named? options.query with
  | none => .error (.unknownQuery options.query)
  | some entry =>
    match Plan.compile (entry.build config.detector.classNames) with
    | .ok plan => .ok plan
    | .error error => .error (.plan options.query error.message)

end RunOptions

/-! ## Executing -/

namespace Run

variable {m : Type → Type} [Monad m] [Host m]

/-- A report written to the file, if there is one. -/
def emit (sink : Option ReportSink) (report : FrameReport) :
    m (Except RunError (Option ReportSink)) := do
  match sink with
  | none => return .ok none
  | some sink => return (← sink.write report).map some

/-- At most the given number of frames pulled, each timed, and their reports written. -/
def executeWithin : Nat → Run → Option ReportSink → m (Except RunError Run)
  | 0, run, _ => return .ok run
  | frames + 1, run, sink =>
    if run.hasNext then do
      let (outcome, seconds) ← Host.timed fun _ => run.pull
      let after := run.settle outcome seconds
      match outcome.result with
      | .error error => return .error error
      | .ok none => executeWithin frames after sink
      | .ok (some report) =>
        match ← emit sink report with
        | .error error => return .error error
        | .ok sink => executeWithin frames after sink
    else return .ok run

/-- A run to its end. The file for the reports is begun even if there is none. -/
def execute (run : Run) (savePath : Option String) : m (Except RunError Run) := do
  match savePath with
  | none => run.executeWithin run.pipeline.playback.remaining none
  | some path =>
    match ← ReportSink.create path with
    | .error error => return .error error
    | .ok sink => run.executeWithin run.pipeline.playback.remaining (some sink)

/-! ## The summary -/

def summaryTitle : String := "                       Query Statistics                       "

def throughput (run : Run) (seconds : Float) : Float :=
  if 0.0 < seconds then Float.nearestInt run.framesProcessed / seconds else 0.0

/-- What is printed after a run that has taken the given time. -/
def summary (run : Run) (seconds : Float) : List String :=
  "" :: banner summaryTitle ++
    ["📊 Overview", "   ├─ Query: " ++ run.queryName,
      "   ├─ Duration: " ++ Decimal.fixedText 2 seconds.binaryValue ++ "s",
      "   └─ Throughput: " ++ Decimal.fixedText 1 (run.throughput seconds).binaryValue ++ " frames/s",
      ""]

end Run

/-! ## The command -/

namespace RunOptions

variable {m : Type → Type} [Monad m] [Host m]

def execute (options : RunOptions) (config : LaunchConfig) (plan : Plan) :
    m (Except CommandError String) := do
  let begun ← Host.now
  match ← Run.launch plan config .builtin with
  | .error error => return .error (.execution error.message)
  | .ok run =>
    match ← (run.withLimit options.maxFrames).execute config.output.savePath with
    | .error error => return .error (.execution error.message)
    | .ok run =>
      let ended ← Host.now
      return .ok ((Outcome.printed (run.summary (ended - begun))).output ++ run.tally.describe)

def perform (options : RunOptions) : m (Except CommandError String) := do
  match ← Host.kindOf options.config with
  | none => return .error (.configNotFound options.config)
  | some _ =>
    match options.settled (← LaunchConfig.load options.config) with
    | .error error => return .error error
    | .ok config =>
      match options.plan config with
      | .error error => return .error error
      | .ok plan =>
        if options.dryRun then return .ok (plan.describe ++ "\n")
        else options.execute config plan

end RunOptions

end ObjectQuery
