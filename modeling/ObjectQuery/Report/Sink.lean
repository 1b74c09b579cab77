import ObjectQuery.Error
import ObjectQuery.Host.Basic
import ObjectQuery.Host.Path
import ObjectQuery.Json.Printer
import ObjectQuery.Report.Basic
/-!
# Report files

Reports are written to a file as they come, one line of JSON each, so that what was reported before a
failure stays in the file.
-/

namespace ObjectQuery

/-- A file that reports are written to. -/
structure ReportSink where
  path : String
  /-- The number of reports written. -/
  written : Nat

namespace ReportSink

variable {m : Type → Type} [Monad m] [Host m]

def line (report : FrameReport) : String := report.toJson.compact ++ "\n"

/-- Begin an empty file, with the directories that lead to it. -/
def create (path : String) : m (Except RunError ReportSink) := do
  let prepared ← match Path.parent? path with
    | some parent => Host.makeDirectories parent
    | none => pure (.ok ())
  match prepared with
  | .error message => return .error (.sink path message)
  | .ok _ =>
    match ← Host.createFile path with
    | .error message => return .error (.sink path message)
    | .ok _ => return .ok ⟨path, 0⟩

def write (sink : ReportSink) (report : FrameReport) : m (Except RunError ReportSink) := do
  match ← Host.appendText sink.path (line report) with
  | .error message => return .error (.sink sink.path message)
  | .ok _ => return .ok { sink with written := sink.written + 1 }

end ReportSink

end ObjectQuery
