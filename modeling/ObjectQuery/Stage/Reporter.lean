import ObjectQuery.Frame
import ObjectQuery.Launch.Config
import ObjectQuery.Plan.Basic
import ObjectQuery.Report.Basic
import ObjectQuery.Value.Text
/-!
# Reporters

A reporter turns a frame that has gone through all stages into a report, or leaves it out when no
object is left and only matches are wanted. It counts the different tracks it has reported.
-/

namespace ObjectQuery

/-- Makes the reports of a query. -/
structure Reporter where
  spec : ReportSpec
  config : OutputConfig
  /-- The tracks reported so far, each once. -/
  seen : List Nat

namespace Reporter

def start (spec : ReportSpec) (config : OutputConfig) : Reporter := ⟨spec, config, []⟩

def trackCount (reporter : Reporter) : Nat := reporter.seen.length

/-- What is reported of an object under a name; nothing for what is invalid or not known. -/
def field? (frame : Frame) (record : ObjectRecord) (name : String) : Option Value :=
  match record.get? name <|> frame.fact? name with
  | some value => if value.isInvalid then none else some value
  | none => none

def objectReport (reporter : Reporter) (frame : Frame) (record : ObjectRecord) : ObjectReport :=
  reporter.spec.fields.foldl (fun fields name =>
    match field? frame record name with
    | some value => fields.putSorted name value.toJson
    | none => fields) []

def addSeen (seen : List Nat) (records : List ObjectRecord) : List Nat :=
  (records.filterMap ObjectRecord.trackId?).foldl (fun seen id =>
    if seen.contains id then seen else seen ++ [id]) seen

/-- The reporter after a frame, and the report on it if there is one. -/
def apply (reporter : Reporter) (frame : Frame) : Reporter × Option FrameReport :=
  let passing := frame.passing reporter.spec.index reporter.spec.className
  if passing.isEmpty && reporter.config.mode == .matchesOnly then (reporter, none)
  else
    let seen := addSeen reporter.seen passing
    let objects := passing.map (reporter.objectReport frame)
    ({ reporter with seen := seen },
      some {
        frameId := frame.id
        objects := [(reporter.spec.typeName, objects)]
        objectCount := if reporter.config.countsObjects then some objects.length else none
        totalCount := if reporter.config.countsTracks then some seen.length else none })

end Reporter

end ObjectQuery
