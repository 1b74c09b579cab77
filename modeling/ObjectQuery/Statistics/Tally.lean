import ObjectQuery.Report.Basic
import ObjectQuery.Statistics.Running
/-!
# The tally of a run

What is counted while a query runs: frames that went through, reports that came out, the objects and
the different tracks in them, and the time each frame took.
-/

namespace ObjectQuery

/-- The counts of a run so far. -/
structure RunTally where
  framesProcessed : Nat
  framesEmitted : Nat
  /-- Reports with at least one object. -/
  framesMatched : Nat
  objectsEmitted : Nat
  /-- The tracks reported so far, each with the name of its type. -/
  tracks : List (String × Nat)
  objectsPerFrame : RunningStatistics Float
  /-- In milliseconds. -/
  latency : RunningStatistics Float

namespace RunTally

def empty : RunTally := ⟨0, 0, 0, 0, [], .empty, .empty⟩

/-- A frame has gone through all stages in the given time. -/
def recordProcessed (tally : RunTally) (milliseconds : Float) : RunTally :=
  { tally with
    framesProcessed := tally.framesProcessed + 1
    latency := tally.latency.push milliseconds }

/-- A member added to a list unless it is there. -/
def addNew {β : Type} [BEq β] (items : List β) (item : β) : List β :=
  if items.contains item then items else items ++ [item]

def recordReport (tally : RunTally) (report : FrameReport) : RunTally :=
  let size := report.size
  { tally with
    framesEmitted := tally.framesEmitted + 1
    framesMatched := tally.framesMatched + (if 0 < size then 1 else 0)
    objectsEmitted := tally.objectsEmitted + size
    objectsPerFrame := tally.objectsPerFrame.push (Float.nearestInt size)
    tracks := report.trackIds.foldl addNew tally.tracks }

def distinctTracks (tally : RunTally) : Nat := tally.tracks.length

/-- The share of frames with a reported object, in percent. -/
def matchRate (tally : RunTally) : Float :=
  if 0 < tally.framesProcessed then
    Float.nearestInt tally.framesMatched / Float.nearestInt tally.framesProcessed * 100.0
  else 0.0

/-- The match rate with two places and a percent sign. -/
def matchRateText (tally : RunTally) : String :=
  Decimal.fixedText 2 tally.matchRate.binaryValue ++ "%"

def describe (tally : RunTally) : String :=
  "=== Query Summary ===\n" ++
    "Frames processed: " ++ toString tally.framesProcessed ++ "\n" ++
    "Frames emitted: " ++ toString tally.framesEmitted ++ "\n" ++
    "Frames matched: " ++ toString tally.framesMatched ++ " (" ++ tally.matchRateText ++ ")\n" ++
    "Objects emitted: " ++ toString tally.objectsEmitted ++ "\n" ++
    "Distinct tracks: " ++ toString tally.distinctTracks ++ "\n" ++
    "Objects per frame: " ++ tally.objectsPerFrame.describe ++ "\n" ++
    "Latency (ms): " ++ tally.latency.describe ++ "\n"

end RunTally

end ObjectQuery
