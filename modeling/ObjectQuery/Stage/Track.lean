import ObjectQuery.Frame
import ObjectQuery.Tracking.Config
/-!
# The tracking stage

Every tracked class hands its objects to its tracker on every frame, also on one without objects, so
that lost tracks grow older. The numbers of the tracks are written onto the objects, and the lost
tracks are published on the frame.
-/

namespace ObjectQuery

namespace ObjectRecord

/-- What the tracker sees of an object. Without a box and a score it is no well-formed observation. -/
def observation (record : ObjectRecord) : Observation Float32 :=
  match record.box?, record.score? with
  | some box, some score => ⟨box.map Float32.narrowed, Float32.narrowed score⟩
  | _, _ =>
    let undefined := Float32.ofBinaryValue .undefined
    ⟨⟨undefined, undefined, undefined, undefined⟩, Float32.ofBinaryValue (.finite false 0 0)⟩

end ObjectRecord

namespace ClassTrackers

/-- Trackers for the classes of a video with the given number of frames in a second. -/
def configured (classNames : List String) (config : TrackerConfig) (fps : Float) :
    ClassTrackers Float32 :=
  .start classNames (config.settings fps)

/-- The objects with the numbers of the tracks they belong to. -/
def numbered (records : List ObjectRecord) (report : TrackerReport Float32) : List ObjectRecord :=
  report.tracked.foldl (fun records track =>
    match track.sighting with
    | some position => records.modify position fun record => record.setTrackId track.id
    | none => records) records

/-- The frame with what the tracker of a class has to say. -/
def publish (frame : Frame) (className : String) (report : TrackerReport Float32) : Frame :=
  let marked := match frame.records.find? className with
    | some records => frame.setRecords className (numbered records report)
    | none => frame
  { marked with lost := marked.lost.put className (report.lost.map fun track => track.id) }

/-- The trackers after a frame, and the frame with the tracks. -/
def apply (trackers : ClassTrackers Float32) (frame : Frame) : ClassTrackers Float32 × Frame :=
  let observations := trackers.trackers.keys.map fun className =>
    (className, (frame.recordsOf className).map ObjectRecord.observation)
  let (after, reports) := trackers.update frame.id observations
  (after, reports.foldl (fun frame (className, report) => publish frame className report) frame)

end ClassTrackers

end ObjectQuery
