import ObjectQuery.Tracking.Config
import ObjectQuery.Video.Metadata
/-!
# Launch configurations

What a run needs to know besides its query: the video, the detector, the thresholds of the tracker,
and what becomes of the reports.
-/

namespace ObjectQuery

/-- Which video is played. -/
inductive VideoConfig where
  /-- The picture files of a directory. -/
  | imageDir (path : String) (fps : Float)
  /-- Frames without pictures. -/
  | blank (metadata : VideoMetadata)

namespace VideoConfig

def fps : VideoConfig → Float
  | .imageDir _ fps => fps
  | .blank metadata => metadata.fps

def kind : VideoConfig → String
  | .imageDir .. => "image_dir"
  | .blank _ => "blank"

end VideoConfig

/-- Which detector is used. -/
structure DetectorConfig where
  name : String
  /-- The file that the detector works from. -/
  path : Option String
  /-- The names that the class numbers of detections stand for. -/
  classNames : List String

/-- Which frames are reported. -/
inductive OutputMode where
  /-- Those with an object that satisfies the query. -/
  | matchesOnly
  | allFrames
deriving DecidableEq, Repr

/-- What is reported, and where to. -/
structure OutputConfig where
  mode : OutputMode := .matchesOnly
  /-- The file that the reports are written to. -/
  savePath : Option String := none
  /-- Whether a report counts its objects. -/
  countsObjects : Bool := false
  /-- Whether a report counts the tracks reported so far. -/
  countsTracks : Bool := false

/-- The configuration of a run. -/
structure LaunchConfig where
  video : VideoConfig
  detector : DetectorConfig
  tracker : TrackerConfig := {}
  output : OutputConfig := {}

end ObjectQuery
