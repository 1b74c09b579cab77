import ObjectQuery.Launch.Config
import ObjectQuery.Launch.Format
import ObjectQuery.Number.Decimal
import ObjectQuery.WrittenValue.Fields
/-!
# Configurations as documents

A launch configuration as a value: four sections, of which those for the tracker and the output may be
missing, as may every field that has a default. Reading what has been written gives the configuration
back.
-/

namespace ObjectQuery

open WrittenValue

namespace Json

/-- A number of the narrower format, by the fewest digits that read back to it. -/
def ofSingle (x : Float32) : Json :=
  match x.binaryValue with
  | .finite negative significand power =>
    let decimal := Decimal.shortest .single .toEven significand power
    .real (Float.nearestDecimal negative decimal.digits decimal.scale)
  | value => .real (Float.ofBinaryValue value)

end Json

/-- The bounds of counts of thirty-two and of sixty-four bits. -/
def wordBound : Nat := UInt32.size
def longBound : Nat := UInt64.size

/-! ## The video -/

namespace VideoConfig

def kindName : String := "source"

def imageDirFields : List String := ["path", "fps"]
def blankFields : List String := ["fps", "frame_width", "frame_height", "n_frames"]

/-- The source of a kind with the other fields as an object or a list. -/
def ofParts? (kind : String) (parts : WrittenValue) : Option VideoConfig :=
  if kind = "image_dir" then do
    match ← parts.fields? .strict imageDirFields with
    | [path, fps] => do
      let path ← required? text? path
      let fps ← required? float? fps
      return .imageDir path fps
    | _ => none
  else if kind = "blank" then do
    match ← parts.fields? .strict blankFields with
    | [fps, width, height, count] => do
      let fps ← required? float? fps
      let width ← required? (below? wordBound) width
      let height ← required? (below? wordBound) height
      let count ← required? (below? longBound) count
      return .blank ⟨fps, width, height, count⟩
    | _ => none
  else none

/-- The source that a value describes: an object that names its kind once, or a list that begins with
the kind. Since the kind may stand behind the other parts, all of them have to be JSON values. -/
def read? (value : WrittenValue) : Option VideoConfig := do
  let _ ← value.json?
  match value with
  | .object members =>
    match (members.filter fun member => member.1 = kindName).map Prod.snd with
    | [.text kind] => ofParts? kind (.object (members.filter fun member => member.1 ≠ kindName))
    | _ => none
  | .array (.text kind :: parts) => ofParts? kind (.array parts)
  | _ => none

def toJson (config : VideoConfig) : Json :=
  match config with
  | .imageDir path fps =>
    .object [(kindName, .text config.kind), ("path", .text path), ("fps", .real fps)]
  | .blank metadata =>
    .object [(kindName, .text config.kind), ("fps", .real metadata.fps),
      ("frame_width", .integer metadata.frameWidth),
      ("frame_height", .integer metadata.frameHeight),
      ("n_frames", .integer metadata.frameCount)]

end VideoConfig

/-! ## The detector -/

namespace DetectorConfig

def fieldNames : List String := ["name", "path", "class_names"]

def read? (format : ConfigFormat) (value : WrittenValue) : Option DetectorConfig := do
  match ← value.fields? format.rules fieldNames with
  | [name, path, classNames] => do
    let name ← required? text? name
    let path ← optional? text? path
    let classNames ← withDefault? [] (list? text?) classNames
    return ⟨name, path, classNames⟩
  | _ => none

def toJson (config : DetectorConfig) : Json :=
  .object [("name", .text config.name), ("path", .ofOption .text config.path),
    ("class_names", .array (config.classNames.map .text))]

end DetectorConfig

/-! ## The tracker -/

namespace TrackerConfig

def fieldNames : List String :=
  ["track_thresh", "match_thresh", "det_thresh", "low_score_floor", "low_match_thresh",
    "unconfirmed_match_thresh", "dedup_iou_distance", "max_time_lost"]

def read? (format : ConfigFormat) (value : WrittenValue) : Option TrackerConfig := do
  let base : TrackerConfig := {}
  match ← value.fields? format.rules fieldNames with
  | [track, full, fresh, floor, low, tentative, duplicate, lost] => do
    let track ← withDefault? base.trackThreshold single? track
    let full ← withDefault? base.matchThreshold single? full
    let fresh ← withDefault? base.newTrackThreshold single? fresh
    let floor ← withDefault? base.lowScoreFloor single? floor
    let low ← withDefault? base.lowMatchThreshold single? low
    let tentative ← withDefault? base.tentativeMatchThreshold single? tentative
    let duplicate ← withDefault? base.duplicateDistance single? duplicate
    let lost ← optional? (below? wordBound) lost
    return ⟨track, full, fresh, floor, low, tentative, duplicate, lost⟩
  | _ => none

def toJson (config : TrackerConfig) : Json :=
  .object [
    ("track_thresh", .ofSingle config.trackThreshold),
    ("match_thresh", .ofSingle config.matchThreshold),
    ("det_thresh", .ofSingle config.newTrackThreshold),
    ("low_score_floor", .ofSingle config.lowScoreFloor),
    ("low_match_thresh", .ofSingle config.lowMatchThreshold),
    ("unconfirmed_match_thresh", .ofSingle config.tentativeMatchThreshold),
    ("dedup_iou_distance", .ofSingle config.duplicateDistance),
    ("max_time_lost", .ofOption (fun n : Nat => .integer n) config.maxTimeLost)]

end TrackerConfig

/-! ## The output -/

namespace OutputMode

def name : OutputMode → String
  | .matchesOnly => "matches_only"
  | .allFrames => "all_frames"

def ofName? (name : String) : Option OutputMode :=
  [OutputMode.matchesOnly, .allFrames].find? fun mode => mode.name = name

/-- A mode by its name, alone or beside a value without data. -/
def read? (format : ConfigFormat) : WrittenValue → Option OutputMode
  | .text name => ofName? name
  | .object [(name, value)] => if format.isUnit value then ofName? name else none
  | _ => none

end OutputMode

namespace OutputConfig

def fieldNames : List String := ["mode", "save_path", "frame_vobj_num", "total_vobj_num"]

def read? (format : ConfigFormat) (value : WrittenValue) : Option OutputConfig := do
  match ← value.fields? format.rules fieldNames with
  | [mode, savePath, countsObjects, countsTracks] => do
    let mode ← withDefault? .matchesOnly (OutputMode.read? format) mode
    let savePath ← optional? text? savePath
    let countsObjects ← withDefault? false bool? countsObjects
    let countsTracks ← withDefault? false bool? countsTracks
    return ⟨mode, savePath, countsObjects, countsTracks⟩
  | _ => none

def toJson (config : OutputConfig) : Json :=
  .object [("mode", .text config.mode.name), ("save_path", .ofOption .text config.savePath),
    ("frame_vobj_num", .bool config.countsObjects), ("total_vobj_num", .bool config.countsTracks)]

end OutputConfig

/-! ## The whole -/

namespace LaunchConfig

def sectionNames : List String := ["video", "detector", "tracker", "output"]

def read? (format : ConfigFormat) (value : WrittenValue) : Option LaunchConfig := do
  match ← value.fields? format.rules sectionNames with
  | [video, detector, tracker, output] => do
    let video ← required? VideoConfig.read? video
    let detector ← required? (DetectorConfig.read? format) detector
    let tracker ← withDefault? {} (TrackerConfig.read? format) tracker
    let output ← withDefault? {} (OutputConfig.read? format) output
    return ⟨video, detector, tracker, output⟩
  | _ => none

def sections (config : LaunchConfig) : List (String × Json) :=
  [("video", config.video.toJson), ("detector", config.detector.toJson),
    ("tracker", config.tracker.toJson), ("output", config.output.toJson)]

def toJson (config : LaunchConfig) : Json := .object config.sections

def write (format : ConfigFormat) (config : LaunchConfig) : String := format.write config.sections

end LaunchConfig

end ObjectQuery
