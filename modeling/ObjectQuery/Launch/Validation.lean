import ObjectQuery.Detector.Registry
import ObjectQuery.Launch.Config
import ObjectQuery.Number.Decimal
import ObjectQuery.Text.Blank
/-!
# Valid configurations

What a launch configuration has to satisfy before a run may begin, checked in a fixed order: the
thresholds of the tracker, the video, the detector. A valid configuration may still be unwise; such
points are named by warnings.
-/

namespace ObjectQuery

/-- A float in plain digits. -/
def plainStyle : Decimal.Style where
  positional := none
  keepsPoint := false
  signsExponent := false
  tie := .upward

def floatText (x : Float) : String := Decimal.text .double plainStyle x.binaryValue

def singleText (x : Float32) : String := Decimal.text .single plainStyle x.binaryValue

namespace TrackerConfig

def zero : Float32 := Float32.ofBinaryValue (.finite false 0 0)
def one : Float32 := Float32.ofBinaryValue (.finite false 1 0)

/-- Whether a threshold lies above zero and not above one. -/
def isThreshold (x : Float32) : Bool := decide (zero < x) && !decide (one < x)

/-- Whether a floor lies neither below zero nor above one. -/
def isFloor (x : Float32) : Bool := !decide (x < zero) && !decide (one < x)

def checks (config : TrackerConfig) : List (String × Bool) :=
  [("track_thresh", isThreshold config.trackThreshold),
    ("match_thresh", isThreshold config.matchThreshold),
    ("det_thresh", isThreshold config.newTrackThreshold),
    ("low_score_floor", isFloor config.lowScoreFloor),
    ("low_match_thresh", isThreshold config.lowMatchThreshold),
    ("unconfirmed_match_thresh", isThreshold config.tentativeMatchThreshold),
    ("dedup_iou_distance", isThreshold config.duplicateDistance)]

def fault? (config : TrackerConfig) : Option ServiceError :=
  match config.checks.find? fun check => !check.2 with
  | some (field, _) =>
    some (.configValidation ("tracker." ++ field)
      "failed 'range' check (thresholds must lie in (0, 1])")
  | none =>
    if config.trackThreshold ≤ config.lowScoreFloor then
      some (.configValidation "tracker.low_score_floor / tracker.track_thresh"
        ("low_score_floor (" ++ singleText config.lowScoreFloor ++
          ") must be < track_thresh (" ++ singleText config.trackThreshold ++ ")"))
    else if config.maxTimeLost = some 0 then
      some (.configValidation "tracker.max_time_lost" "max_time_lost must be > 0")
    else none

end TrackerConfig

namespace VideoConfig

def fault? (config : VideoConfig) : Option ServiceError :=
  if !(config.fps.isFinite && decide (0.0 < config.fps)) then
    some (.configValidation "video.fps" ("fps must be > 0, got " ++ floatText config.fps))
  else
    match config with
    | .imageDir path _ =>
      if path = "" then
        some (.configValidation "video.path" "image_dir source requires a path")
      else none
    | .blank metadata =>
      if metadata.frameWidth = 0 ∨ metadata.frameHeight = 0 then
        some (.configValidation "video.frame_width / video.frame_height"
          ("frame size must be > 0, got " ++ toString metadata.frameWidth ++ "x" ++
            toString metadata.frameHeight))
      else none

end VideoConfig

namespace DetectorConfig

def fault? (config : DetectorConfig) : Option ServiceError :=
  let isPrecomputed := config.name = DetectorRegistry.precomputedName
  if Text.isBlankText config.name then
    some (.configValidation "detector.name" "detector name cannot be empty")
  else if isPrecomputed ∧ config.path = none then
    some (.configValidation "detector.path" "precomputed detector requires a detection file")
  else if isPrecomputed ∧ config.classNames = [] then
    some (.configValidation "detector.class_names"
      "precomputed detector requires a non-empty class table")
  else
    (config.classNames.findIdx? Text.isBlankText).map fun position =>
      .configValidation ("detector.class_names[" ++ toString position ++ "]")
        "class name cannot be empty"

end DetectorConfig

namespace LaunchConfig

def fault? (config : LaunchConfig) : Option ServiceError :=
  config.tracker.fault? <|> config.video.fault? <|> config.detector.fault?

def validated (config : LaunchConfig) : Except ServiceError LaunchConfig :=
  match config.fault? with
  | some error => .error error
  | none => .ok config

/-! ## Warnings -/

/-- The names that stand in a list for a second time or more. -/
def repeated : (seen : List String) → List String → List String
  | _, [] => []
  | seen, name :: rest =>
    if seen.contains name then name :: repeated seen rest else repeated (name :: seen) rest

/-- Whether lost tracks are kept for less than half a second. -/
def losesEarly (maxTimeLost : Nat) (fps : Float) : Bool :=
  decide (0.0 < fps) && decide (Float.nearestInt maxTimeLost < fps / 2.0)

def lineIf (condition : Bool) (line : String) : List String := if condition then [line] else []

def warnings (config : LaunchConfig) : List String :=
  (match config.video with
    | .blank metadata =>
      lineIf (metadata.frameCount = 0) "video.n_frames is 0; the run will produce no output" ++
        lineIf (config.detector.name ≠ DetectorRegistry.precomputedName)
          ("detector " ++ ticked config.detector.name ++ " receives no pixels from a blank source")
    | .imageDir .. => []) ++
  lineIf config.output.savePath.isNone
    "output.save_path is unset; only a summary will be printed" ++
  lineIf (config.output.mode == .allFrames && !config.output.countsObjects)
    "output.mode = all_frames without frame_vobj_num; empty frames carry no count" ++
  (match config.tracker.maxTimeLost with
    | some maxTimeLost =>
      lineIf (losesEarly maxTimeLost config.video.fps)
        ("tracker.max_time_lost (" ++ toString maxTimeLost ++ ") is under half a second at " ++
          floatText config.video.fps ++ " fps; tracks may fragment")
    | none => []) ++
  (repeated [] config.detector.classNames).map fun name =>
    "detector.class_names lists " ++ ticked name ++ " twice; the first id wins"

end LaunchConfig

end ObjectQuery
