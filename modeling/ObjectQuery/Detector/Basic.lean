import ObjectQuery.Error
import ObjectQuery.Frame
/-!
# Detectors

A detector finds objects on a frame and tells their class by a number into its table of names. A
detection stage asks a detector once a frame and keeps the classes that are wanted.
-/

namespace ObjectQuery

/-- What finds objects. -/
structure Detector where
  /-- The names of the classes. -/
  classNames : List String
  /-- The objects on a frame. -/
  infer : (frame : Nat) → (picture : Option Bitmap) → Except ServiceError (List Detection)

namespace Detector

def className? (detector : Detector) (id : Nat) : Option String := detector.classNames[id]?

/-- A detector that knows the objects of every frame beforehand. -/
def ofTable (classNames : List String) (detections : Nat → List Detection) : Detector where
  classNames := classNames
  infer frame _ := .ok (detections frame)

end Detector

/-- Asks a detector for the objects of some classes. -/
structure DetectionStage where
  detector : Detector
  detectorName : String
  /-- In ascending order, each name once. -/
  classNames : List String

namespace DetectionStage

/-- Names in ascending order, each once. -/
def sortedNames (names : List String) : List String :=
  (names.foldl (fun sorted name => Keyed.putSorted sorted name ()) []).keys

/-- A stage for classes that the detector has names for. -/
def make (detector : Detector) (detectorName : String) (classNames : List String) :
    Except ServiceError DetectionStage :=
  let sorted := sortedNames classNames
  match sorted.find? fun name => !detector.classNames.contains name with
  | some missing => .error (.unsupportedClass detectorName missing)
  | none => .ok ⟨detector, detectorName, sorted⟩

/-- The records of the detections of a class, in the order of the detections. -/
def recordsFor (stage : DetectionStage) (detections : List Detection) (className : String) :
    List ObjectRecord :=
  (detections.filter fun detection =>
    stage.detector.className? detection.classId = some className).map ObjectRecord.ofDetection

/-- The frame with the objects of the wanted classes. A class that is on the frame already is not
detected again. -/
def apply (stage : DetectionStage) (frame : Frame) : Except RunError Frame :=
  match stage.classNames.find? fun name => frame.records.has name with
  | some present => .error (.classAlreadyDetected present)
  | none =>
    match stage.detector.infer frame.id frame.picture with
    | .ok detections =>
      .ok (stage.classNames.foldl (fun frame name =>
        frame.setRecords name (stage.recordsFor detections name)) frame)
    | .error error => .error (.service error)

end DetectionStage

end ObjectQuery
