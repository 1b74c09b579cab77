import ObjectQuery.Detector.Basic
import ObjectQuery.Json.Reader
import ObjectQuery.Number.Natural
import ObjectQuery.Text.Blank
import ObjectQuery.WrittenValue.Fields
/-!
# Precomputed detections

A detection file is a JSON object that lists the detections of each frame under the number of the
frame. It is accepted if every key is the number of a frame and every class number has a name.
-/

namespace ObjectQuery

/-- The detections of a video by frame. -/
structure DetectionTable where
  classNames : List String
  frames : Keyed Nat (List Detection)

namespace DetectionTable

/-! ## Reading -/

def classIdBound : Nat := UInt32.size

def frameBound : Nat := UInt64.size

def readBox? (value : WrittenValue) : Option (Box Float32) :=
  value.list? WrittenValue.single? >>= Box.ofList?

/-- A detection written as a structure. -/
def readDetection? (value : WrittenValue) : Option Detection :=
  match value.fields? .strict ["tlbr", "score", "class_id"] with
  | some [some box, some score, some classId] => do
    let box ← readBox? box
    let score ← score.single?
    let classId ← classId.below? classIdBound
    return ⟨box, score, classId⟩
  | _ => none

/-- The lists of a detection file with their keys, the last of several values for a key counting. -/
def readLists? : WrittenValue → Option (Keyed String (List Detection))
  | .object members =>
    members.foldlM (fun lists (key, value) =>
      (value.list? readDetection?).map fun detections => lists.put key detections) []
  | _ => none

/-- The number of the frame that a key stands for. -/
def frameOfKey? (key : String) : Option Nat :=
  readNatural? frameBound (Text.trimmedChars key.toList)

def addList (table : DetectionTable) (key : String) (detections : List Detection) :
    Except ServiceError DetectionTable :=
  match frameOfKey? key with
  | none => .error (.configParse ("invalid frame id " ++ ticked key ++ " in detection file"))
  | some frame =>
    match detections.find? fun detection => table.classNames.length ≤ detection.classId with
    | some outside =>
      .error (.configParse ("frame " ++ toString frame ++ ": class_id " ++
        toString outside.classId ++ " outside class table of " ++
        toString table.classNames.length ++ " names"))
    | none => .ok { table with frames := table.frames.put frame detections }

def ofText (content : String) (classNames : List String) : Except ServiceError DetectionTable :=
  match Json.written? content >>= readLists? with
  | none => .error (.configParse "invalid detection file: not an object of detection lists")
  | some lists =>
    lists.foldlM (fun table (key, detections) => table.addList key detections) ⟨classNames, []⟩

/-! ## Replaying -/

def frameCount (table : DetectionTable) : Nat := table.frames.length

/-- The detections of a frame; none if the file does not mention it. -/
def detectionsOf (table : DetectionTable) (frame : Nat) : List Detection :=
  (table.frames.find? frame).getD []

def detector (table : DetectionTable) : Detector := .ofTable table.classNames table.detectionsOf

end DetectionTable

end ObjectQuery
