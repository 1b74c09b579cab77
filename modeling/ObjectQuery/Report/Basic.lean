import ObjectQuery.Field
import ObjectQuery.Json.Basic
/-!
# Reports

What a query says about one frame: the objects it found, by the name of their type, with the fields
asked for, and if wanted their number on this frame and the number of different tracks so far. As
JSON the object lists stand beside the number of the frame and the two counts.
-/

namespace ObjectQuery

/-- The fields of one object, in the order of their names. -/
abbrev ObjectReport := Keyed String Json

/-- The report on one frame. -/
structure FrameReport where
  frameId : Nat
  /-- In the order of the names. -/
  objects : Keyed String (List ObjectReport)
  objectCount : Option Nat
  totalCount : Option Nat

namespace FrameReport

/-- The names of the members that are not object lists. -/
def frameIdName : String := "frame_id"
def objectCountName : String := "vobj_num"
def totalCountName : String := "total_vobj_num"

def size (report : FrameReport) : Nat := report.objects.values.flatten.length

def trackIdOf? (object : ObjectReport) : Option Nat :=
  Keyed.find? object Field.trackId >>= Json.natural?

/-- The tracks of the reported objects, each with the name of its type. -/
def trackIds (report : FrameReport) : List (String × Nat) :=
  report.objects.flatMap fun (name, objects) =>
    objects.filterMap fun object => (trackIdOf? object).map fun id => (name, id)

/-! ## JSON -/

/-- A count that is left out when it is not wanted. -/
def countMember (name : String) : Option Nat → List (String × Json)
  | some count => [(name, .integer count)]
  | none => []

def toJson (report : FrameReport) : Json :=
  .object
    ((frameIdName, .integer report.frameId) ::
      report.objects.map (fun (name, objects) => (name, .array (objects.map .object))) ++
      countMember objectCountName report.objectCount ++
      countMember totalCountName report.totalCount)

def membersNamed (members : List (String × Json)) (name : String) : List Json :=
  (members.filter fun entry => entry.1 = name).map Prod.snd

/-- A member that has to occur once and to be a natural number. -/
def readNatural? (members : List (String × Json)) (name : String) : Option Nat :=
  match membersNamed members name with
  | [value] => value.natural?
  | _ => none

/-- A member that may be absent or null and is otherwise a natural number. -/
def readCount? (members : List (String × Json)) (name : String) : Option (Option Nat) :=
  match membersNamed members name with
  | [] => some none
  | [.null] => some none
  | [value] => value.natural?.map some
  | _ => none

/-- An object with its fields in the order of their names. -/
def readObject? (value : Json) : Option ObjectReport :=
  match value.sorted with
  | .object members => some members
  | _ => none

def readObjects? : Json → Option (List ObjectReport)
  | .array items => items.mapM readObject?
  | _ => none

def readLists? (members : List (String × Json)) : Option (Keyed String (List ObjectReport)) :=
  (members.filter fun entry =>
    !([frameIdName, objectCountName, totalCountName].contains entry.1)).foldlM
      (fun lists (name, value) => (readObjects? value).map fun objects =>
        lists.putSorted name objects) []

def ofJson? : Json → Option FrameReport
  | .object members => do
    let frameId ← readNatural? members frameIdName
    let objectCount ← readCount? members objectCountName
    let totalCount ← readCount? members totalCountName
    let objects ← readLists? members
    return ⟨frameId, objects, objectCount, totalCount⟩
  | _ => none

end FrameReport

end ObjectQuery
