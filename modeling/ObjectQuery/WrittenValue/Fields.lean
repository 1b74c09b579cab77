import ObjectQuery.Number.Binary
import ObjectQuery.WrittenValue.Basic
/-!
# Reading written values as data

Readers for the parts of a structure. A structure is written as an object, in which every field has at
most one value and members of other names are passed over, or as an array of its fields in order.
-/

namespace ObjectQuery.WrittenValue

def below? (bound : Nat) : WrittenValue → Option Nat
  | .integer n => if 0 ≤ n ∧ n < bound then some n.toNat else none
  | _ => none

/-- An integer that fits a machine word, signed or unsigned. -/
def word? : WrittenValue → Option Int
  | .integer n => if Json.isWord n then some n else none
  | _ => none

/-- A number rounded to the nearest float. -/
def float? : WrittenValue → Option Float
  | .real x => some x
  | other => other.word?.map Float.nearestInt

/-- A number rounded to the nearest one of the narrower format. -/
def single? : WrittenValue → Option Float32
  | .real x => some (Float32.narrowed x)
  | other => other.word?.map fun n => Float32.ofBinaryValue (.finite (decide (n < 0)) n.natAbs 0)

def bool? : WrittenValue → Option Bool
  | .bool truth => some truth
  | _ => none

def text? : WrittenValue → Option String
  | .text content => some content
  | _ => none

def list? {α : Type} (read : WrittenValue → Option α) : WrittenValue → Option (List α)
  | .array items => items.mapM read
  | _ => none

/-! ## Structures -/

/-- What a format asks of the values that stand for structures. -/
structure StructureRules where
  /-- An array may hold more items than there are fields; those that are too many are not read. -/
  allowsMore : Bool
  /-- Members of other names have to be readable, although they are passed over. -/
  readsUnknown : Bool

/-- Nothing beyond the fields in an array, nothing asked of other members. -/
def StructureRules.strict : StructureRules := ⟨false, false⟩

/-- The value of a field among members, none for a field that is missing. -/
def field? (members : List (String × WrittenValue)) (name : String) :
    Option (Option WrittenValue) :=
  match (members.filter fun member => member.1 = name).map Prod.snd with
  | [] => some none
  | [value] => some (some value)
  | _ => none

/-- The values of the named fields of a structure, none for a field that is missing. -/
def fields? (rules : StructureRules) (names : List String) :
    WrittenValue → Option (List (Option WrittenValue))
  | .object members =>
    let others := members.filter fun member => !names.contains member.1
    if rules.readsUnknown && !haveReadable others then none else names.mapM (field? members)
  | .array items =>
    if items.length ≤ names.length || rules.allowsMore then
      some ((items.take names.length).map some ++ List.replicate (names.length - items.length) none)
    else none
  | _ => none

/-- A field that has to be there. -/
def required? {α : Type} (read : WrittenValue → Option α) (field : Option WrittenValue) : Option α :=
  field >>= read

def withDefault? {α : Type} (default : α) (read : WrittenValue → Option α) :
    Option WrittenValue → Option α
  | none => some default
  | some value => read value

/-- A field that may be missing or null. -/
def optional? {α : Type} (read : WrittenValue → Option α) : Option WrittenValue → Option (Option α)
  | none | some .null => some none
  | some value => (read value).map some

end ObjectQuery.WrittenValue
