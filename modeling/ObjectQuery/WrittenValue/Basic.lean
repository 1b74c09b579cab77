import ObjectQuery.Json.Basic
/-!
# Values as they are written

What a text holds before its parts are read. A number that is too large, half of a character, or a
list that is nested too deep may be written without a fault and yet stand for no value. It is kept as
unreadable, so that it does no harm in a place that nobody reads. A value all of which can be read is
a JSON value.
-/

namespace ObjectQuery

/-- A value as it is written. -/
inductive WrittenValue where
  | null
  | bool (truth : Bool)
  | integer (n : Int)
  | real (x : Float)
  | text (content : String)
  | array (items : List WrittenValue)
  | object (members : List (String × WrittenValue))
  /-- What is written without a fault but stands for no value. -/
  | unreadable
deriving Inhabited

namespace WrittenValue

/-! ## Readable values -/

mutual

/-- Whether a value can be read in all its parts. -/
def isReadable : WrittenValue → Bool
  | .array items => areReadable items
  | .object members => haveReadable members
  | .unreadable => false
  | _ => true

def areReadable : List WrittenValue → Bool
  | [] => true
  | item :: rest => isReadable item && areReadable rest

def haveReadable : List (String × WrittenValue) → Bool
  | [] => true
  | (_, value) :: rest => isReadable value && haveReadable rest

end

mutual

/-- The JSON value that a value is, if it can be read and its integers fit machine words. -/
def json? : WrittenValue → Option Json
  | .null => some .null
  | .bool truth => some (.bool truth)
  | .integer n => if Json.isWord n then some (.integer n) else none
  | .real x => some (.real x)
  | .text content => some (.text content)
  | .array items => (jsonItems? items).map .array
  | .object members => (jsonMembers? members).map .object
  | .unreadable => none

def jsonItems? : List WrittenValue → Option (List Json)
  | [] => some []
  | item :: rest => do
    let item ← json? item
    let rest ← jsonItems? rest
    return item :: rest

def jsonMembers? : List (String × WrittenValue) → Option (List (String × Json))
  | [] => some []
  | (name, value) :: rest => do
    let value ← json? value
    let rest ← jsonMembers? rest
    return (name, value) :: rest

end

/-! ## JSON values as written ones -/

mutual

def ofJson : Json → WrittenValue
  | .null => .null
  | .bool truth => .bool truth
  | .integer n => .integer n
  | .real x => .real x
  | .text content => .text content
  | .array items => .array (ofItems items)
  | .object members => .object (ofMembers members)

def ofItems : List Json → List WrittenValue
  | [] => []
  | item :: rest => ofJson item :: ofItems rest

def ofMembers : List (String × Json) → List (String × WrittenValue)
  | [] => []
  | (name, value) :: rest => (name, ofJson value) :: ofMembers rest

end

instance : Coe Json WrittenValue := ⟨ofJson⟩

mutual

/-- A JSON value can be read wherever it is written. -/
theorem isReadable_ofJson : (value : Json) → isReadable (ofJson value) = true
  | .null | .bool _ | .integer _ | .real _ | .text _ => by simp only [ofJson, isReadable]
  | .array items => by
    simp only [ofJson, isReadable]
    exact areReadable_ofItems items
  | .object members => by
    simp only [ofJson, isReadable]
    exact haveReadable_ofMembers members

theorem areReadable_ofItems : (items : List Json) → areReadable (ofItems items) = true
  | [] => by simp only [ofItems, areReadable]
  | item :: rest => by
    simp only [ofItems, areReadable, isReadable_ofJson item, areReadable_ofItems rest,
      Bool.and_self]

theorem haveReadable_ofMembers :
    (members : List (String × Json)) → haveReadable (ofMembers members) = true
  | [] => by simp only [ofMembers, haveReadable]
  | (_, value) :: rest => by
    simp only [ofMembers, haveReadable, isReadable_ofJson value, haveReadable_ofMembers rest,
      Bool.and_self]

end

end WrittenValue

end ObjectQuery
