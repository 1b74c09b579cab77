import ObjectQuery.Keyed
/-!
# JSON values

The six kinds of JSON value. A number is an integer or a float; JSON text has words only for integers
that fit a machine word, signed or unsigned, and for finite floats. The members of an object stand in
the order in which they were written; `sorted` puts the members of every object in the order of their
names, the last of several values for a name counting.
-/

namespace ObjectQuery

/-- A JSON value. -/
inductive Json where
  | null
  | bool (truth : Bool)
  | integer (n : Int)
  | real (x : Float)
  | text (content : String)
  | array (items : List Json)
  | object (members : List (String × Json))
deriving Inhabited

namespace Json

/-- A finite float as a number; what is not finite has no JSON form and becomes null. -/
def ofFloat (x : Float) : Json := if x.isFinite then .real x else .null

def ofOption {α : Type} (encode : α → Json) : Option α → Json
  | none => .null
  | some a => encode a

/-- The value of a member, the last one counting. -/
def member? (members : List (String × Json)) (name : String) : Option Json :=
  Keyed.find? members.reverse name

/-- Whether an integer fits a machine word, signed or unsigned. -/
def isWord (n : Int) : Bool := decide (Int64.minValue.toInt ≤ n) && decide (n < UInt64.size)

def natural? : Json → Option Nat
  | .integer n => if 0 ≤ n then some n.toNat else none
  | _ => none

mutual

/-- Members in the order of their names throughout. -/
def sorted : Json → Json
  | .array items => .array (sortedItems items)
  | .object members => .object (sortedMembers members [])
  | other => other

def sortedItems : List Json → List Json
  | [] => []
  | item :: rest => sorted item :: sortedItems rest

def sortedMembers : List (String × Json) → Keyed String Json → Keyed String Json
  | [], done => done
  | (name, value) :: rest, done => sortedMembers rest (done.putSorted name (sorted value))

end

mutual

/-- Equality of values: numbers by value within their kind, objects member by member in order. -/
def same : Json → Json → Bool
  | .null, .null => true
  | .bool a, .bool b => a == b
  | .integer a, .integer b => a == b
  | .real a, .real b => a == b
  | .text a, .text b => a == b
  | .array a, .array b => sameItems a b
  | .object a, .object b => sameMembers a b
  | _, _ => false

def sameItems : List Json → List Json → Bool
  | [], [] => true
  | a :: as, b :: bs => same a b && sameItems as bs
  | _, _ => false

def sameMembers : List (String × Json) → List (String × Json) → Bool
  | [], [] => true
  | (m, a) :: as, (n, b) :: bs => m == n && same a b && sameMembers as bs
  | _, _ => false

end

instance : BEq Json := ⟨same⟩

end Json

end ObjectQuery
