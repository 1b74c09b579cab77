import ObjectQuery.Bitmap
import ObjectQuery.Box
import ObjectQuery.Number.Binary
/-!
# Property values

Every field of an object record is a value. `invalid` marks what could not be computed on a frame; it
is distinct from `null`, which a property may well have as its result.
-/

namespace ObjectQuery

/-- The value of a property. -/
inductive Value where
  | null
  | bool (truth : Bool)
  | int (n : Int64)
  | float (x : Float)
  | text (content : String)
  | box (corners : Box Float)
  | list (items : List Value)
  | picture (shown : Picture)
  | invalid

namespace Value

instance : Inhabited Value := ⟨.null⟩

/-! ## Making values -/

/-- A count or an identifier. Numbers from `2 ^ 63` wrap around to negative ones. -/
def ofNat (n : Nat) : Value := .int (Int64.ofNat n)

/-- A number of the narrower format, kept exactly. -/
def ofSingle (x : Float32) : Value := .float x.widened

def ofOption : Option Value → Value
  | none => .null
  | some value => value

/-! ## Views -/

def isInvalid : Value → Bool
  | .invalid => true
  | _ => false

def isNull : Value → Bool
  | .null => true
  | _ => false

def number? : Value → Option Float
  | .int n => some (Float.nearestInt n.toInt)
  | .float x => some x
  | _ => none

def int? : Value → Option Int64
  | .int n => some n
  | _ => none

def nat? : Value → Option Nat
  | .int n => if 0 ≤ n.toInt then some n.toInt.toNat else none
  | _ => none

def bool? : Value → Option Bool
  | .bool truth => some truth
  | _ => none

def text? : Value → Option String
  | .text content => some content
  | _ => none

def list? : Value → Option (List Value)
  | .list items => some items
  | _ => none

def bitmap? : Value → Option Bitmap
  | .picture shown => some shown.bitmap
  | _ => none

/-- The value as a box; a list of four numbers counts as one. -/
def box? : Value → Option (Box Float)
  | .box corners => some corners
  | .list items => items.mapM number? >>= Box.ofList?
  | _ => none

end Value

end ObjectQuery
