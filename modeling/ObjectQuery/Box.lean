/-!
# Boxes

An axis-parallel box, given by its two corners. The number type is a parameter: values and records
hold boxes of `Float`, the tracker computes with boxes of any scalar type.
-/

namespace ObjectQuery

/-- A box from its left top corner to its right bottom corner. Nothing is assumed about the order of
the coordinates. -/
structure Box (α : Type) where
  left : α
  top : α
  right : α
  bottom : α
deriving DecidableEq, Repr, Inhabited

namespace Box

variable {α β : Type}

def toList (box : Box α) : List α := [box.left, box.top, box.right, box.bottom]

def ofList? : List α → Option (Box α)
  | [left, top, right, bottom] => some ⟨left, top, right, bottom⟩
  | _ => none

def map (f : α → β) (box : Box α) : Box β :=
  ⟨f box.left, f box.top, f box.right, f box.bottom⟩

def all (p : α → Bool) (box : Box α) : Bool :=
  p box.left && p box.top && p box.right && p box.bottom

@[simp] theorem ofList?_toList (box : Box α) : ofList? box.toList = some box := rfl

end Box

end ObjectQuery
