import ObjectQuery.Bitmap
import ObjectQuery.Box
import ObjectQuery.Number.Binary
/-!
# Cutting a box out of a bitmap

The coordinates of a box are brought into the bitmap, those of the left top corner rounded down and
those of the right bottom corner rounded up, so that every colour the box touches is inside the cut.
All of it is done on exact values, so nothing is lost between rounding and subtracting.
-/

namespace ObjectQuery

namespace BinaryValue

/-- A value moved into `0 … limit` and rounded by the given rule; none for an undefined one. -/
def moveInside? (round : BinaryValue → Option Int) (limit : Nat) (value : BinaryValue) : Option Nat :=
  match value with
  | .undefined => none
  | .infinite negative => some (if negative then 0 else limit)
  | .finite .. => (round value).map fun n => min n.toNat limit

end BinaryValue

namespace Bitmap

/-- The first of the cells between two coordinates and their number; none if there are no cells
between them. An undefined coordinate leaves a span without cells. -/
def span? (low high : BinaryValue) (limit : Nat) : Option (Nat × Nat) :=
  match low.moveInside? BinaryValue.floor? limit, high.moveInside? BinaryValue.ceiling? limit with
  | some first, some past => if past ≤ first then none else some (first, past - first)
  | first, _ => some (first.getD 0, 0)

/-- The part of a bitmap that a box touches; none if the box has no area inside the bitmap. -/
def cut? (bitmap : Bitmap) (box : Box Float) : Option Bitmap := do
  let (left, width) ← span? box.left.binaryValue box.right.binaryValue bitmap.width
  let (top, height) ← span? box.top.binaryValue box.bottom.binaryValue bitmap.height
  return bitmap.region left top width height

end Bitmap

end ObjectQuery
