/-!
# Pictures

A bitmap is a rectangle of colours. Cutting a region out of one shifts its coordinates and leaves the
colours as they are.
-/

namespace ObjectQuery

/-- A colour with eight bits a channel. -/
structure Colour where
  red : UInt8
  green : UInt8
  blue : UInt8
deriving DecidableEq, Repr, Inhabited

namespace Colour

def black : Colour := ⟨0, 0, 0⟩

def channelSum (colour : Colour) : Nat :=
  colour.red.toNat + colour.green.toNat + colour.blue.toNat

end Colour

/-- A rectangle of colours. Columns count from the left and rows from the top; only the colours
inside the rectangle mean anything. -/
structure Bitmap where
  width : Nat
  height : Nat
  colourAt : (column row : Nat) → Colour

namespace Bitmap

def channelSum (bitmap : Bitmap) : Nat :=
  (List.range bitmap.height).foldl (fun total row =>
    (List.range bitmap.width).foldl (fun total column =>
      total + (bitmap.colourAt column row).channelSum) total) 0

def region (bitmap : Bitmap) (left top width height : Nat) : Bitmap where
  width := width
  height := height
  colourAt column row := bitmap.colourAt (left + column) (top + row)

end Bitmap

/-- Where a picture comes from. Each cut out of a frame is a picture of its own, told apart by the
property it was cut for, how often that property had been computed on the frame before, the frame, and
the position of the object in the frame. -/
inductive PictureOrigin where
  | given (serial : Nat)
  | cut (property : String) (turn : Nat) (frame : Nat) (position : Nat)
deriving DecidableEq, Repr

/-- A bitmap together with its origin. Two pictures are the same picture exactly when they have the
same origin. -/
structure Picture where
  origin : PictureOrigin
  bitmap : Bitmap

end ObjectQuery
