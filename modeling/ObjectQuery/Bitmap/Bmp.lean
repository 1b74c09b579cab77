import ObjectQuery.Bitmap
/-!
# BMP files

Reading and writing of uncompressed bitmaps with twenty-four bits a colour: a file header, a header
with the measures, which has one of a few known sizes, and the rows, each filled up to a multiple of
four bytes. The lowest row comes first, unless a negative height says that the highest one does.
-/

namespace ObjectQuery.Bmp

/-- The byte at an offset, zero past the end. -/
def byteAt (bytes : ByteArray) (offset : Nat) : UInt8 := (bytes[offset]?).getD 0

/-- The number in `count` bytes from an offset, the lowest byte first. -/
def little? (bytes : ByteArray) (offset : Nat) : (count : Nat) → Option Nat
  | 0 => some 0
  | count + 1 => do
    let low ← bytes[offset]?
    let high ← little? bytes (offset + 1) count
    return low.toNat + 256 * high

def signed (n : Nat) : Int := (Int32.ofNat n).toInt

/-- What the headers of a file say. -/
structure Header where
  width : Nat
  height : Nat
  /-- Where the rows begin. -/
  offset : Nat
  /-- Whether the highest row comes first. -/
  isTopDown : Bool

/-- The largest width, and the largest height of rows that begin with the lowest. -/
def largestMeasure : Int := UInt16.size - 1

/-- The size of the short header, and the sizes of the long ones, which begin alike. -/
def shortHeaderSize : Nat := 12
def longHeaderSizes : List Nat := [40, 52, 56, 108, 124]

def shortMeasures? (bytes : ByteArray) : Option (Int × Int) := do
  let width ← little? bytes 18 2
  let height ← little? bytes 20 2
  let planes ← little? bytes 22 2
  let depth ← little? bytes 24 2
  if planes = 1 ∧ depth = 24 then some (width, height) else none

/-- The width and height in a long header. What follows its first forty bytes is not looked at. -/
def longMeasures? (bytes : ByteArray) : Option (Int × Int) := do
  let width ← little? bytes 18 4
  let height ← little? bytes 22 4
  let planes ← little? bytes 26 2
  let depth ← little? bytes 28 2
  let compression ← little? bytes 30 4
  if planes = 1 ∧ depth = 24 ∧ compression = 0 ∧ 54 ≤ bytes.size then
    some (signed width, signed height)
  else none

/-- The headers of a file of the kind that can be read. Neither measure may be zero, and only the
height may be negative. -/
def header? (bytes : ByteArray) : Option Header := do
  let magic ← little? bytes 0 2
  let offset ← little? bytes 10 4
  let size ← little? bytes 14 4
  let (width, height) ←
    if size = shortHeaderSize then shortMeasures? bytes
    else if longHeaderSizes.contains size then longMeasures? bytes
    else none
  if magic = 0x4d42 ∧ 0 < width ∧ width ≤ largestMeasure ∧ height ≠ 0 ∧
      height ≤ largestMeasure ∧ Int32.minValue.toInt < height then
    some ⟨width.toNat, height.natAbs, offset, decide (height < 0)⟩
  else none

def stride (width : Nat) : Nat := (3 * width + 3) / 4 * 4

def bitmap? (bytes : ByteArray) : Option Bitmap := do
  let header ← header? bytes
  if bytes.size < header.offset + stride header.width * header.height then none
  else
    some {
      width := header.width
      height := header.height
      colourAt := fun column row =>
        let stored := if header.isTopDown then row else header.height - 1 - row
        let first := header.offset + stride header.width * stored + 3 * column
        ⟨byteAt bytes (first + 2), byteAt bytes (first + 1), byteAt bytes first⟩ }

/-- A number as `count` bytes, the lowest first. -/
def littleBytes (n : Nat) : (count : Nat) → List UInt8
  | 0 => []
  | count + 1 => UInt8.ofNat n :: littleBytes (n / 256) count

/-- The bytes of a row, filled up with zeros. -/
def rowBytes (bitmap : Bitmap) (row : Nat) : List UInt8 :=
  (List.range bitmap.width).flatMap (fun column =>
    let colour := bitmap.colourAt column row
    [colour.blue, colour.green, colour.red]) ++
      List.replicate (stride bitmap.width - 3 * bitmap.width) 0

def headerBytes (bitmap : Bitmap) : List UInt8 :=
  let size := stride bitmap.width * bitmap.height
  littleBytes 0x4d42 2 ++ littleBytes (54 + size) 4 ++ littleBytes 0 4 ++ littleBytes 54 4 ++
    littleBytes 40 4 ++ littleBytes bitmap.width 4 ++ littleBytes bitmap.height 4 ++
    littleBytes 1 2 ++ littleBytes 24 2 ++ List.replicate 24 0

/-- A bitmap as a file, the lowest row first. -/
def encode (bitmap : Bitmap) : ByteArray :=
  let rows := (List.range bitmap.height).reverse.flatMap (rowBytes bitmap)
  ⟨(headerBytes bitmap ++ rows).toArray⟩

end ObjectQuery.Bmp
