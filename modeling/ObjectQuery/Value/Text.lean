import ObjectQuery.Json.Basic
import ObjectQuery.Number.Decimal
import ObjectQuery.Text.Quoted
import ObjectQuery.Value.Basic
/-!
# Values as text

Two written forms: the JSON of an output record, in which a picture is summed up by its size, and the
description used in plans and messages, which names the kind of every value.
-/

namespace ObjectQuery.Value

/-! ## JSON -/

mutual

def toJson : Value → Json
  | .null | .invalid => .null
  | .bool truth => .bool truth
  | .int n => .integer n.toInt
  | .float x => .ofFloat x
  | .text content => .text content
  | .box corners => .array (corners.toList.map .ofFloat)
  | .list items => .array (itemsToJson items)
  | .picture shown =>
    .object [("height", .integer shown.bitmap.height), ("width", .integer shown.bitmap.width)]

def itemsToJson : List Value → List Json
  | [] => []
  | item :: rest => toJson item :: itemsToJson rest

end

/-! ## Descriptions -/

/-- Numbers keep their point and take an exponent below `1e-4` and from `1e16`. -/
def numberStyle : Decimal.Style where
  positional := some (-4, 16)
  keepsPoint := true
  signsExponent := false
  tie := .upward

def describeNumber (x : Float) : String := Decimal.text .double numberStyle x.binaryValue

/-- The name of a kind with its content in parentheses. -/
def named (kind content : String) : String := kind ++ "(" ++ content ++ ")"

/-- The colour space of every bitmap, in a description. -/
def describedColourSpace : String :=
  "CicpRgb \x7b primaries: SRgb, transfer: SRgb, luminance: NonConstant \x7d"

/-- A bitmap with all its channels, row by row. -/
def describeBitmap (bitmap : Bitmap) : String :=
  let channels := (List.range bitmap.height).flatMap fun row =>
    (List.range bitmap.width).flatMap fun column =>
      let colour := bitmap.colourAt column row
      [colour.red, colour.green, colour.blue].map fun channel => toString channel.toNat
  "ImageBuffer \x7b width: " ++ toString bitmap.width ++ ", height: " ++ toString bitmap.height ++
    ", _phantom: PhantomData<image::color::Rgb<u8>>, color: " ++ describedColourSpace ++
    ", data: " ++ Text.bracketed channels ++ " \x7d"

mutual

def describe : Value → String
  | .null => "Null"
  | .bool truth => named "Bool" (if truth then "true" else "false")
  | .int n => named "Int" (toString n.toInt)
  | .float x => named "Float" (describeNumber x)
  | .text content => named "Text" (Text.quoted content)
  | .box corners => named "BBox" (Text.bracketed (corners.toList.map describeNumber))
  | .list items => named "List" (Text.bracketed (describeItems items))
  | .picture shown => named "Image" (describeBitmap shown.bitmap)
  | .invalid => "Invalid"

def describeItems : List Value → List String
  | [] => []
  | item :: rest => describe item :: describeItems rest

end

end ObjectQuery.Value
