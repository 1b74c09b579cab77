import ObjectQuery.Json.Basic
import ObjectQuery.Number.Decimal
/-!
# JSON text

Values written without blanks, or with one member or item a line and an indent of two. Quotes,
backslashes and control characters are escaped; all else stands as it is.
-/

namespace ObjectQuery.Json

/-- Numbers take the fewest digits that read back, with an exponent below `1e-5` and from `1e+16`. -/
def numberStyle : Decimal.Style where
  positional := some (-5, 16)
  keepsPoint := true
  signsExponent := true
  tie := .toEven

def realText (x : Float) : String := Decimal.text .double numberStyle x.binaryValue

def hexByte (n : Nat) : List Char :=
  [Nat.digitChar (n / 16 % 16), Nat.digitChar (n % 16)]

def escapedChar (c : Char) : List Char :=
  if c = '"' then ['\\', '"']
  else if c = '\\' then ['\\', '\\']
  else if c = '\x08' then ['\\', 'b']
  else if c = '\x0c' then ['\\', 'f']
  else if c = '\n' then ['\\', 'n']
  else if c = '\r' then ['\\', 'r']
  else if c = '\t' then ['\\', 't']
  else if c.toNat < 0x20 then ['\\', 'u', '0', '0'] ++ hexByte c.toNat
  else [c]

def quotedText (content : String) : String :=
  String.ofList ('"' :: content.toList.flatMap escapedChar ++ ['"'])

/-- A scalar, or the empty text for a container. What is no finite number is written as null. -/
def scalarText : Json → String
  | .null => "null"
  | .bool truth => if truth then "true" else "false"
  | .integer n => toString n
  | .real x => if x.isFinite then realText x else "null"
  | .text content => quotedText content
  | _ => ""

mutual

def compact : Json → String
  | .array items => "[" ++ String.intercalate "," (compactItems items) ++ "]"
  | .object members => "\x7b" ++ String.intercalate "," (compactMembers members) ++ "\x7d"
  | scalar => scalarText scalar

def compactItems : List Json → List String
  | [] => []
  | item :: rest => compact item :: compactItems rest

def compactMembers : List (String × Json) → List String
  | [] => []
  | (name, value) :: rest => (quotedText name ++ ":" ++ compact value) :: compactMembers rest

end

/-- The blanks in front of a line at some depth. -/
def indent (depth : Nat) : String := String.ofList (List.replicate (2 * depth) ' ')

/-- Lines between brackets, the closing one at the depth of the opening one. -/
def block (opening closing : String) (depth : Nat) (lines : List String) : String :=
  if lines.isEmpty then opening ++ closing
  else
    opening ++ "\n" ++ String.intercalate ",\n" (lines.map (indent (depth + 1) ++ ·)) ++ "\n" ++
      indent depth ++ closing

mutual

def indented (depth : Nat) : Json → String
  | .array items => block "[" "]" depth (indentedItems depth items)
  | .object members => block "\x7b" "\x7d" depth (indentedMembers depth members)
  | scalar => scalarText scalar

def indentedItems (depth : Nat) : List Json → List String
  | [] => []
  | item :: rest => indented (depth + 1) item :: indentedItems depth rest

def indentedMembers (depth : Nat) : List (String × Json) → List String
  | [] => []
  | (name, value) :: rest =>
    (quotedText name ++ ": " ++ indented (depth + 1) value) :: indentedMembers depth rest

end

/-- A value over several lines, from the margin. -/
def pretty (value : Json) : String := indented 0 value

end ObjectQuery.Json
