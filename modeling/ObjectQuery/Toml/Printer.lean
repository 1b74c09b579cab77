import ObjectQuery.Json.Printer
import ObjectQuery.Toml.Reader
/-!
# Writing TOML

A JSON object as a document: first the members that are not objects, one line each, then a section
for every member that is one. Null has no form in TOML, so what is null is left out.
-/

namespace ObjectQuery.Toml

def escapedChar (c : Char) : List Char :=
  if c = '"' then ['\\', '"']
  else if c = '\\' then ['\\', '\\']
  else if isPlain c then [c]
  else ['\\', 'u', '0', '0'] ++ Json.hexByte c.toNat

def quotedText (content : String) : String :=
  String.ofList ('"' :: content.toList.flatMap escapedChar ++ ['"'])

/-- A key, between quotes if it has to be. -/
def keyText (name : String) : String :=
  if name != "" && name.toList.all isKeyChar then name else quotedText name

/-- A float, of which the undefined one has a word in small letters. -/
def realText (x : Float) : String := if x.isNaN then "nan" else Json.realText x

mutual

/-- A value on one line, none for null. -/
def valueText? : Json → Option String
  | .null => none
  | .bool truth => some (if truth then "true" else "false")
  | .integer n => some (toString n)
  | .real x => some (realText x)
  | .text content => some (quotedText content)
  | .array items => some ("[" ++ String.intercalate ", " (itemTexts items) ++ "]")
  | .object members => some ("\x7b" ++ String.intercalate ", " (memberTexts members) ++ "\x7d")

def itemTexts : List Json → List String
  | [] => []
  | item :: rest =>
    match valueText? item with
    | some text => text :: itemTexts rest
    | none => itemTexts rest

def memberTexts : List (String × Json) → List String
  | [] => []
  | (name, value) :: rest =>
    match valueText? value with
    | some text => (keyText name ++ " = " ++ text) :: memberTexts rest
    | none => memberTexts rest

end

def section? : Json → Option (List (String × Json))
  | .object members => some members
  | _ => none

def unlines (lines : List String) : String := String.join (lines.map (· ++ "\n"))

def write (members : List (String × Json)) : String :=
  let plain := members.filter fun member => (section? member.2).isNone
  let sections := members.filterMap fun (name, value) =>
    (section? value).map fun inner => (name, inner)
  unlines (memberTexts plain ++ sections.flatMap fun (name, inner) =>
    "" :: ("[" ++ keyText name ++ "]") :: memberTexts inner)

end ObjectQuery.Toml
