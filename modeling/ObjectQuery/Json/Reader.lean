import ObjectQuery.Number.Binary
import ObjectQuery.WrittenValue.Basic
/-!
# Reading JSON text

A text is one value with blanks around it. An integer that fits a machine word stays an integer; every
other number is the float of its leading digits, as many as fit 64 bits, scaled by a power of ten.
Numbers too large for a float, text with half of a character, and arrays and objects more than 127
deep are unreadable.
-/

namespace ObjectQuery.Json

/-! ## Numbers -/

def significandLimit : Nat := UInt64.size

/-- Division by `1e308`, repeated while the exponent of ten is below the least one of a float. -/
def scaleDown : Nat → Float → Int → Float × Int
  | 0, x, power => (x, power)
  | fuel + 1, x, power =>
    if power < -308 then
      if x == 0.0 then (x, 0) else scaleDown fuel (x / Float.nearestDecimal false 1 308) (power + 308)
    else (x, power)

/-- A significand times a power of ten, none if it is too large. Two divisions by `1e308` make any
significand zero, so a few steps suffice. -/
def scaled? (negative : Bool) (significand : Nat) (power : Int) : Option Float :=
  let start := Float.nearestInt significand
  let (x, power) := scaleDown 4 start power
  let magnitude? : Option Float :=
    if x == 0.0 then some x
    else if 308 < power then none
    else if 0 ≤ power then
      let product := x * Float.nearestDecimal false 1 power
      if product.isInf then none else some product
    else some (x / Float.nearestDecimal false 1 (-power).toNat)
  magnitude?.map fun x => if negative then -x else x

/-- Digits taken into the significand while it fits 64 bits; the rest are counted. -/
def takeDigits (significand : Nat) : List Char → Nat × Nat × Nat
  | [] => (significand, 0, 0)
  | c :: rest =>
    let next := significand * 10 + (c.toNat - 48)
    if next < significandLimit then
      let (final, taken, skipped) := takeDigits next rest
      (final, taken + 1, skipped)
    else (significand, 0, rest.length + 1)

def digitsValue (digits : List Char) : Nat :=
  digits.foldl (fun n c => n * 10 + (c.toNat - 48)) 0

def scaled (negative : Bool) (significand : Nat) (power : Int) : WrittenValue :=
  match scaled? negative significand power with
  | some x => .real x
  | none => .unreadable

/-- The number with the given whole part, fraction and exponent. -/
def number (negative : Bool) (whole : List Char) (fraction : Option (List Char))
    (exponent : Option (Bool × List Char)) : WrittenValue :=
  let (significand, _, skipped) := takeDigits 0 whole
  match fraction, exponent with
  | none, none =>
    if 0 < skipped then scaled negative significand skipped
    else if !negative then .integer significand
    else if significand = 0 ∨ (significand : Int) > -Int64.minValue.toInt then
      .real (-(Float.nearestInt significand))
    else .integer (-significand)
  | _, _ =>
    let (significand, taken, _) := takeDigits significand (fraction.getD [])
    let power : Int := (skipped : Int) - taken
    match exponent with
    | none => scaled negative significand power
    | some (down, digits) =>
      let size := digitsValue digits
      if Int32.maxValue.toInt < size then
        if significand ≠ 0 ∧ !down then .unreadable
        else .real (if negative then -0.0 else 0.0)
      else
        let shift : Int := if down then -(size : Int) else size
        scaled negative significand (power + shift)

def spanDigits (source : List Char) : List Char × List Char := source.span Char.isDigit

/-- The digits before the point. A leading zero stands alone. -/
def wholePart? (source : List Char) : Option (List Char × List Char) :=
  match source with
  | '0' :: rest => if (rest.head?.map Char.isDigit).getD false then none else some (['0'], rest)
  | _ =>
    let (digits, rest) := spanDigits source
    if digits.isEmpty then none else some (digits, rest)

/-- The digits after a point, if there is one. -/
def fractionPart? (source : List Char) : Option (Option (List Char) × List Char) :=
  match source with
  | '.' :: rest =>
    let (digits, rest) := spanDigits rest
    if digits.isEmpty then none else some (some digits, rest)
  | _ => some (none, source)

/-- The sign and the digits of an exponent, if there is one. -/
def exponentPart? (source : List Char) : Option (Option (Bool × List Char) × List Char) :=
  if source.head? = some 'e' ∨ source.head? = some 'E' then
    let (down, rest) := match source.tail with
      | '+' :: rest => (false, rest)
      | '-' :: rest => (true, rest)
      | rest => (false, rest)
    let (digits, rest) := spanDigits rest
    if digits.isEmpty then none else some (some (down, digits), rest)
  else some (none, source)

/-- A number after its sign. -/
def readUnsigned? (negative : Bool) (source : List Char) : Option (WrittenValue × List Char) := do
  let (whole, source) ← wholePart? source
  let (fraction, source) ← fractionPart? source
  let (exponent, source) ← exponentPart? source
  return (number negative whole fraction exponent, source)

/-- A number at the head of the text. -/
def readNumber? (source : List Char) : Option (WrittenValue × List Char) :=
  match source with
  | '-' :: rest => readUnsigned? true rest
  | _ => readUnsigned? false source

/-! ## Text -/

def hexDigit? (c : Char) : Option Nat :=
  if '0' ≤ c ∧ c ≤ '9' then some (c.toNat - 48)
  else if 'a' ≤ c ∧ c ≤ 'f' then some (c.toNat - 87)
  else if 'A' ≤ c ∧ c ≤ 'F' then some (c.toNat - 55)
  else none

def hexUnit? (a b c d : Char) : Option Nat := do
  let a ← hexDigit? a
  let b ← hexDigit? b
  let c ← hexDigit? c
  let d ← hexDigit? d
  return ((a * 16 + b) * 16 + c) * 16 + d

/-- The character that a letter after a backslash stands for. -/
def letterEscape? (c : Char) : Option Char :=
  if c = '"' ∨ c = '\\' ∨ c = '/' then some c
  else if c = 'b' then some '\x08'
  else if c = 'f' then some '\x0c'
  else if c = 'n' then some '\n'
  else if c = 'r' then some '\r'
  else if c = 't' then some '\t'
  else none

/-- The units after an opening quote, added in reverse to those before, and what follows the closing
one. A unit is the number of a character that stands for itself or is escaped by a letter, or the
number in an escape by four digits. -/
def readUnits? (units : List Nat) : List Char → Option (List Nat × List Char)
  | [] => none
  | '"' :: rest => some (units, rest)
  | '\\' :: 'u' :: a :: b :: c :: d :: rest => do
    let unit ← hexUnit? a b c d
    readUnits? (unit :: units) rest
  | '\\' :: letter :: rest => do
    let c ← letterEscape? letter
    readUnits? (c.toNat :: units) rest
  | c :: rest => if c.toNat < 0x20 ∨ c = '\\' then none else readUnits? (c.toNat :: units) rest

/-- Whether a unit is the first half of a character above the first plane, or the second one. -/
def isFirstHalf (unit : Nat) : Bool := decide (0xD800 ≤ unit) && decide (unit < 0xDC00)
def isSecondHalf (unit : Nat) : Bool := decide (0xDC00 ≤ unit) && decide (unit < 0xE000)

/-- The characters of units in reverse, added in front of those after. Neither half of a character may
stand without the other. -/
def joined? (content : List Char) : List Nat → Option (List Char)
  | [] => some content
  | [unit] =>
    if isFirstHalf unit || isSecondHalf unit then none else some (Char.ofNat unit :: content)
  | unit :: before :: rest =>
    if isSecondHalf unit then
      if isFirstHalf before then
        let point := 0x10000 + (before - 0xD800) * 0x400 + (unit - 0xDC00)
        joined? (Char.ofNat point :: content) rest
      else none
    else if isFirstHalf unit then none
    else joined? (Char.ofNat unit :: content) (before :: rest)

/-- The content after an opening quote, none where it cannot be read, and what follows the closing
one. -/
def readContent? (source : List Char) : Option (Option String × List Char) :=
  (readUnits? [] source).map fun (units, rest) => ((joined? [] units).map String.ofList, rest)

/-! ## Values -/

def isBlank (c : Char) : Bool := c = ' ' || c = '\n' || c = '\t' || c = '\r'

def skipBlanks (source : List Char) : List Char := source.dropWhile isBlank

/-- What follows a word, if the text begins with it. -/
def afterWord? (word source : List Char) : Option (List Char) :=
  if word.isPrefixOf source then some (source.drop word.length) else none

mutual

/-- A value at the head of the text, unreadable if it is an array or an object and the depth is used
up. Each step uses a character, so the length of the text is fuel enough. -/
def readValue? : (fuel depth : Nat) → List Char → Option (WrittenValue × List Char)
  | 0, _, _ => none
  | fuel + 1, depth, source =>
    match skipBlanks source with
    | '"' :: rest => (readContent? rest).map fun (content, rest) =>
      (match content with
        | some content => .text content
        | none => .unreadable, rest)
    | '[' :: rest =>
      match skipBlanks rest with
      | ']' :: rest => some (if depth = 0 then .unreadable else .array [], rest)
      | rest => (readItems? fuel (depth - 1) rest).map fun (items, rest) =>
        (if depth = 0 then .unreadable else .array items, rest)
    | '\x7b' :: rest =>
      match skipBlanks rest with
      | '\x7d' :: rest => some (if depth = 0 then .unreadable else .object [], rest)
      | rest => (readMembers? fuel (depth - 1) rest).map fun (members, rest) =>
        (match members with
          | some members => if depth = 0 then .unreadable else .object members
          | none => .unreadable, rest)
    | 'n' :: rest => (afterWord? ['u', 'l', 'l'] rest).map fun rest => (.null, rest)
    | 't' :: rest => (afterWord? ['r', 'u', 'e'] rest).map fun rest => (.bool true, rest)
    | 'f' :: rest => (afterWord? ['a', 'l', 's', 'e'] rest).map fun rest => (.bool false, rest)
    | source => readNumber? source

def readItems? : (fuel depth : Nat) → List Char → Option (List WrittenValue × List Char)
  | 0, _, _ => none
  | fuel + 1, depth, source => do
    let (item, rest) ← readValue? fuel depth source
    match skipBlanks rest with
    | ']' :: rest => some ([item], rest)
    | ',' :: rest => do
      let (items, rest) ← readItems? fuel depth rest
      some (item :: items, rest)
    | _ => none

/-- Members up to the closing brace, none where a name cannot be read. -/
def readMembers? : (fuel depth : Nat) → List Char →
    Option (Option (List (String × WrittenValue)) × List Char)
  | 0, _, _ => none
  | fuel + 1, depth, source =>
    match skipBlanks source with
    | '"' :: rest => do
      let (name, rest) ← readContent? rest
      match skipBlanks rest with
      | ':' :: rest => do
        let (value, rest) ← readValue? fuel depth rest
        match skipBlanks rest with
        | '\x7d' :: rest => some (name.map fun name => [(name, value)], rest)
        | ',' :: rest => do
          let (members, rest) ← readMembers? fuel depth rest
          some (name >>= fun name => members.map ((name, value) :: ·), rest)
        | _ => none
      | _ => none
    | _ => none

end

def nestingLimit : Nat := 127

def written? (source : String) : Option WrittenValue :=
  let chars := source.toList
  match readValue? (2 * chars.length + 2) nestingLimit chars with
  | some (value, rest) => if (skipBlanks rest).isEmpty then some value else none
  | none => none

def read? (source : String) : Option Json := written? source >>= WrittenValue.json?

end ObjectQuery.Json
