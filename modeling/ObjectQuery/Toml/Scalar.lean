import ObjectQuery.Number.Binary
import ObjectQuery.WrittenValue.Basic
/-!
# TOML scalars

The values that are written as one word: truth values, integers in four bases, floats, and dates and
times. Digits may be grouped by underscores that stand between two digits. Numbers that are too large
are unreadable. A date or a time is read as an object that holds its text.
-/

namespace ObjectQuery.Toml

/-! ## Digits -/

/-- The digits of a run in which an underscore may stand between two digits. -/
def ungrouped? (isDigit : Char → Bool) : List Char → Option (List Char)
  | [] => none
  | [c] => if isDigit c then some [c] else none
  | c :: '_' :: rest => if isDigit c then (ungrouped? isDigit rest).map (c :: ·) else none
  | c :: rest => if isDigit c then (ungrouped? isDigit rest).map (c :: ·) else none

/-- The value of a digit in a base up to sixteen. -/
def digitValue (c : Char) : Nat :=
  if c.isDigit then c.toNat - '0'.toNat else c.toLower.toNat - 'a'.toNat + 10

/-- Whether a character is a digit in a base up to sixteen. -/
def isDigitOf (base : Nat) (c : Char) : Bool :=
  (c.isDigit || ('a' ≤ c.toLower && c.toLower ≤ 'f')) && decide (digitValue c < base)

def valueOf (base : Nat) (digits : List Char) : Nat :=
  digits.foldl (fun value digit => value * base + digitValue digit) 0

/-- Decimal digits without a needless leading zero. -/
def wholeDigits? (run : List Char) : Option (List Char) :=
  match ungrouped? Char.isDigit run with
  | some ('0' :: _ :: _) => none
  | digits => digits

def signed (word : List Char) : Bool × List Char :=
  match word with
  | '-' :: rest => (true, rest)
  | '+' :: rest => (false, rest)
  | _ => (false, word)

/-! ## Numbers -/

/-- The least and the first number too large of the integers that can be read. -/
def leastInteger : Int := -(Nat.pow 2 127)
def integerBound : Int := Nat.pow 2 128

/-- The magnitude of an integer with a base mark or in decimal digits. -/
def magnitude? (word : List Char) : Option Int :=
  match word with
  | '0' :: 'x' :: run => (ungrouped? (isDigitOf 16) run).map fun digits => valueOf 16 digits
  | '0' :: 'o' :: run => (ungrouped? (isDigitOf 8) run).map fun digits => valueOf 8 digits
  | '0' :: 'b' :: run => (ungrouped? (isDigitOf 2) run).map fun digits => valueOf 2 digits
  | _ =>
    let (negative, run) := signed word
    (wholeDigits? run).map fun digits =>
      if negative then -(valueOf 10 digits : Int) else valueOf 10 digits

def integer? (word : List Char) : Option WrittenValue :=
  (magnitude? word).map fun n =>
    if leastInteger ≤ n ∧ n < integerBound then .integer n else .unreadable

/-- The nearest float of decimal digits and a power of ten, none if it is too large. The digits are
counted first, so that a huge power is never computed. -/
def scaledFloat? (digits : List Char) (power : Int) : Option Float :=
  let significant := digits.dropWhile (· == '0')
  let place : Int := (significant.length : Int) + power
  if significant.isEmpty || decide (place < -400) then some (Float.nearestDecimal false 0 0)
  else if 400 < place then none
  else
    let x := Float.nearestDecimal false (valueOf 10 significant) power
    if x.isFinite then some x else none

def exponent? (run : List Char) : Option Int :=
  let (negative, run) := signed run
  (ungrouped? Char.isDigit run).map fun digits =>
    if negative then -(valueOf 10 digits : Int) else valueOf 10 digits

def isExponentMark (c : Char) : Bool := c == 'e' || c == 'E'

/-- The digits and the power of ten of a float without its sign: a whole part with a fraction, an
exponent, or both. -/
def floatParts? (run : List Char) : Option (List Char × Int) := do
  let (whole, rest) := run.span fun c => c != '.' && !isExponentMark c
  let whole ← wholeDigits? whole
  let (fraction, rest) ← match rest with
    | '.' :: rest =>
      let (digits, rest) := rest.span fun c => !isExponentMark c
      (ungrouped? Char.isDigit digits).map fun digits => (digits, rest)
    | _ => some ([], rest)
  let power ← match rest with
    | [] => if fraction.isEmpty then none else some 0
    | _ :: rest => exponent? rest
  return (whole ++ fraction, power - fraction.length)

/-- A float, one of the two infinities, or the undefined number. -/
def float? (word : List Char) : Option WrittenValue :=
  let (negative, run) := signed word
  let unsigned? : Option (Option Float) :=
    if run = ['i', 'n', 'f'] then some (some (Float.ofBinaryValue (.infinite false)))
    else if run = ['n', 'a', 'n'] then some (some (Float.ofBinaryValue .undefined))
    else (floatParts? run).map fun (digits, power) => scaledFloat? digits power
  unsigned?.map fun
    | some x => .real (if negative then -x else x)
    | none => .unreadable

/-! ## Dates and times -/

/-- A number of exactly `count` digits, and what follows it. -/
def fixedDigits? (count : Nat) (source : List Char) : Option (Nat × List Char) :=
  let digits := source.take count
  if digits.length = count && digits.all Char.isDigit then
    some (valueOf 10 digits, source.drop count)
  else none

def after? (mark : Char) : List Char → Option (List Char)
  | c :: rest => if c = mark then some rest else none
  | [] => none

def daysOf (year month : Nat) : Nat :=
  if month = 2 then
    if year % 4 = 0 && (year % 100 != 0 || year % 400 = 0) then 29 else 28
  else if [4, 6, 9, 11].contains month then 30 else 31

def afterDate? (source : List Char) : Option (List Char) := do
  let (year, rest) ← fixedDigits? 4 source
  let rest ← after? '-' rest
  let (month, rest) ← fixedDigits? 2 rest
  let rest ← after? '-' rest
  let (day, rest) ← fixedDigits? 2 rest
  if 1 ≤ month && month ≤ 12 && 1 ≤ day && day ≤ daysOf year month then some rest else none

/-- What follows the seconds of a time, which may have a fraction; a minute may have sixty-one
seconds. -/
def afterSeconds? (source : List Char) : Option (List Char) := do
  let (second, rest) ← fixedDigits? 2 source
  if second ≤ 60 then
    match rest with
    | '.' :: rest =>
      let (digits, rest) := rest.span Char.isDigit
      if digits.isEmpty then none else some rest
    | _ => some rest
  else none

/-- What follows a time of day; the seconds may be left out. -/
def afterTime? (source : List Char) : Option (List Char) := do
  let (hour, rest) ← fixedDigits? 2 source
  let rest ← after? ':' rest
  let (minute, rest) ← fixedDigits? 2 rest
  if hour ≤ 23 && minute ≤ 59 then
    match rest with
    | ':' :: rest => afterSeconds? rest
    | _ => some rest
  else none

/-- Whether text is an offset from universal time or nothing. -/
def isOffset (source : List Char) : Bool :=
  match source with
  | [] | ['Z'] | ['z'] => true
  | sign :: rest =>
    if sign = '+' || sign = '-' then
      match fixedDigits? 2 rest with
      | some (hours, ':' :: rest) =>
        match fixedDigits? 2 rest with
        | some (minutes, []) => hours ≤ 23 && minutes ≤ 59
        | _ => false
      | _ => false
    else false

/-- Whether a character stands between a date and a time. -/
def isDateTimeMark (c : Char) : Bool := c = 'T' || c = 't' || c = ' '

def isMoment (word : List Char) : Bool :=
  match afterDate? word with
  | some [] => true
  | some (mark :: rest) => isDateTimeMark mark && ((afterTime? rest).map isOffset).getD false
  | none => afterTime? word == some []

/-- The name under which the text of a date or a time is held. -/
def momentName : String := "moment"

/-! ## Words -/

def scalar? (word : List Char) : Option WrittenValue :=
  if word = ['t', 'r', 'u', 'e'] then some (.bool true)
  else if word = ['f', 'a', 'l', 's', 'e'] then some (.bool false)
  else match integer? word, float? word with
    | some n, _ => some n
    | none, some x => some x
    | none, none =>
      if isMoment word then some (.object [(momentName, .text (String.ofList word))]) else none

def isWordChar (c : Char) : Bool :=
  c.isAlphanum || c == '+' || c == '-' || c == '_' || c == '.' || c == ':'

/-- The word at the head of the text. A date followed by a blank and a digit goes on with a time. -/
def takeWord (source : List Char) : List Char × List Char :=
  match source.span isWordChar with
  | (word, ' ' :: c :: rest) =>
    if c.isDigit && afterDate? word == some [] then
      let (time, rest) := (c :: rest).span isWordChar
      (word ++ ' ' :: time, rest)
    else (word, ' ' :: c :: rest)
  | found => found

end ObjectQuery.Toml
