import ObjectQuery.Number.Binary
/-!
# Decimal text of binary numbers

Two ways to choose decimal digits for a binary number: the fewest digits that read back to it, and
a set number of places or of significant digits rounded from its exact value. How chosen digits are
laid out (where the point stands, when an exponent is written) is a `Decimal.Style` that the writer of a
format passes in.
-/

namespace ObjectQuery

/-- A non-negative decimal: `digits * 10 ^ scale`. -/
structure Decimal where
  digits : Nat
  scale : Int
deriving DecidableEq, Repr

namespace Decimal

/-- Move trailing zeros of the digits into the scale, at most `fuel` of them. -/
def stripZeros : Nat → Decimal → Decimal
  | 0, decimal => decimal
  | fuel + 1, decimal =>
    if decimal.digits ≠ 0 ∧ decimal.digits % 10 = 0 then
      stripZeros fuel ⟨decimal.digits / 10, decimal.scale + 1⟩
    else
      decimal

/-! ## The fewest digits that read back -/

/-- Which of two equally near candidates is taken. -/
inductive TieRule where
  | upward
  | toEven
deriving DecidableEq, Repr

/-- Whether `a * 10 ^ i` is below `b * 2 ^ j`, compared without rounding. -/
def isBelow (a : Nat) (i : Int) (b : Nat) (j : Int) : Bool :=
  decide (a * Nat.pow 10 i.toNat * Nat.pow 2 (-j).toNat <
    b * Nat.pow 2 j.toNat * Nat.pow 10 (-i).toNat)

/-- Whether `b * 2 ^ j` is below `a * 10 ^ i`, compared without rounding. -/
def isAbove (a : Nat) (i : Int) (b : Nat) (j : Int) : Bool :=
  decide (b * Nat.pow 2 j.toNat * Nat.pow 10 (-i).toNat <
    a * Nat.pow 10 i.toNat * Nat.pow 2 (-j).toNat)

/-- Whether a decimal lies between the halfway points to the neighbours of
`significand * 2 ^ power`. The gap below is half as wide where a power of two begins, and the
halfway points themselves belong to the even significand. -/
def readsBack (format : BinaryFormat) (significand : Nat) (power : Int) (decimal : Decimal) : Bool :=
  let narrow := significand = Nat.pow 2 format.fractionBits ∧ format.leastPower < power
  let lower := if narrow then 4 * significand - 1 else 4 * significand - 2
  let upper := 4 * significand + 2
  if significand % 2 = 0 then
    !isBelow decimal.digits decimal.scale lower (power - 2) &&
      !isAbove decimal.digits decimal.scale upper (power - 2)
  else
    isAbove decimal.digits decimal.scale lower (power - 2) &&
      isBelow decimal.digits decimal.scale upper (power - 2)

def wholeUnits (significand : Nat) (power : Int) (scale : Int) : Nat :=
  significand * Nat.pow 2 power.toNat * Nat.pow 10 (-scale).toNat /
    (Nat.pow 2 (-power).toNat * Nat.pow 10 scale.toNat)

/-- The nearer of the two neighbours on a decimal grid that read back, if one does. -/
def onGrid? (format : BinaryFormat) (tie : TieRule) (significand : Nat) (power : Int)
    (scale : Int) : Option Decimal :=
  let units := wholeUnits significand power scale
  let low : Decimal := ⟨units, scale⟩
  let high : Decimal := ⟨units + 1, scale⟩
  match readsBack format significand power low, readsBack format significand power high with
  | true, false => some low
  | false, true => some high
  | false, false => none
  | true, true =>
    if isAbove (2 * units + 1) scale (2 * significand) power then some low
    else if isBelow (2 * units + 1) scale (2 * significand) power then some high
    else match tie with
      | .upward => some high
      | .toEven => some (if units % 2 = 0 then low else high)

/-- The number of decimal digits before the point: the least `k` with the value below `10 ^ k`,
searched upwards from `start` for `fuel` steps. -/
def pointPosition : Nat → Nat → Int → Int → Int
  | 0, _, _, start => start
  | fuel + 1, significand, power, start =>
    if isAbove 1 start significand power then start
    else pointPosition fuel significand power (start + 1)

/-- Grids of one, two and more digits in turn; the first that holds a candidate wins. -/
def searchGrids (format : BinaryFormat) (tie : TieRule) (significand : Nat) (power : Int) :
    Nat → Int → Option Decimal
  | 0, _ => none
  | fuel + 1, scale =>
    match onGrid? format tie significand power scale with
    | some decimal => some decimal
    | none => searchGrids format tie significand power fuel (scale - 1)

/-- The exact decimal value of `significand * 2 ^ power`. -/
def exact (significand : Nat) (power : Int) : Decimal :=
  if 0 ≤ power then ⟨significand * Nat.pow 2 power.toNat, 0⟩
  else ⟨significand * Nat.pow 5 (-power).toNat, power⟩

/-- The fewest digits that read back to a finite number, and of those the nearest. Seventeen always
suffice; the exact value stands behind the search. -/
def shortest (format : BinaryFormat) (tie : TieRule) (significand : Nat) (power : Int) : Decimal :=
  if significand = 0 then ⟨0, 0⟩
  else
    let binaryLength : Int := (significand.log2 : Int) + power
    let start := (binaryLength * 30103).fdiv 100000 - 1
    let point := pointPosition 4 significand power start
    let found := searchGrids format tie significand power 17 (point - 1)
    stripZeros 400 (found.getD (exact significand power))

/-! ## A set number of places or digits -/

/-- The value in units of `10 ^ scale`, rounded to the nearest, a tie going to the even one. -/
def roundedUnits (significand : Nat) (power : Int) (scale : Int) : Nat :=
  BinaryFormat.roundedQuotient (significand * Nat.pow 2 power.toNat * Nat.pow 10 (-scale).toNat)
    (Nat.pow 2 (-power).toNat * Nat.pow 10 scale.toNat)

/-- The exact value rounded to a number of significant digits. -/
def significant (count : Nat) (significand : Nat) (power : Int) : Decimal :=
  if significand = 0 then ⟨0, 0⟩
  else
    let binaryLength : Int := (significand.log2 : Int) + power
    let start := (binaryLength * 30103).fdiv 100000 - 1
    let point := pointPosition 4 significand power start
    let scale := point - count
    stripZeros 400 ⟨roundedUnits significand power scale, scale⟩

/-! ## Layout -/

/-- The digits of the decimal, most significant first. -/
def digitText (decimal : Decimal) : String := toString decimal.digits

/-- How many digits stand before the point in positional writing; zero or less when the number is
below one. -/
def pointAt (decimal : Decimal) : Int := (decimal.digitText.length : Int) + decimal.scale

/-- How a writer lays digits out. -/
structure Style where
  /-- Write without an exponent when the point position lies above the first bound and not above the
  second; no bounds means always. -/
  positional : Option (Int × Int)
  /-- The whole number `1` is written `1.0`. -/
  keepsPoint : Bool
  /-- A positive exponent bears a sign. -/
  signsExponent : Bool
  tie : TieRule
deriving Repr

def zeros (count : Int) : String := String.ofList (List.replicate count.toNat '0')

def positionalText (keepsPoint : Bool) (decimal : Decimal) : String :=
  let digits := decimal.digitText
  let point := decimal.pointAt
  if 0 ≤ decimal.scale then
    digits ++ zeros decimal.scale ++ (if keepsPoint then ".0" else "")
  else if 0 < point then
    (digits.take point.toNat).toString ++ "." ++ (digits.drop point.toNat).toString
  else
    "0." ++ zeros (-point) ++ digits

/-- One digit before the point and the power of ten after the mark. -/
def exponentText (signsExponent : Bool) (decimal : Decimal) : String :=
  let digits := decimal.digitText
  let rest := (digits.drop 1).toString
  let exponent := decimal.pointAt - 1
  (digits.take 1).toString ++ (if rest = "" then "" else "." ++ rest) ++ "e" ++
    (if signsExponent && decide (0 < exponent) then "+" else "") ++ toString exponent

/-- Digits laid out in a notation. Zero is written positionally. -/
def layout (style : Style) (decimal : Decimal) : String :=
  match style.positional with
  | none => positionalText style.keepsPoint decimal
  | some (low, high) =>
    if decimal.digits = 0 ∨ (low < decimal.pointAt ∧ decimal.pointAt ≤ high) then
      positionalText style.keepsPoint decimal
    else
      exponentText style.signsExponent decimal

/-- A number with the fewest digits that read back. -/
def text (format : BinaryFormat) (style : Style) : BinaryValue → String
  | .finite negative significand power =>
    (if negative then "-" else "") ++ layout style (shortest format style.tie significand power)
  | .infinite negative => if negative then "-inf" else "inf"
  | .undefined => "NaN"

/-- A number with a set number of places after the point. -/
def fixedText (places : Nat) : BinaryValue → String
  | .finite negative significand power =>
    let units := toString (roundedUnits significand power (-(places : Int)))
    let padded := zeros ((places : Int) + 1 - units.length) ++ units
    let whole := padded.length - places
    (if negative then "-" else "") ++ (padded.take whole).toString ++
      (if places = 0 then "" else "." ++ (padded.drop whole).toString)
  | .infinite negative => if negative then "-inf" else "inf"
  | .undefined => "NaN"

end Decimal

end ObjectQuery
