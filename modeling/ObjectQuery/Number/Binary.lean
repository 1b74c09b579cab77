/-!
# Binary numbers

A finite number of a binary format is an integer times a power of two. This module reads that form
off the bits of a `Float` or a `Float32`, rounds an exact ratio back to the nearest number of a
format, and gives each number its place on the number line. Everything else that has to be exact
about numbers (their order, their decimal text, changes of format) is arithmetic on these integers.
-/

namespace ObjectQuery

/-! ## Formats and what their bits stand for -/

/-- A binary interchange format, given by the widths of its two fields below the sign. -/
structure BinaryFormat where
  fractionBits : Nat
  exponentBits : Nat
deriving DecidableEq, Repr

namespace BinaryFormat

def double : BinaryFormat := ⟨52, 11⟩

def single : BinaryFormat := ⟨23, 8⟩

/-- The exponent field that marks infinities and undefined results. -/
def topExponent (format : BinaryFormat) : Nat := Nat.pow 2 format.exponentBits - 1

def signBit (format : BinaryFormat) : Nat := Nat.pow 2 (format.fractionBits + format.exponentBits)

/-- The pattern of positive infinity. -/
def infinityBits (format : BinaryFormat) : Nat := format.topExponent * Nat.pow 2 format.fractionBits

/-- The pattern used for every undefined result. -/
def undefinedBits (format : BinaryFormat) : Nat :=
  format.infinityBits + Nat.pow 2 (format.fractionBits - 1)

/-- The power of two that one unit of the smallest significand is worth. -/
def leastPower (format : BinaryFormat) : Int :=
  2 - Nat.pow 2 (format.exponentBits - 1) - format.fractionBits

end BinaryFormat

/-- What a bit pattern stands for: an exact value, an infinity, or no number. -/
inductive BinaryValue where
  | finite (negative : Bool) (significand : Nat) (power : Int)
  | infinite (negative : Bool)
  | undefined
deriving DecidableEq, Repr

namespace BinaryFormat

/-- Read a bit pattern. Below the least exponent the leading one is not implied. -/
def read (format : BinaryFormat) (bits : Nat) : BinaryValue :=
  let negative := decide (format.signBit ≤ bits)
  let magnitude := bits % format.signBit
  let exponent := magnitude / Nat.pow 2 format.fractionBits
  let fraction := magnitude % Nat.pow 2 format.fractionBits
  if exponent = format.topExponent then
    if fraction = 0 then .infinite negative else .undefined
  else if exponent = 0 then
    .finite negative fraction format.leastPower
  else
    .finite negative (fraction + Nat.pow 2 format.fractionBits)
      (format.leastPower + (exponent - 1 : Nat))

/-! ## Rounding an exact ratio -/

/-- The quotient rounded to the nearest integer, a tie going to the even one. -/
def roundedQuotient (numerator denominator : Nat) : Nat :=
  let quotient := numerator / denominator
  let doubledRest := 2 * (numerator % denominator)
  if denominator < doubledRest ∨ (doubledRest = denominator ∧ quotient % 2 = 1) then
    quotient + 1
  else
    quotient

/-- Whether `2 ^ power` is at most the ratio. -/
def powerFits (numerator denominator : Nat) (power : Int) : Bool :=
  if 0 ≤ power then decide (denominator * Nat.pow 2 power.toNat ≤ numerator)
  else decide (denominator ≤ numerator * Nat.pow 2 (-power).toNat)

/-- The exponent of the leading binary digit of a positive ratio. -/
def leadingPower (numerator denominator : Nat) : Int :=
  let estimate : Int := (numerator.log2 : Int) - (denominator.log2 : Int)
  if powerFits numerator denominator estimate then estimate else estimate - 1

/-- The ratio in units of `2 ^ power`, rounded to the nearest integer. -/
def roundedUnits (numerator denominator : Nat) (power : Int) : Nat :=
  if 0 ≤ power then roundedQuotient numerator (denominator * Nat.pow 2 power.toNat)
  else roundedQuotient (numerator * Nat.pow 2 (-power).toNat) denominator

/-- The pattern of the number nearest to a non-negative ratio, with infinity past the largest one.
A significand that rounds up to the next power of two carries into the exponent field. -/
def nearestMagnitude (format : BinaryFormat) (numerator denominator : Nat) : Nat :=
  if numerator = 0 then 0
  else
    let power := max (leadingPower numerator denominator - format.fractionBits) format.leastPower
    let significand := roundedUnits numerator denominator power
    let exponent := (power - format.leastPower).toNat
    min (exponent * Nat.pow 2 format.fractionBits + significand) format.infinityBits

/-- The pattern of the number nearest to a signed ratio. -/
def nearest (format : BinaryFormat) (negative : Bool) (numerator denominator : Nat) : Nat :=
  (if negative then format.signBit else 0) + format.nearestMagnitude numerator denominator

/-- The pattern nearest to `significand * 2 ^ power`. -/
def nearestScaled (format : BinaryFormat) (negative : Bool) (significand : Nat) (power : Int) : Nat :=
  if 0 ≤ power then format.nearest negative (significand * Nat.pow 2 power.toNat) 1
  else format.nearest negative significand (Nat.pow 2 (-power).toNat)

/-- The pattern nearest to `significand * 10 ^ power`. -/
def nearestDecimal (format : BinaryFormat) (negative : Bool) (significand : Nat) (power : Int) : Nat :=
  if 0 ≤ power then format.nearest negative (significand * Nat.pow 10 power.toNat) 1
  else format.nearest negative significand (Nat.pow 10 (-power).toNat)

/-- The pattern of this format nearest to a value of any format. -/
def write (format : BinaryFormat) : BinaryValue → Nat
  | .finite negative significand power => format.nearestScaled negative significand power
  | .infinite negative => (if negative then format.signBit else 0) + format.infinityBits
  | .undefined => format.undefinedBits

/-! ## The number line -/

/-- The place of a pattern on the number line: patterns of one sign follow their magnitudes, the two
zeros share a place, and an undefined result has none. -/
def place? (format : BinaryFormat) (bits : Nat) : Option Int :=
  let magnitude := bits % format.signBit
  if format.infinityBits < magnitude then none
  else if format.signBit ≤ bits then some (-(magnitude : Int))
  else some magnitude

end BinaryFormat

namespace BinaryValue

/-- The largest integer that is at most a finite value. -/
def floor? : BinaryValue → Option Int
  | .finite negative significand power =>
    let signed : Int := if negative then -(significand : Int) else significand
    some (if 0 ≤ power then signed * Nat.pow 2 power.toNat
      else signed.fdiv (Nat.pow 2 (-power).toNat))
  | _ => none

/-- The smallest integer that is at least a finite value. -/
def ceiling? : BinaryValue → Option Int
  | .finite negative significand power =>
    (floor? (.finite (!negative) significand power)).map fun n => -n
  | _ => none

/-- The integer nearest to a finite value, a tie going away from zero. -/
def rounded? : BinaryValue → Option Int
  | .finite negative significand power =>
    let magnitude :=
      if 0 ≤ power then significand * Nat.pow 2 power.toNat
      else (2 * significand + Nat.pow 2 (-power).toNat) / (2 * Nat.pow 2 (-power).toNat)
    some (if negative then -(magnitude : Int) else magnitude)
  | _ => none

end BinaryValue

end ObjectQuery

/-! ## `Float` and `Float32` -/

namespace Float

open ObjectQuery

def binaryValue (x : Float) : BinaryValue := BinaryFormat.double.read x.toBits.toNat

/-- The number nearest to an exact value. -/
def ofBinaryValue (value : BinaryValue) : Float :=
  Float.ofBits (UInt64.ofNat (BinaryFormat.double.write value))

/-- The number nearest to an integer. -/
def nearestInt (n : Int) : Float :=
  ofBinaryValue (.finite (decide (n < 0)) n.natAbs 0)

/-- The number nearest to `significand * 10 ^ power`. -/
def nearestDecimal (negative : Bool) (significand : Nat) (power : Int) : Float :=
  Float.ofBits (UInt64.ofNat (BinaryFormat.double.nearestDecimal negative significand power))

/-- The place on the number line, none for an undefined result. -/
def place? (x : Float) : Option Int := BinaryFormat.double.place? x.toBits.toNat

/-- The order of two numbers, none if one of them is undefined. -/
def order? (x y : Float) : Option Ordering :=
  match x.place?, y.place? with
  | some a, some b => some (compare a b)
  | _, _ => none

/-- Equality of numbers: the zeros are equal, and an undefined result equals nothing. -/
def sameNumber (x y : Float) : Bool := x.order? y == some .eq

/-- The length of the hypotenuse of a right triangle, rounded once. -/
def hypotenuse (x y : Float) : Float :=
  match x.binaryValue, y.binaryValue with
  | .infinite _, _ | _, .infinite _ => ofBinaryValue (.infinite false)
  | .finite _ m p, .finite _ n q =>
    let power : Int := min p q
    let a : Nat := m * Nat.pow 2 (p - power).toNat
    let b : Nat := n * Nat.pow 2 (q - power).toNat
    let shift : Nat := 64
    let square := (a * a + b * b) * Nat.pow 2 (2 * shift)
    let root := square.sqrt
    let sticky := if root * root = square then 2 * root else 2 * root + 1
    ofBinaryValue (.finite false sticky (power - shift - 1))
  | _, _ => ofBinaryValue .undefined

end Float

namespace Float32

open ObjectQuery

def binaryValue (x : Float32) : BinaryValue := BinaryFormat.single.read x.toBits.toNat

/-- The number nearest to an exact value. -/
def ofBinaryValue (value : BinaryValue) : Float32 :=
  Float32.ofBits (UInt32.ofNat (BinaryFormat.single.write value))

def widened (x : Float32) : Float := Float.ofBinaryValue x.binaryValue

def narrowed (x : Float) : Float32 := ofBinaryValue x.binaryValue

end Float32
