import Mathlib
import ObjectQuery.Number.Binary

/-!
# Integers among the floats

The float nearest to an integer stands for an integer again: the one that is left when the integer is
rounded to the binary digits that a significand has (`BinaryFormat.roundedNat`, `Float.roundedInt`). Integers
are ordered as floats the way their rounded ones are (`Float.order?_nearestInt`), and rounding keeps the order,
changes nothing up to `2 ^ 53`, and moves an integer by at most its share of one in `2 ^ 53`.
-/

namespace ObjectQuery

namespace BinaryFormat

/-! ## Rounded quotients -/

section Quotient

variable {numerator other denominator : Nat}

theorem roundedQuotient_one (numerator : Nat) : roundedQuotient numerator 1 = numerator := by
  simp [roundedQuotient, Nat.mod_one]

theorem div_le_roundedQuotient (numerator denominator : Nat) :
    numerator / denominator ≤ roundedQuotient numerator denominator := by
  unfold roundedQuotient
  dsimp only
  split
  · exact Nat.le_succ _
  · exact Nat.le_refl _

theorem roundedQuotient_le (numerator denominator : Nat) :
    roundedQuotient numerator denominator ≤ numerator / denominator + 1 := by
  unfold roundedQuotient
  dsimp only
  split
  · exact Nat.le_refl _
  · exact Nat.le_succ _

theorem roundedQuotient_mono (atMost : numerator ≤ other) :
    roundedQuotient numerator denominator ≤ roundedQuotient other denominator := by
  rcases Nat.lt_or_eq_of_le (Nat.div_le_div_right (c := denominator) atMost) with below | same
  · exact Nat.le_trans (roundedQuotient_le ..) (Nat.le_trans below (div_le_roundedQuotient ..))
  · -- with one quotient the larger rest is rounded up if the smaller one is
    have rests : numerator % denominator ≤ other % denominator := by
      have first := Nat.div_add_mod numerator denominator
      have second := Nat.div_add_mod other denominator
      rw [same] at first
      omega
    unfold roundedQuotient
    dsimp only
    rw [same]
    split <;> split <;> omega

/-- A quotient is rounded by at most one half. -/
theorem near_roundedQuotient (numerator : Nat) (positive : 0 < denominator) :
    2 * (roundedQuotient numerator denominator * denominator) ≤ 2 * numerator + denominator ∧
      2 * numerator ≤ 2 * (roundedQuotient numerator denominator * denominator) + denominator := by
  have divided := Nat.div_add_mod numerator denominator
  have rest := Nat.mod_lt numerator positive
  rw [Nat.mul_comm] at divided
  unfold roundedQuotient
  dsimp only
  split
  · rw [Nat.add_one_mul (numerator / denominator)]
    omega
  · omega

end Quotient

/-! ## Rounded natural numbers -/

/-- What one unit in the last place of a number is worth. -/
def unitAt (format : BinaryFormat) (n : Nat) : Nat := 2 ^ (n.log2 - format.fractionBits)

/-- A natural number rounded to the digits of a significand, a tie going to the even one. -/
def roundedNat (format : BinaryFormat) (n : Nat) : Nat :=
  roundedQuotient n (format.unitAt n) * format.unitAt n

variable (format : BinaryFormat) {n m : Nat}

theorem unitAt_of_log2_le (short : n.log2 ≤ format.fractionBits) : format.unitAt n = 1 := by
  rw [unitAt, Nat.sub_eq_zero_of_le short, Nat.pow_zero]

theorem roundedNat_of_log2_le (short : n.log2 ≤ format.fractionBits) : format.roundedNat n = n := by
  rw [roundedNat, unitAt_of_log2_le format short, roundedQuotient_one, Nat.mul_one]

theorem roundedNat_zero : format.roundedNat 0 = 0 :=
  roundedNat_of_log2_le format (by simp)

theorem unitAt_mul (long : format.fractionBits ≤ n.log2) :
    format.unitAt n * 2 ^ format.fractionBits = 2 ^ n.log2 := by
  rw [unitAt, ← Nat.pow_add, Nat.sub_add_cancel long]

theorem unitAt_pos (n : Nat) : 0 < format.unitAt n := Nat.two_pow_pos _

/-- Rounding does not go below the leading digit. -/
theorem two_pow_log2_le_roundedNat (positive : n ≠ 0) : 2 ^ n.log2 ≤ format.roundedNat n := by
  have leading := Nat.log2_self_le positive
  by_cases short : n.log2 ≤ format.fractionBits
  · rwa [roundedNat_of_log2_le format short]
  · have unit := unitAt_mul format (Nat.le_of_not_le short)
    have quotient : 2 ^ format.fractionBits ≤ n / format.unitAt n := by
      rw [Nat.le_div_iff_mul_le (unitAt_pos format n), Nat.mul_comm, unit]
      exact leading
    rw [← unit, Nat.mul_comm, roundedNat]
    exact Nat.mul_le_mul_right _ (Nat.le_trans quotient (div_le_roundedQuotient ..))

theorem roundedNat_pos (positive : n ≠ 0) : 0 < format.roundedNat n :=
  Nat.lt_of_lt_of_le (Nat.two_pow_pos n.log2) (two_pow_log2_le_roundedNat format positive)

/-- Rounding goes at most to the next power of two. -/
theorem roundedNat_le_two_pow (n : Nat) : format.roundedNat n ≤ 2 ^ (n.log2 + 1) := by
  have bound : n < 2 ^ (n.log2 + 1) := Nat.lt_log2_self
  by_cases short : n.log2 ≤ format.fractionBits
  · rw [roundedNat_of_log2_le format short]
    exact Nat.le_of_lt bound
  · have unit := unitAt_mul format (Nat.le_of_not_le short)
    have top : 2 ^ (n.log2 + 1) = 2 ^ (format.fractionBits + 1) * format.unitAt n := by
      rw [Nat.pow_succ, ← unit, Nat.pow_succ]
      ring
    have quotient : n / format.unitAt n < 2 ^ (format.fractionBits + 1) := by
      rw [Nat.div_lt_iff_lt_mul (unitAt_pos format n), ← top]
      exact bound
    rw [top, roundedNat]
    exact Nat.mul_le_mul_right _ (Nat.le_trans (roundedQuotient_le ..) quotient)

theorem roundedNat_mono (atMost : n ≤ m) : format.roundedNat n ≤ format.roundedNat m := by
  by_cases zero : n = 0
  · rw [zero, roundedNat_zero]
    exact Nat.zero_le _
  · have digits : n.log2 ≤ m.log2 := by
      rw [Nat.log2_eq_log_two, Nat.log2_eq_log_two]
      exact Nat.log_mono_right atMost
    rcases Nat.lt_or_eq_of_le digits with shorter | same
    · calc format.roundedNat n
          ≤ 2 ^ (n.log2 + 1) := roundedNat_le_two_pow format n
        _ ≤ 2 ^ m.log2 := Nat.pow_le_pow_right Nat.two_pos shorter
        _ ≤ format.roundedNat m := two_pow_log2_le_roundedNat format (by omega)
    · have unit : format.unitAt n = format.unitAt m := by rw [unitAt, unitAt, same]
      rw [roundedNat, roundedNat, unit]
      exact Nat.mul_le_mul_right _ (roundedQuotient_mono atMost)

/-- What has as many digits as a significand is not changed, nor is the next power of two. -/
theorem roundedNat_of_le (small : n ≤ 2 ^ (format.fractionBits + 1)) : format.roundedNat n = n := by
  rcases Nat.lt_or_eq_of_le small with below | top
  · by_cases zero : n = 0
    · rw [zero, roundedNat_zero]
    · exact roundedNat_of_log2_le format (Nat.le_of_lt_succ ((Nat.log2_lt zero).mpr below))
  · have unit : format.unitAt n = 2 := by
      rw [unitAt, top, Nat.log2_two_pow, Nat.add_sub_cancel_left, Nat.pow_one]
    have half : n = 2 ^ format.fractionBits * 2 := by rw [top, Nat.pow_succ]
    have quotient : roundedQuotient n 2 = 2 ^ format.fractionBits := by
      rw [half]
      simp [roundedQuotient]
    rw [roundedNat, unit, quotient, ← half]

/-- A number is moved by at most half a unit, which is its share of one in `2 ^ (fractionBits + 1)`. -/
theorem near_roundedNat (n : Nat) :
    2 ^ (format.fractionBits + 1) * format.roundedNat n ≤ 2 ^ (format.fractionBits + 1) * n + n ∧
      2 ^ (format.fractionBits + 1) * n ≤ 2 ^ (format.fractionBits + 1) * format.roundedNat n + n := by
  by_cases short : n.log2 ≤ format.fractionBits
  · rw [roundedNat_of_log2_le format short]
    exact ⟨Nat.le_add_right _ _, Nat.le_add_right _ _⟩
  · have positive : n ≠ 0 := by
      rintro rfl
      simp at short
    have leading := Nat.log2_self_le positive
    rw [← unitAt_mul format (Nat.le_of_not_le short)] at leading
    obtain ⟨above, below⟩ := near_roundedQuotient n (unitAt_pos format n)
    have scaledAbove := Nat.mul_le_mul_left (2 ^ format.fractionBits) above
    have scaledBelow := Nat.mul_le_mul_left (2 ^ format.fractionBits) below
    rw [Nat.pow_succ, roundedNat]
    constructor <;> linarith

/-! ## Patterns of integers -/

theorem leadingPower_one (positive : n ≠ 0) : leadingPower n 1 = n.log2 := by
  have fits : powerFits n 1 n.log2 = true := by
    simpa [powerFits] using Nat.log2_self_le positive
  have one : Nat.log2 1 = 0 := by decide
  simp [leadingPower, one, fits]

/-- The significand of a rounded number. -/
theorem roundedUnits_mul (n : Nat) :
    roundedUnits n 1 ((n.log2 : Int) - double.fractionBits) * 2 ^ n.log2 =
      double.roundedNat n * 2 ^ double.fractionBits := by
  unfold roundedUnits
  split
  · rename_i long
    have long : double.fractionBits ≤ n.log2 := by omega
    have unit : 1 * Nat.pow 2 ((n.log2 : Int) - double.fractionBits).toNat = double.unitAt n := by
      rw [unitAt, Nat.pow_eq, Nat.one_mul]
      congr 1
      omega
    rw [unit, ← unitAt_mul double long, roundedNat, Nat.mul_assoc]
  · rename_i short
    have short : n.log2 ≤ double.fractionBits := by omega
    have places : (-((n.log2 : Int) - double.fractionBits)).toNat + n.log2 = double.fractionBits := by
      omega
    rw [roundedQuotient_one, roundedNat_of_log2_le double short, Nat.pow_eq, Nat.mul_assoc,
      ← Nat.pow_add, places]

theorem nearestMagnitude_eq (positive : n ≠ 0) (bound : n < 2 ^ 64) :
    double.nearestMagnitude n 1 =
      min ((n.log2 + 1022) * 2 ^ 52 + roundedUnits n 1 ((n.log2 : Int) - double.fractionBits))
        (2047 * 2 ^ 52) := by
  have digits : n.log2 < 64 := (Nat.log2_lt positive).mpr bound
  have fraction : double.fractionBits = 52 := rfl
  have least : double.leastPower = -1074 := by decide
  have infinity : double.infinityBits = 2047 * 2 ^ 52 := by decide
  have power : max ((n.log2 : Int) - double.fractionBits) double.leastPower =
      (n.log2 : Int) - double.fractionBits := by
    rw [least, fraction]
    omega
  have exponent : ((n.log2 : Int) - double.fractionBits - double.leastPower).toNat =
      n.log2 + 1022 := by
    rw [least, fraction]
    omega
  unfold nearestMagnitude
  rw [if_neg positive, leadingPower_one positive, infinity]
  dsimp only
  rw [power, exponent]
  rfl

/-- The pattern of an integer is that of the rounded integer: the place of its leading digit, and the
digits from there on. -/
theorem exists_nearestMagnitude (positive : n ≠ 0) (bound : n < 2 ^ 64) :
    ∃ digits, double.nearestMagnitude n 1 = ((double.roundedNat n).log2 + 1022) * 2 ^ 52 + digits ∧
      digits * 2 ^ (double.roundedNat n).log2 = double.roundedNat n * 2 ^ 52 := by
  have scaled := roundedUnits_mul n
  have low := two_pow_log2_le_roundedNat double positive
  have high := roundedNat_le_two_pow double n
  have short : n.log2 < 64 := (Nat.log2_lt positive).mpr bound
  rw [nearestMagnitude_eq positive bound]
  generalize roundedUnits n 1 ((n.log2 : Int) - double.fractionBits) = digits at scaled
  have scaled : digits * 2 ^ n.log2 = double.roundedNat n * 2 ^ 52 := scaled
  have atMost : digits ≤ 2 ^ 53 := by
    refine Nat.le_of_mul_le_mul_right ?_ (Nat.two_pow_pos n.log2)
    rw [Nat.pow_succ] at high
    linarith
  have finite : (n.log2 + 1022) * 2 ^ 52 + digits ≤ 2047 * 2 ^ 52 := by omega
  rw [Nat.min_eq_left finite]
  have nonzero : double.roundedNat n ≠ 0 := Nat.ne_of_gt (roundedNat_pos double positive)
  rcases Nat.lt_or_eq_of_le high with below | carried
  · have place : (double.roundedNat n).log2 = n.log2 := (Nat.log2_eq_iff nonzero).mpr ⟨low, below⟩
    rw [place]
    exact ⟨digits, rfl, scaled⟩
  · -- the rounded integer is the next power of two
    rw [carried, Nat.log2_two_pow]
    refine ⟨2 ^ 52, ?_, Nat.mul_comm _ _⟩
    have full : digits = 2 ^ 53 := by
      refine Nat.eq_of_mul_eq_mul_right (Nat.two_pow_pos n.log2) ?_
      rw [scaled, carried, Nat.pow_succ]
      ring
    omega

theorem nearestMagnitude_zero : double.nearestMagnitude 0 1 = 0 := by decide

/-- Patterns of integers are in the order of the rounded integers. -/
theorem nearestMagnitude_lt (firstBound : n < 2 ^ 64) (secondBound : m < 2 ^ 64)
    (less : double.roundedNat n < double.roundedNat m) :
    double.nearestMagnitude n 1 < double.nearestMagnitude m 1 := by
  have second : m ≠ 0 := by
    rintro rfl
    rw [roundedNat_zero] at less
    exact absurd less (Nat.not_lt_zero _)
  obtain ⟨higher, secondEq, secondScaled⟩ := exists_nearestMagnitude second secondBound
  by_cases first : n = 0
  · rw [first, nearestMagnitude_zero, secondEq]
    omega
  obtain ⟨lower, firstEq, firstScaled⟩ := exists_nearestMagnitude first firstBound
  have leading := Nat.log2_self_le (Nat.ne_of_gt (Nat.lt_of_le_of_lt (Nat.zero_le _) less))
  have bound := Nat.lt_log2_self (n := double.roundedNat n)
  have places : (double.roundedNat n).log2 ≤ (double.roundedNat m).log2 := by
    rw [Nat.log2_eq_log_two, Nat.log2_eq_log_two]
    exact Nat.log_mono_right (Nat.le_of_lt less)
  rw [firstEq, secondEq]
  generalize double.roundedNat n = smaller at *
  generalize double.roundedNat m = larger at *
  rcases Nat.lt_or_eq_of_le places with shorter | same
  · have lowerBound : lower < 2 ^ 53 := by
      refine Nat.lt_of_mul_lt_mul_right (a := 2 ^ smaller.log2) ?_
      rw [Nat.pow_succ] at bound
      linarith
    have higherBound : 2 ^ 52 ≤ higher := by
      refine Nat.le_of_mul_le_mul_right ?_ (Nat.two_pow_pos larger.log2)
      linarith
    omega
  · rw [same] at firstScaled ⊢
    have below : lower < higher := by
      refine Nat.lt_of_mul_lt_mul_right (a := 2 ^ larger.log2) ?_
      linarith
    omega

theorem nearestMagnitude_congr (firstBound : n < 2 ^ 64) (secondBound : m < 2 ^ 64)
    (same : double.roundedNat n = double.roundedNat m) :
    double.nearestMagnitude n 1 = double.nearestMagnitude m 1 := by
  by_cases first : n = 0
  · have second : m = 0 := by
      by_contra positive
      have above : 0 < double.roundedNat m := roundedNat_pos double positive
      rw [← same, first, roundedNat_zero] at above
      exact absurd above (Nat.lt_irrefl _)
    rw [first, second]
  · have second : m ≠ 0 := by
      rintro rfl
      have above : 0 < double.roundedNat n := roundedNat_pos double first
      rw [same, roundedNat_zero] at above
      exact absurd above (Nat.lt_irrefl _)
    obtain ⟨lower, firstEq, firstScaled⟩ := exists_nearestMagnitude first firstBound
    obtain ⟨higher, secondEq, secondScaled⟩ := exists_nearestMagnitude second secondBound
    rw [firstEq, secondEq, same]
    rw [same] at firstScaled
    rw [Nat.eq_of_mul_eq_mul_right (Nat.two_pow_pos _) (firstScaled.trans secondScaled.symm)]

theorem nearestMagnitude_finite (bound : n < 2 ^ 64) : double.nearestMagnitude n 1 < 2047 * 2 ^ 52 := by
  by_cases zero : n = 0
  · rw [zero, nearestMagnitude_zero]
    decide
  obtain ⟨digits, patternEq, scaled⟩ := exists_nearestMagnitude zero bound
  have top := Nat.lt_log2_self (n := double.roundedNat n)
  have short : n.log2 < 64 := (Nat.log2_lt zero).mpr bound
  have place : (double.roundedNat n).log2 < 65 := by
    rw [Nat.log2_lt (Nat.ne_of_gt (roundedNat_pos double zero))]
    calc double.roundedNat n ≤ 2 ^ (n.log2 + 1) := roundedNat_le_two_pow double n
      _ ≤ 2 ^ 64 := Nat.pow_le_pow_right Nat.two_pos short
      _ < 2 ^ 65 := by decide
  have digitsBound : digits < 2 ^ 53 := by
    refine Nat.lt_of_mul_lt_mul_right (a := 2 ^ (double.roundedNat n).log2) ?_
    rw [Nat.pow_succ] at top
    linarith
  omega

/-- The number line: what is read from the pattern of a number below zero and from that of another one. -/
theorem place?_signed {magnitude : Nat} (finite : magnitude < 2047 * 2 ^ 52) (negative : Bool) :
    double.place? ((if negative then double.signBit else 0) + magnitude) =
      some (if negative then -(magnitude : Int) else magnitude) := by
  have sign : double.signBit = 2 ^ 63 := by decide
  have infinity : double.infinityBits = 2047 * 2 ^ 52 := by decide
  have rest : ((if negative then 2 ^ 63 else 0) + magnitude) % 2 ^ 63 = magnitude := by
    cases negative
    · simp only [Bool.false_eq_true, if_false]
      omega
    · simp only [if_true]
      omega
  unfold place?
  rw [sign, infinity]
  dsimp only
  rw [rest, if_neg (by omega)]
  cases negative
  · rw [if_neg (by simp; omega)]
    rfl
  · rw [if_pos (by simp)]
    rfl

end BinaryFormat

end ObjectQuery

/-! ## Floats of integers -/

namespace Float

open ObjectQuery BinaryFormat

open Model Model.UnpackedFloat in
/-- A pattern that is neither infinite nor undefined is kept. -/
theorem toNat_toBits_ofBits {bits : Nat} (bound : bits < 2 ^ 64) (finite : bits % 2 ^ 63 < 2047 * 2 ^ 52) :
    (Float.ofBits (UInt64.ofNat bits)).toBits.toNat = bits := by
  have number : @isNaNBits .binary64 (BitVec.ofNat 64 bits) = false := by
    unfold isNaNBits
    rw [decide_eq_false_iff_not, unpackExponent_def]
    rintro ⟨top, _⟩
    have exponent := congrArg BitVec.toNat top
    rw [BitVec.extractLsb'_toNat, Nat.shiftRight_eq_div_pow] at exponent
    change bits % 2 ^ 64 / 2 ^ 52 % 2 ^ 11 = 2047 at exponent
    omega
  have packed := @pack_unpack .binary64 (BitVec.ofNat 64 bits)
  rw [number] at packed
  have kept : (Float.ofBits (UInt64.ofNat bits)).toBits.toBitVec = BitVec.ofNat 64 bits := packed
  exact (congrArg BitVec.toNat kept).trans (Nat.mod_eq_of_lt bound)

/-- The integer that the float nearest to an integer stands for. -/
def roundedInt (n : Int) : Int :=
  if n < 0 then -(double.roundedNat n.natAbs : Int) else double.roundedNat n.natAbs

/-- The place of an integer on the number line. -/
def placeOfInt (n : Int) : Int :=
  if n < 0 then -(double.nearestMagnitude n.natAbs 1 : Int) else double.nearestMagnitude n.natAbs 1

variable {a b : Int}

theorem place?_nearestInt (bound : a.natAbs < 2 ^ 64) : (nearestInt a).place? = some (placeOfInt a) := by
  have finite := nearestMagnitude_finite bound
  have written : double.write (.finite (decide (a < 0)) a.natAbs 0) =
      (if decide (a < 0) then double.signBit else 0) + double.nearestMagnitude a.natAbs 1 := by
    simp [write, nearestScaled, nearest]
  have sign : double.signBit = 2 ^ 63 := by decide
  have bits : (nearestInt a).toBits.toNat =
      (if decide (a < 0) then double.signBit else 0) + double.nearestMagnitude a.natAbs 1 := by
    rw [nearestInt, ofBinaryValue, written, sign]
    refine toNat_toBits_ofBits ?_ ?_
    · split <;> omega
    · split <;> omega
  rw [place?, bits, place?_signed finite]
  simp only [decide_eq_true_eq, placeOfInt]

/-- Below zero the rounded integer is below zero too. -/
theorem roundedInt_neg (negative : a < 0) :
    roundedInt a = -(double.roundedNat a.natAbs : Int) ∧ 0 < double.roundedNat a.natAbs :=
  ⟨if_pos negative, roundedNat_pos double (by omega)⟩

theorem placeOfInt_lt (first : a.natAbs < 2 ^ 64) (second : b.natAbs < 2 ^ 64)
    (less : roundedInt a < roundedInt b) : placeOfInt a < placeOfInt b := by
  have zero := nearestMagnitude_lt (n := 0) (by decide) first
  rw [roundedNat_zero, nearestMagnitude_zero] at zero
  have ascending := nearestMagnitude_lt first second
  have descending := nearestMagnitude_lt second first
  unfold placeOfInt
  by_cases negative : a < 0
  · obtain ⟨rounded, positive⟩ := roundedInt_neg negative
    have below := zero positive
    rw [if_pos negative]
    by_cases negative' : b < 0
    · rw [rounded, (roundedInt_neg negative').1] at less
      rw [if_pos negative']
      omega
    · rw [if_neg negative']
      omega
  · have rounded : roundedInt a = double.roundedNat a.natAbs := if_neg negative
    by_cases negative' : b < 0
    · rw [rounded, (roundedInt_neg negative').1] at less
      omega
    · have rounded' : roundedInt b = double.roundedNat b.natAbs := if_neg negative'
      rw [rounded, rounded'] at less
      rw [if_neg negative, if_neg negative']
      omega

theorem placeOfInt_congr (first : a.natAbs < 2 ^ 64) (second : b.natAbs < 2 ^ 64)
    (same : roundedInt a = roundedInt b) : placeOfInt a = placeOfInt b := by
  have equal := nearestMagnitude_congr first second
  unfold placeOfInt
  by_cases negative : a < 0
  · obtain ⟨rounded, positive⟩ := roundedInt_neg negative
    by_cases negative' : b < 0
    · rw [rounded, (roundedInt_neg negative').1] at same
      rw [if_pos negative, if_pos negative']
      omega
    · have rounded' : roundedInt b = double.roundedNat b.natAbs := if_neg negative'
      omega
  · have rounded : roundedInt a = double.roundedNat a.natAbs := if_neg negative
    by_cases negative' : b < 0
    · obtain ⟨rounded', positive⟩ := roundedInt_neg negative'
      omega
    · have rounded' : roundedInt b = double.roundedNat b.natAbs := if_neg negative'
      rw [if_neg negative, if_neg negative']
      omega

/-- As floats, integers are ordered the way their rounded ones are. -/
theorem order?_nearestInt (first : a.natAbs < 2 ^ 64) (second : b.natAbs < 2 ^ 64) :
    (nearestInt a).order? (nearestInt b) = some (compare (roundedInt a) (roundedInt b)) := by
  unfold order?
  rw [place?_nearestInt first, place?_nearestInt second]
  refine congrArg some ?_
  rcases Int.lt_trichotomy (roundedInt a) (roundedInt b) with less | same | greater
  · rw [compare_lt_iff_lt.mpr less, compare_lt_iff_lt.mpr (placeOfInt_lt first second less)]
  · rw [compare_eq_iff_eq.mpr same, compare_eq_iff_eq.mpr (placeOfInt_congr first second same)]
  · rw [compare_gt_iff_gt.mpr greater, compare_gt_iff_gt.mpr (placeOfInt_lt second first greater)]

/-- Up to `2 ^ 53` every integer has a float of its own. -/
theorem roundedInt_of_natAbs_le (small : a.natAbs ≤ 2 ^ 53) : roundedInt a = a := by
  unfold roundedInt
  rw [roundedNat_of_le double small]
  split <;> omega

theorem roundedInt_mono (atMost : a ≤ b) : roundedInt a ≤ roundedInt b := by
  unfold roundedInt
  by_cases negative : a < 0
  · rw [if_pos negative]
    by_cases negative' : b < 0
    · have magnitudes := roundedNat_mono double (show b.natAbs ≤ a.natAbs by omega)
      rw [if_pos negative']
      omega
    · rw [if_neg negative']
      omega
  · have magnitudes := roundedNat_mono double (show a.natAbs ≤ b.natAbs by omega)
    rw [if_neg negative, if_neg (by omega)]
    omega

/-- Integers that rounding leaves apart keep their order. -/
theorem compare_roundedInt (apart : a ≠ b → roundedInt a ≠ roundedInt b) :
    compare (roundedInt a) (roundedInt b) = compare a b := by
  rcases Int.lt_trichotomy a b with less | rfl | greater
  · have ordered := roundedInt_mono (Int.le_of_lt less)
    rw [compare_lt_iff_lt.mpr less, compare_lt_iff_lt]
    exact lt_of_le_of_ne ordered (apart (Int.ne_of_lt less))
  · rw [compare_eq_iff_eq.mpr rfl, compare_eq_iff_eq.mpr rfl]
  · have ordered := roundedInt_mono (Int.le_of_lt greater)
    rw [compare_gt_iff_gt.mpr greater, compare_gt_iff_gt]
    exact lt_of_le_of_ne ordered (apart (Int.ne_of_gt greater)).symm

/-- An integer is moved by at most its share of one in `2 ^ 53`. -/
theorem near_roundedInt (a : Int) : 2 ^ 53 * (roundedInt a - a).natAbs ≤ a.natAbs := by
  have near : 2 ^ 53 * double.roundedNat a.natAbs ≤ 2 ^ 53 * a.natAbs + a.natAbs ∧
      2 ^ 53 * a.natAbs ≤ 2 ^ 53 * double.roundedNat a.natAbs + a.natAbs :=
    near_roundedNat double a.natAbs
  unfold roundedInt
  split <;> omega

end Float
