import Mathlib.Algebra.BigOperators.Fin
import Mathlib.Algebra.Order.Ring.Rat
import Mathlib.Data.Rat.Sqrt
import ObjectQuery.Number.Scalar

/-!
# Exact numbers

Rational numbers with the values of a floating format that are no numbers: infinity with a sign, and an
undefined one that is not even at most itself. On the finite ones the operations are those of the
rational numbers, so what is computed with them is the formula itself.
-/

namespace ObjectQuery

/-- A rational number, infinity, or the undefined result of an operation. -/
inductive ExactNumber where
  | finite (value : ℚ)
  | infinite (negative : Bool)
  | undefined
deriving DecidableEq

namespace ExactNumber

/-- The value of a finite number. -/
def value : ExactNumber → ℚ
  | finite value => value
  | infinite _ => 0
  | undefined => 0

def isFinite : ExactNumber → Bool
  | finite _ => true
  | infinite _ => false
  | undefined => false

def opposite : ExactNumber → ExactNumber
  | finite value => finite (-value)
  | infinite negative => infinite (!negative)
  | undefined => undefined

def add : ExactNumber → ExactNumber → ExactNumber
  | finite x, finite y => finite (x + y)
  | finite _, infinite negative => infinite negative
  | infinite negative, finite _ => infinite negative
  | infinite left, infinite right => if left = right then infinite left else undefined
  | undefined, _ => undefined
  | _, undefined => undefined

/-- Infinity times a number, where zero takes no side. -/
def scaled (negative : Bool) (factor : ℚ) : ExactNumber :=
  if factor = 0 then undefined else infinite (negative ^^ decide (factor < 0))

def mul : ExactNumber → ExactNumber → ExactNumber
  | finite x, finite y => finite (x * y)
  | finite x, infinite negative => scaled negative x
  | infinite negative, finite y => scaled negative y
  | infinite left, infinite right => infinite (left ^^ right)
  | undefined, _ => undefined
  | _, undefined => undefined

/-- Zero counts as positive where something is divided by it. -/
def div : ExactNumber → ExactNumber → ExactNumber
  | finite x, finite y => if y = 0 then scaled false x else finite (x / y)
  | finite _, infinite _ => finite 0
  | infinite negative, finite y => infinite (negative ^^ decide (y < 0))
  | infinite _, infinite _ => undefined
  | undefined, _ => undefined
  | _, undefined => undefined

/-- Nothing is at most the undefined number, and it is at most nothing. -/
def atMost : ExactNumber → ExactNumber → Bool
  | finite x, finite y => decide (x ≤ y)
  | finite _, infinite negative => !negative
  | infinite negative, finite _ => negative
  | infinite left, infinite right => left || !right
  | undefined, _ => false
  | _, undefined => false

def below (x y : ExactNumber) : Bool := x.atMost y && !y.atMost x

/-- The root of a square. Of other positive numbers there is no exact root, and one near it is taken. -/
def root : ExactNumber → ExactNumber
  | finite value => if value < 0 then undefined else finite (Rat.sqrt value)
  | infinite negative => if negative then undefined else infinite false
  | undefined => undefined

/-- A number of 64 bits at the most. -/
def whole : ExactNumber → Nat
  | finite value => min value.floor.toNat 18446744073709551615
  | infinite negative => if negative then 0 else 18446744073709551615
  | undefined => 0

instance : Scalar ExactNumber where
  add := add
  sub x y := add x (opposite y)
  mul := mul
  div := div
  lt x y := below x y
  le x y := atMost x y
  decideLt _ _ := inferInstanceAs (Decidable (_ = true))
  decideLe _ _ := inferInstanceAs (Decidable (_ = true))
  ofNat n := finite n
  decimal digits places := finite (digits / Nat.pow 10 places)
  sqrt := root
  isFinite := isFinite
  wholePart := whole

variable {x y : ℚ} {number : ExactNumber}

@[simp] theorem value_finite (x : ℚ) : (finite x).value = x := rfl

@[simp] theorem finite_add (x y : ℚ) : finite x + finite y = finite (x + y) := rfl

@[simp] theorem finite_sub (x y : ℚ) : finite x - finite y = finite (x - y) :=
  congrArg finite (sub_eq_add_neg x y).symm

@[simp] theorem finite_mul (x y : ℚ) : finite x * finite y = finite (x * y) := rfl

theorem finite_div (nonzero : y ≠ 0) : finite x / finite y = finite (x / y) := by
  change div (finite x) (finite y) = finite (x / y)
  rw [div, if_neg nonzero]

@[simp] theorem finite_le_iff : finite x ≤ finite y ↔ x ≤ y := decide_eq_true_iff

@[simp] theorem finite_lt_iff : finite x < finite y ↔ x < y := by
  change (decide (x ≤ y) && !decide (y ≤ x)) = true ↔ x < y
  rw [Bool.and_eq_true, Bool.not_eq_true', decide_eq_true_iff, decide_eq_false_iff_not]
  exact lt_iff_le_not_ge.symm

theorem smaller_finite (x y : ℚ) : Scalar.smaller (finite x) (finite y) = finite (min x y) := by
  unfold Scalar.smaller
  by_cases atMost : x ≤ y
  · rw [if_pos (finite_le_iff.mpr atMost), min_eq_left atMost]
  · rw [if_neg (mt finite_le_iff.mp atMost), if_pos (finite_le_iff.mpr le_rfl),
      min_eq_right (not_le.mp atMost).le]

theorem larger_finite (x y : ℚ) : Scalar.larger (finite x) (finite y) = finite (max x y) := by
  unfold Scalar.larger
  by_cases atMost : y ≤ x
  · rw [if_pos (finite_le_iff.mpr atMost), max_eq_left atMost]
  · rw [if_neg (mt finite_le_iff.mp atMost), if_pos (finite_le_iff.mpr le_rfl),
      max_eq_right (not_le.mp atMost).le]

@[simp] theorem ofNat_eq (n : Nat) : (Scalar.ofNat n : ExactNumber) = finite n := rfl

theorem infinite_mul (positive : 0 < x) (negative : Bool) :
    infinite negative * finite x = infinite negative := by
  change scaled negative x = infinite negative
  rw [scaled, if_neg positive.ne', decide_eq_false positive.not_gt, Bool.xor_false]

theorem mul_infinite (positive : 0 < x) (negative : Bool) :
    finite x * infinite negative = infinite negative := infinite_mul positive negative

theorem not_infinite_le_finite (x : ℚ) : ¬ infinite false ≤ finite x := Bool.false_ne_true

/-- Of a number that is not above the largest one of 64 bits. -/
theorem wholePart_finite (fits : x ≤ 18446744073709551615) :
    Scalar.wholePart (finite x) = x.floor.toNat := by
  have atMost : x.floor ≤ 18446744073709551615 := by
    have cast := (Rat.floor_le x).trans fits
    exact_mod_cast cast
  exact Nat.min_eq_left (by omega)

theorem isFinite_iff : Scalar.isFinite number = true ↔ ∃ x, number = finite x := by
  cases number with
  | finite x => exact ⟨fun _ => ⟨x, rfl⟩, fun _ => rfl⟩
  | infinite negative => exact ⟨fun wrong => absurd wrong Bool.false_ne_true, fun ⟨_, same⟩ => nomatch same⟩
  | undefined => exact ⟨fun wrong => absurd wrong Bool.false_ne_true, fun ⟨_, same⟩ => nomatch same⟩

/-- A sum of finite numbers is the sum of their values. -/
theorem sum_finite {n : Nat} (values : Fin n → ℚ) :
    Scalar.sum (fun i => finite (values i)) = finite (∑ i, values i) := by
  induction n with
  | zero => rfl
  | succ n inductionHypothesis =>
      rw [Scalar.sum, inductionHypothesis, finite_add, Fin.sum_univ_castSucc]

end ExactNumber

end ObjectQuery
