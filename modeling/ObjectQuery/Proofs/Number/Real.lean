import Mathlib.Algebra.BigOperators.Fin
import Mathlib.Analysis.Real.Sqrt
import ObjectQuery.Number.Scalar

/-!
# Real numbers as scalars

The numbers without rounding: each operation is that of the real numbers, and every number that is not
negative has a root. What is computed with them is the formula itself.
-/

namespace ObjectQuery

/-- A real number as a scalar. -/
@[ext]
structure RealNumber where
  value : ℝ

namespace RealNumber

noncomputable instance : Scalar RealNumber where
  add x y := ⟨x.value + y.value⟩
  sub x y := ⟨x.value - y.value⟩
  mul x y := ⟨x.value * y.value⟩
  div x y := ⟨x.value / y.value⟩
  lt x y := x.value < y.value
  le x y := x.value ≤ y.value
  decideLt x y := Real.decidableLT x.value y.value
  decideLe x y := Real.decidableLE x.value y.value
  ofNat n := ⟨n⟩
  decimal digits places := ⟨digits / Nat.pow 10 places⟩
  sqrt x := ⟨Real.sqrt x.value⟩
  isFinite _ := true
  wholePart x := min ⌊x.value⌋₊ 18446744073709551615

variable {x y : RealNumber}

@[simp] theorem value_add (x y : RealNumber) : (x + y).value = x.value + y.value := rfl

@[simp] theorem value_sub (x y : RealNumber) : (x - y).value = x.value - y.value := rfl

@[simp] theorem value_mul (x y : RealNumber) : (x * y).value = x.value * y.value := rfl

@[simp] theorem value_div (x y : RealNumber) : (x / y).value = x.value / y.value := rfl

@[simp] theorem value_sqrt (x : RealNumber) : (Scalar.sqrt x).value = Real.sqrt x.value := rfl

@[simp] theorem value_zero : (Scalar.zero : RealNumber).value = 0 := Nat.cast_zero

@[simp] theorem value_one : (Scalar.one : RealNumber).value = 1 := Nat.cast_one

@[simp] theorem value_two : (Scalar.two : RealNumber).value = 2 := Nat.cast_ofNat

@[simp] theorem value_ofNat (n : Nat) : (Scalar.ofNat n : RealNumber).value = n := rfl

@[simp] theorem value_decimal (digits places : Nat) :
    (Scalar.decimal digits places : RealNumber).value = digits / Nat.pow 10 places := rfl

theorem value_decimal_pos {digits : Nat} (positive : 0 < digits) (places : Nat) :
    0 < (Scalar.decimal digits places : RealNumber).value := by
  have power : 0 < Nat.pow 10 places := Nat.pow_pos (by decide)
  rw [value_decimal]
  exact div_pos (Nat.cast_pos.mpr positive) (Nat.cast_pos.mpr power)

theorem lt_iff : x < y ↔ x.value < y.value := Iff.rfl

theorem le_iff : x ≤ y ↔ x.value ≤ y.value := Iff.rfl

@[simp] theorem value_positivePart (x : RealNumber) :
    (Scalar.positivePart x).value = max x.value 0 := by
  unfold Scalar.positivePart
  by_cases positive : Scalar.zero < x
  · rw [if_pos positive]
    rw [lt_iff, value_zero] at positive
    exact (max_eq_left positive.le).symm
  · rw [if_neg positive, value_zero]
    rw [lt_iff, value_zero] at positive
    exact (max_eq_right (not_lt.mp positive)).symm

@[simp] theorem value_larger (x y : RealNumber) :
    (Scalar.larger x y).value = max x.value y.value := by
  have comparable : y ≤ y := le_refl y.value
  unfold Scalar.larger
  by_cases atMost : y ≤ x
  · rw [if_pos atMost]
    exact (max_eq_left (le_iff.mp atMost)).symm
  · rw [if_neg atMost, if_pos comparable]
    exact (max_eq_right (not_le.mp atMost).le).symm

@[simp] theorem value_smaller (x y : RealNumber) :
    (Scalar.smaller x y).value = min x.value y.value := by
  have comparable : y ≤ y := le_refl y.value
  unfold Scalar.smaller
  by_cases atMost : x ≤ y
  · rw [if_pos atMost]
    exact (min_eq_left (le_iff.mp atMost)).symm
  · rw [if_neg atMost, if_pos comparable]
    exact (min_eq_right (not_le.mp atMost).le).symm

/-- A sum of scalars is the sum of their values. -/
@[simp] theorem value_sum {n : Nat} (values : Fin n → RealNumber) :
    (Scalar.sum values).value = ∑ i, (values i).value := by
  induction n with
  | zero => simp [Scalar.sum]
  | succ n inductionHypothesis =>
      rw [Scalar.sum, value_add, inductionHypothesis, Fin.sum_univ_castSucc]

end RealNumber

end ObjectQuery
