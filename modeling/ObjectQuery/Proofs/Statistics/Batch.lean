import Mathlib.Algebra.BigOperators.Group.List.Lemmas
import Mathlib.Algebra.Order.BigOperators.Group.List
import Mathlib.Order.Bounds.Basic
import Mathlib.Tactic.LinearCombination
import Mathlib.Tactic.NormNum
import Mathlib.Tactic.Ring
import ObjectQuery.Proofs.Number.Exact
import ObjectQuery.Statistics.Running

/-!
# Running statistics of rational numbers

Values that come one by one leave the statistics that all of them have together: their number, their mean,
the sum of their squared deviations from it and their bounds (`Summarizes`). A value moves the mean, and with
it the deviations of all values before; what the update adds is the product of its distances from the old
mean and from the new one (`squaresOf_concat`). So the order of the values is of no account
(`summarizes_of_values`).
-/

namespace ObjectQuery

open ExactNumber

/-! ## All values at once -/

namespace RunningStatistics

/-- The mean of values, zero if there are none. -/
def meanOf (values : List ℚ) : ℚ := values.sum / values.length

/-- The sum of the squared distances from a centre. -/
def squaresFrom (centre : ℚ) (values : List ℚ) : ℚ := (values.map fun value => (value - centre) ^ 2).sum

/-- The sum of the squared deviations from the mean. -/
def squaresOf (values : List ℚ) : ℚ := squaresFrom (meanOf values) values

section Values

variable {values other : List ℚ}

theorem meanOf_mul_length (nonempty : values ≠ []) : meanOf values * values.length = values.sum := by
  have length : (values.length : ℚ) ≠ 0 := Nat.cast_ne_zero.mpr (mt List.length_eq_zero_iff.mp nonempty)
  exact div_mul_cancel₀ values.sum length

/-- A value moves the mean by its share of the distance. -/
theorem meanOf_concat (nonempty : values ≠ []) (value : ℚ) :
    meanOf (values ++ [value]) =
      meanOf values + (value - meanOf values) / ((values.length + 1 : Nat) : ℚ) := by
  have length : ((values.length + 1 : Nat) : ℚ) ≠ 0 := Nat.cast_ne_zero.mpr (Nat.succ_ne_zero _)
  have sum : (values ++ [value]).sum = meanOf values * values.length + value := by
    rw [List.sum_append, List.sum_singleton, meanOf_mul_length nonempty]
  have whole : (values ++ [value]).length = values.length + 1 := List.length_append
  rw [meanOf, sum, whole, div_eq_iff length, add_mul, div_mul_cancel₀ _ length, Nat.cast_add, Nat.cast_one]
  ring

/-- The distances from two centres differ by what depends on the sum and the number of the values only. -/
theorem squaresFrom_eq (centre centre' : ℚ) (values : List ℚ) :
    squaresFrom centre' values = squaresFrom centre values + 2 * (centre - centre') * values.sum +
      (centre' ^ 2 - centre ^ 2) * values.length := by
  induction values with
  | nil => simp [squaresFrom]
  | cons value rest inductionHypothesis =>
      unfold squaresFrom at *
      rw [List.map_cons, List.sum_cons, List.map_cons, List.sum_cons, inductionHypothesis, List.sum_cons,
        List.length_cons, Nat.cast_add, Nat.cast_one]
      ring

theorem squaresFrom_concat (centre : ℚ) (values : List ℚ) (value : ℚ) :
    squaresFrom centre (values ++ [value]) = squaresFrom centre values + (value - centre) ^ 2 := by
  simp [squaresFrom]

/-- A value adds to the squared deviations the product of its distances from the old and the new mean. -/
theorem squaresOf_concat (nonempty : values ≠ []) (value : ℚ) :
    squaresOf (values ++ [value]) =
      squaresOf values + (value - meanOf values) * (value - meanOf (values ++ [value])) := by
  -- with the mean and the number of the values before instead of their sum, both sides are polynomials
  -- in the new mean, and the step of the mean relates these
  have step : (meanOf (values ++ [value]) - meanOf values) * (values.length + 1) =
      value - meanOf values := by
    have length : ((values.length + 1 : Nat) : ℚ) ≠ 0 := Nat.cast_ne_zero.mpr (Nat.succ_ne_zero _)
    rw [meanOf_concat nonempty, add_sub_cancel_left, ← Nat.cast_succ, div_mul_cancel₀ _ length]
  unfold squaresOf
  rw [squaresFrom_concat, squaresFrom_eq (meanOf values) (meanOf (values ++ [value])),
    ← meanOf_mul_length nonempty]
  linear_combination (meanOf (values ++ [value]) - meanOf values) * step

theorem squaresOf_nonneg (values : List ℚ) : 0 ≤ squaresOf values := by
  refine List.sum_nonneg fun square member => ?_
  obtain ⟨value, _, rfl⟩ := List.mem_map.mp member
  exact sq_nonneg _

theorem meanOf_perm (same : values.Perm other) : meanOf values = meanOf other := by
  rw [meanOf, meanOf, same.sum_eq, same.length_eq]

theorem squaresOf_perm (same : values.Perm other) : squaresOf values = squaresOf other := by
  rw [squaresOf, squaresOf, meanOf_perm same]
  exact (same.map _).sum_eq

end Values

/-! ## One by one -/

/-- Statistics that are those of the values together. -/
structure Summarizes (statistics : RunningStatistics ExactNumber) (values : List ℚ) : Prop where
  count : statistics.count = values.length
  mean : statistics.mean = finite (meanOf values)
  squares : statistics.squares = finite (squaresOf values)
  least : ∃ least, statistics.least = finite least ∧ IsLeast {value | value ∈ values} least
  greatest : ∃ greatest, statistics.greatest = finite greatest ∧
    IsGreatest {value | value ∈ values} greatest

/-- The statistics after values that are pushed in their order. -/
def ofRationals (values : List ℚ) : RunningStatistics ExactNumber := ofList (values.map finite)

variable {values other : List ℚ} {statistics statistics' : RunningStatistics ExactNumber}

theorem ofRationals_concat (values : List ℚ) (value : ℚ) :
    ofRationals (values ++ [value]) = (ofRationals values).push (finite value) := by
  unfold ofRationals ofList
  rw [List.map_append, List.foldl_append]
  rfl

namespace Summarizes

/-- The first value is its own mean. -/
theorem first (value : ℚ) : (push empty (finite value)).Summarizes [value] where
  count := rfl
  mean := by simp [push, empty, meanOf]
  squares := by simp [push, empty, squaresOf, squaresFrom, meanOf, Scalar.zero]
  least := ⟨value, rfl, by simp [isLeast_singleton]⟩
  greatest := ⟨value, rfl, by simp [isGreatest_singleton]⟩

/-- One more value. -/
theorem push (summarizes : statistics.Summarizes values) (nonempty : values ≠ []) (value : ℚ) :
    (statistics.push (finite value)).Summarizes (values ++ [value]) := by
  have more : statistics.count ≠ 0 := by
    rw [summarizes.count]
    exact mt List.length_eq_zero_iff.mp nonempty
  have length : ((values.length + 1 : Nat) : ℚ) ≠ 0 := Nat.cast_ne_zero.mpr (Nat.succ_ne_zero _)
  have mean : statistics.mean + (finite value - statistics.mean) / Scalar.ofNat (statistics.count + 1) =
      finite (meanOf (values ++ [value])) := by
    rw [summarizes.mean, summarizes.count, finite_sub, ofNat_eq, finite_div length, finite_add,
      meanOf_concat nonempty]
  have members : {other | other ∈ values ++ [value]} = insert value {other | other ∈ values} := by
    ext other
    simp [or_comm]
  unfold RunningStatistics.push
  rw [if_neg more]
  refine ⟨?count, mean, ?squares, ?least, ?greatest⟩
  case count => rw [summarizes.count, List.length_append, List.length_singleton]
  case squares =>
    dsimp only
    rw [mean, summarizes.mean, summarizes.squares, finite_sub, finite_sub, finite_mul, finite_add,
      squaresOf_concat nonempty]
  case least =>
    obtain ⟨least, told, isLeast⟩ := summarizes.least
    refine ⟨min least value, ?_, ?_⟩
    · dsimp only
      rw [told, smaller_finite]
    · rw [members, min_comm]
      exact isLeast.insert value
  case greatest =>
    obtain ⟨greatest, told, isGreatest⟩ := summarizes.greatest
    refine ⟨max greatest value, ?_, ?_⟩
    · dsimp only
      rw [told, larger_finite]
    · rw [members, max_comm]
      exact isGreatest.insert value

/-- Values in another order have the same statistics. -/
theorem eq_of_perm (summarizes : statistics.Summarizes values) (same : values.Perm other)
    (summarizes' : statistics'.Summarizes other) : statistics = statistics' := by
  have members : {value | value ∈ values} = {value | value ∈ other} := Set.ext fun _ => same.mem_iff
  have count := summarizes.count.trans (same.length_eq.trans summarizes'.count.symm)
  have mean := summarizes.mean.trans ((congrArg finite (meanOf_perm same)).trans summarizes'.mean.symm)
  have squares :=
    summarizes.squares.trans ((congrArg finite (squaresOf_perm same)).trans summarizes'.squares.symm)
  obtain ⟨least, told, isLeast⟩ := summarizes.least
  obtain ⟨least', told', isLeast'⟩ := summarizes'.least
  obtain ⟨greatest, bounds, isGreatest⟩ := summarizes.greatest
  obtain ⟨greatest', bounds', isGreatest'⟩ := summarizes'.greatest
  obtain rfl : least = least' := isLeast.unique (members ▸ isLeast')
  obtain rfl : greatest = greatest' := isGreatest.unique (members ▸ isGreatest')
  cases statistics
  cases statistics'
  simp_all

/-- The variance of two values or more is that of a sample. -/
theorem variance_eq (summarizes : statistics.Summarizes values) (several : 2 ≤ values.length) :
    statistics.variance = finite (squaresOf values / (values.length - 1)) := by
  have length : ((values.length - 1 : Nat) : ℚ) ≠ 0 := Nat.cast_ne_zero.mpr (by omega)
  unfold variance
  rw [if_neg (by rw [summarizes.count]; omega), summarizes.count, summarizes.squares, ofNat_eq,
    finite_div length, Nat.cast_sub (by omega), Nat.cast_one]

theorem variance_nonneg (summarizes : statistics.Summarizes values) :
    ∃ variance, statistics.variance = finite variance ∧ 0 ≤ variance := by
  by_cases several : 2 ≤ values.length
  · refine ⟨_, summarizes.variance_eq several, div_nonneg (squaresOf_nonneg values) ?_⟩
    have length : (1 : ℚ) ≤ values.length := Nat.one_le_cast.mpr (by omega)
    exact sub_nonneg.mpr length
  · refine ⟨0, ?_, le_rfl⟩
    unfold variance
    rw [if_pos (by rw [summarizes.count]; omega)]
    rfl

/-- There is a root of the variance. -/
theorem deviation_finite (summarizes : statistics.Summarizes values) :
    ∃ deviation, statistics.deviation = finite deviation := by
  obtain ⟨variance, told, nonneg⟩ := summarizes.variance_nonneg
  refine ⟨Rat.sqrt variance, ?_⟩
  unfold deviation
  rw [told]
  exact if_neg (not_lt.mpr nonneg)

end Summarizes

/-- Values that are pushed one by one leave the statistics of all of them together. -/
theorem summarizes_ofRationals (nonempty : values ≠ []) : (ofRationals values).Summarizes values := by
  induction values using List.reverseRecOn with
  | nil => exact absurd rfl nonempty
  | append_singleton values value inductionHypothesis =>
      rw [ofRationals_concat]
      by_cases first : values = []
      · subst first
        exact Summarizes.first value
      · exact (inductionHypothesis first).push first value

/-- The statistics of values that come one by one are those of all of them together, in whatever order they
come; the variance is that of a sample, it is not negative, and so there is a deviation. -/
theorem summarizes_of_values (nonempty : values ≠ []) :
    (ofRationals values).Summarizes values ∧
      (2 ≤ values.length →
        (ofRationals values).variance = finite (squaresOf values / (values.length - 1))) ∧
      (∀ other : List ℚ, other.Perm values → ofRationals other = ofRationals values) ∧
      (∃ variance, (ofRationals values).variance = finite variance ∧ 0 ≤ variance) ∧
      ∃ deviation, (ofRationals values).deviation = finite deviation := by
  have summarizes := summarizes_ofRationals nonempty
  refine ⟨summarizes, summarizes.variance_eq, fun other same => ?_, summarizes.variance_nonneg,
    summarizes.deviation_finite⟩
  have filled : other ≠ [] := fun empty => nonempty (List.nil_perm.mp (empty ▸ same))
  exact (summarizes_ofRationals filled).eq_of_perm same summarizes

/-- Three values, the greatest first. -/
theorem summarizes_of_values_three :
    [5, 1, 3] ≠ ([] : List ℚ) ∧ meanOf [5, 1, 3] = 3 ∧ (ofRationals [5, 1, 3]).Summarizes [5, 1, 3] ∧
      (ofRationals [5, 1, 3]).variance = finite 4 ∧ ofRationals [1, 3, 5] = ofRationals [5, 1, 3] := by
  have nonempty : [5, 1, 3] ≠ ([] : List ℚ) := List.cons_ne_nil _ _
  obtain ⟨summarizes, variance, perm, _⟩ := summarizes_of_values nonempty
  have order : ([1, 3] ++ [5] : List ℚ).Perm ([5] ++ [1, 3]) := List.perm_append_comm
  refine ⟨nonempty, by norm_num [meanOf], summarizes, ?_, perm _ order⟩
  rw [variance (by decide)]
  norm_num [squaresOf, squaresFrom, meanOf]

end RunningStatistics

end ObjectQuery
