import Mathlib.Data.Prod.Lex
import ObjectQuery.Number.Binary

/-!
# The order of single numbers

Every number of the narrower format has a rank, by its side of zero, its exponent and its significand. Two
numbers compare as their ranks do, and what is no number compares with nothing (`lt_single_iff`,
`le_single_iff`).
-/

namespace ObjectQuery

open Float.Model

/-- The rank of a number among all others: infinities at the ends, then by side, exponent and
significand. -/
def unpackedRank : UnpackedFloat → Int ×ₗ Int ×ₗ Int
  | .infinity .negative => toLex (-2, toLex (0, 0))
  | .finite .negative significand power _ => toLex (-1, toLex (-power, -(significand : Int)))
  | .zero _ | .notANumber => toLex (0, toLex (0, 0))
  | .finite .positive significand power _ => toLex (1, toLex (power, (significand : Int)))
  | .infinity .positive => toLex (2, toLex (0, 0))

theorem compare_cast (m n : Nat) : compare (m : Int) n = compare m n := by
  rcases lt_trichotomy m n with less | rfl | more
  · rw [compare_lt_iff_lt.mpr less, compare_lt_iff_lt.mpr (Int.ofNat_lt.mpr less)]
  · rw [Std.compare_self, Std.compare_self]
  · rw [compare_gt_iff_gt.mpr more, compare_gt_iff_gt.mpr (Int.ofNat_lt.mpr more)]

theorem compare_neg (i j : Int) : compare (-i) (-j) = (compare i j).swap := by
  rcases lt_trichotomy i j with less | rfl | more
  · rw [compare_lt_iff_lt.mpr less, compare_gt_iff_gt.mpr (Int.neg_lt_neg less)]
    rfl
  · rw [Std.compare_self, Std.compare_self]
    rfl
  · rw [compare_gt_iff_gt.mpr more, compare_lt_iff_lt.mpr (Int.neg_lt_neg more)]
    rfl

/-- Numbers compare as their ranks do. -/
theorem compare_eq_compare_rank {a b : UnpackedFloat} (first : a.isNaN = false) (second : b.isNaN = false) :
    a.compare b = some (compare (unpackedRank a) (unpackedRank b)) := by
  have above (m n : Nat) (e f : Int) : (compare e f).then (compare m n) =
      (compare e f).then (compare (m : Int) n) := by rw [compare_cast]
  have below (m n : Nat) (e f : Int) : ((compare e f).then (compare m n)).swap =
      (compare (-e) (-f)).then (compare (-(m : Int)) (-(n : Int))) := by
    rw [Ordering.swap_then, compare_neg, compare_neg, compare_cast]
  -- Only two finite numbers of one sign are compared by their parts.
  rcases a with (_ | _) | _ | _ | ⟨_ | _, m, e, _⟩ <;>
    rcases b with (_ | _) | _ | _ | ⟨_ | _, n, f, _⟩ <;>
      first
      | rfl
      | exact absurd first (by decide)
      | exact absurd second (by decide)
      | exact congrArg some (above m n e f)
      | exact congrArg some (below m n e f)

theorem isNaN_of_compare {a b : UnpackedFloat} (compared : a.compare b ≠ none) :
    a.isNaN = false ∧ b.isNaN = false := by
  cases a <;> cases b <;>
    first
    | exact ⟨rfl, rfl⟩
    | exact absurd rfl compared

end ObjectQuery

namespace Float32

/-- The rank of a number of the narrower format. -/
def rank (x : Float32) : Int ×ₗ Int ×ₗ Int := ObjectQuery.unpackedRank x.toModel.unpack

end Float32

namespace ObjectQuery

variable {a b : Float32}

/-- Numbers are ordered by their ranks. -/
theorem lt_single_iff : a < b ↔ (a.isNaN = false ∧ b.isNaN = false) ∧ a.rank < b.rank := by
  have meaning : a < b ↔ a.toModel.unpack.compare b.toModel.unpack = some .lt :=
    Iff.trans ⟨of_decide_eq_true, decide_eq_true⟩ beq_iff_eq
  rw [meaning]
  constructor
  · intro less
    obtain ⟨first, second⟩ := isNaN_of_compare (a := a.toModel.unpack) (ne_of_eq_of_ne less (by decide))
    rw [compare_eq_compare_rank first second] at less
    exact ⟨⟨first, second⟩, compare_lt_iff_lt.mp (Option.some.inj less)⟩
  · rintro ⟨⟨first, second⟩, less⟩
    rw [compare_eq_compare_rank first second]
    exact congrArg some (compare_lt_iff_lt.mpr less)

theorem le_single_iff : a ≤ b ↔ (a.isNaN = false ∧ b.isNaN = false) ∧ a.rank ≤ b.rank := by
  have meaning : a ≤ b ↔ (a.toModel.unpack.compare b.toModel.unpack).any (·.isLE) = true :=
    ⟨of_decide_eq_true, decide_eq_true⟩
  rw [meaning]
  constructor
  · intro atMost
    have compared : a.toModel.unpack.compare b.toModel.unpack ≠ none := fun none => by
      rw [none] at atMost
      exact absurd atMost (by decide)
    obtain ⟨first, second⟩ := isNaN_of_compare compared
    rw [compare_eq_compare_rank first second] at atMost
    exact ⟨⟨first, second⟩, compare_le_iff_le.mp (Ordering.isLE_iff_ne_gt.mp atMost)⟩
  · rintro ⟨⟨first, second⟩, atMost⟩
    rw [compare_eq_compare_rank first second]
    exact Ordering.isLE_iff_ne_gt.mpr (compare_le_iff_le.mpr atMost)

theorem isNaN_of_isFinite (finite : a.isFinite = true) : a.isNaN = false := by
  change a.toModel.unpack.isFinite = true at finite
  change a.toModel.unpack.isNaN = false
  cases unpacked : a.toModel.unpack with
  | notANumber =>
      rw [unpacked] at finite
      exact absurd finite (by decide)
  | infinity | zero | finite => rfl

section Numbers

variable (first : a.isNaN = false) (second : b.isNaN = false)
include first second

theorem lt_single : a < b ↔ a.rank < b.rank := lt_single_iff.trans (and_iff_right ⟨first, second⟩)

theorem le_single : a ≤ b ↔ a.rank ≤ b.rank := le_single_iff.trans (and_iff_right ⟨first, second⟩)

theorem not_lt_single : ¬ a < b ↔ b ≤ a := by
  rw [lt_single first second, le_single second first, not_lt]

theorem not_le_single : ¬ a ≤ b ↔ b < a := by
  rw [le_single first second, lt_single second first, not_le]

end Numbers

theorem not_le_of_lt_single (low high : Float32) (above : low < high) : ¬ high ≤ low := by
  obtain ⟨first, second⟩ := (lt_single_iff.mp above).1
  exact (not_le_single second first).mpr above

theorem le_self_of_lt_single {low high : Float32} (above : low < high) : high ≤ high := by
  have number := (lt_single_iff.mp above).1.2
  exact (le_single number number).mpr le_rfl

/-- A finite number that is not at most a number is above it. -/
theorem lt_of_not_le_single (score bound : Float32) (finite : score.isFinite = true)
    (number : bound ≤ bound) (above : ¬ score ≤ bound) : bound < score :=
  (not_le_single (isNaN_of_isFinite finite) (le_single_iff.mp number).1.1).mp above

end ObjectQuery
