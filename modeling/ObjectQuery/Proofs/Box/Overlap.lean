import Mathlib.Tactic.Linarith
import Mathlib.Tactic.Positivity
import ObjectQuery.Box.Overlap
import ObjectQuery.Proofs.Number.Real

/-!
# Distances of real boxes

Without rounding the distance of two boxes is less than one exactly if they have an area in common
(`distance_lt_one_iff`), and no score brings boxes closer that have none.
-/

namespace ObjectQuery.Box

open Scalar

variable {a b : Box RealNumber}

theorem value_commonArea (a b : Box RealNumber) :
    (commonArea a b).value =
      max (min a.right.value b.right.value - max a.left.value b.left.value) 0 *
        max (min a.bottom.value b.bottom.value - max a.top.value b.top.value) 0 := by
  simp [commonArea]

theorem value_area (box : Box RealNumber) :
    (area box).value =
      max (box.right.value - box.left.value) 0 * max (box.bottom.value - box.top.value) 0 := by
  simp [area]

theorem commonArea_nonneg (a b : Box RealNumber) : 0 ≤ (commonArea a b).value := by
  rw [value_commonArea]
  positivity

theorem area_nonneg (box : Box RealNumber) : 0 ≤ (area box).value := by
  rw [value_area]
  positivity

/-- What two boxes have in common is no more than one of them. -/
theorem commonArea_le_area (a b : Box RealNumber) : (commonArea a b).value ≤ (area a).value := by
  rw [value_commonArea, value_area]
  have width : min a.right.value b.right.value - max a.left.value b.left.value ≤
      a.right.value - a.left.value :=
    sub_le_sub (min_le_left _ _) (le_max_left _ _)
  have height : min a.bottom.value b.bottom.value - max a.top.value b.top.value ≤
      a.bottom.value - a.top.value :=
    sub_le_sub (min_le_left _ _) (le_max_left _ _)
  gcongr

/-- The area that two boxes cover together, with the offset, is positive. -/
theorem covered_pos (a b : Box RealNumber) :
    0 < (area a + area b - commonArea a b + shareOffset).value := by
  have offset : 0 < (shareOffset : RealNumber).value := RealNumber.value_decimal_pos (by decide) 7
  have part := commonArea_le_area a b
  have other := area_nonneg b
  simp only [RealNumber.value_add, RealNumber.value_sub]
  linarith

theorem overlap_pos_iff : 0 < (overlap a b).value ↔ 0 < (commonArea a b).value := by
  rw [overlap, RealNumber.value_div, div_pos_iff_of_pos_right (covered_pos a b)]

/-- Boxes are closer than one exactly if they overlap. -/
theorem distance_lt_one_iff : (distance a b).value < 1 ↔ 0 < (commonArea a b).value := by
  rw [← overlap_pos_iff, distance, RealNumber.value_sub, RealNumber.value_one, sub_lt_self_iff]

theorem distance_eq_one (apart : ¬ 0 < (commonArea a b).value) : (distance a b).value = 1 := by
  have none : (commonArea a b).value = 0 := le_antisymm (not_lt.mp apart) (commonArea_nonneg a b)
  rw [distance, RealNumber.value_sub, RealNumber.value_one, overlap, RealNumber.value_div, none,
    zero_div, sub_zero]

/-- Weighing by a score does not bring boxes closer that do not overlap. -/
theorem weighed_eq_one (apart : ¬ 0 < (commonArea a b).value) (score : RealNumber) :
    (weighed (distance a b) score).value = 1 := by
  rw [weighed, RealNumber.value_sub, RealNumber.value_mul, RealNumber.value_sub, distance_eq_one apart,
    RealNumber.value_one, sub_self, zero_mul, sub_zero]

end ObjectQuery.Box
