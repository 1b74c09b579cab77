import Mathlib.MeasureTheory.Measure.Lebesgue.Basic
import Mathlib.MeasureTheory.Measure.Real
import ObjectQuery.Proofs.Box.Overlap
import ObjectQuery.Tracking.Tracker

/-!
# Costs of pairs of boxes

A box is a region of the plane. The share of two boxes is the area that their regions have in common by the
area that they cover together (`overlap_eq`), so that it lies between zero and one, also where sides have no
length or a negative one. A score moves a cost from the distance towards one, the further the lower it is, and
it moves no cost of another column (`costs_of_pairs`).
-/

namespace ObjectQuery.Box

open MeasureTheory Scalar

variable {a b : Box RealNumber}

/-! ## Regions -/

/-- The points of a box. -/
def region (box : Box RealNumber) : Set (ℝ × ℝ) :=
  Set.Icc box.left.value box.right.value ×ˢ Set.Icc box.top.value box.bottom.value

theorem measurableSet_region (box : Box RealNumber) : MeasurableSet box.region :=
  measurableSet_Icc.prod measurableSet_Icc

theorem volume_region (box : Box RealNumber) : volume.real box.region = (area box).value := by
  unfold region
  rw [Measure.volume_eq_prod, measureReal_prod_prod, Real.volume_real_Icc, Real.volume_real_Icc, value_area]

theorem volume_region_ne_top (box : Box RealNumber) : volume box.region ≠ ⊤ := by
  unfold region
  rw [Measure.volume_eq_prod, Measure.prod_prod, Real.volume_Icc, Real.volume_Icc]
  exact ENNReal.mul_ne_top ENNReal.ofReal_ne_top ENNReal.ofReal_ne_top

/-- The box between the larger of the first and the smaller of the last coordinates. -/
def common {α : Type} [Scalar α] (a b : Box α) : Box α :=
  ⟨larger a.left b.left, larger a.top b.top, smaller a.right b.right, smaller a.bottom b.bottom⟩

theorem region_inter (a b : Box RealNumber) : a.region ∩ b.region = (common a b).region := by
  unfold region common
  simp only [RealNumber.value_larger, RealNumber.value_smaller]
  rw [Set.prod_inter_prod, Set.Icc_inter_Icc, Set.Icc_inter_Icc]

/-- The common area is that of what the regions have in common. -/
theorem volume_inter (a b : Box RealNumber) :
    volume.real (a.region ∩ b.region) = (commonArea a b).value := by
  rw [region_inter, volume_region]
  rfl

theorem volume_union (a b : Box RealNumber) :
    volume.real (a.region ∪ b.region) = (area a + area b - commonArea a b).value := by
  have both := measureReal_union_add_inter (μ := volume) (s := a.region) b.measurableSet_region
    a.volume_region_ne_top b.volume_region_ne_top
  rw [volume_inter, volume_region, volume_region] at both
  exact eq_sub_of_add_eq both

/-- What two boxes overlap, as a share of what they cover together. -/
theorem overlap_eq (a b : Box RealNumber) :
    (overlap a b).value =
      volume.real (a.region ∩ b.region) / (volume.real (a.region ∪ b.region) + 1 / 10 ^ 7) := by
  rw [volume_inter, volume_union, overlap, RealNumber.value_div, RealNumber.value_add, shareOffset,
    RealNumber.value_decimal, Nat.cast_one]
  norm_num

/-! ## One pair -/

theorem commonArea_comm (a b : Box RealNumber) : commonArea a b = commonArea b a := by
  ext
  rw [value_commonArea, value_commonArea, min_comm a.right.value, max_comm a.left.value,
    min_comm a.bottom.value, max_comm a.top.value]

theorem overlap_comm (a b : Box RealNumber) : overlap a b = overlap b a := by
  have covered : area a + area b = area b + area a := RealNumber.ext (add_comm _ _)
  rw [overlap, overlap, commonArea_comm, covered]

theorem overlap_nonneg (a b : Box RealNumber) : 0 ≤ (overlap a b).value :=
  div_nonneg (commonArea_nonneg a b) (covered_pos a b).le

/-- The offset keeps the share below one, also that of a box with itself. -/
theorem overlap_lt_one (a b : Box RealNumber) : (overlap a b).value < 1 := by
  rw [overlap, RealNumber.value_div, div_lt_one (covered_pos a b)]
  have offset : 0 < (shareOffset : RealNumber).value := RealNumber.value_decimal_pos (by decide) 7
  have first := commonArea_le_area a b
  have second := commonArea_le_area b a
  rw [commonArea_comm] at second
  simp only [RealNumber.value_add, RealNumber.value_sub]
  linarith

theorem overlap_eq_zero_iff : (overlap a b).value = 0 ↔ (commonArea a b).value = 0 := by
  rw [overlap, RealNumber.value_div, div_eq_zero_iff, or_iff_left (covered_pos a b).ne']

/-- The share of two boxes, whatever their sides. -/
structure Shares (a b : Box RealNumber) : Prop where
  symmetric : overlap a b = overlap b a
  nonneg : 0 ≤ (overlap a b).value
  lt_one : (overlap a b).value < 1
  /-- There is no share exactly where the regions have no area in common. -/
  eq_zero_iff : (overlap a b).value = 0 ↔ volume (a.region ∩ b.region) = 0
  divisor_pos : 0 < (area a + area b - commonArea a b + shareOffset).value
  /-- The area in common by the area covered together and the offset. -/
  eq_div : (overlap a b).value =
    volume.real (a.region ∩ b.region) / (volume.real (a.region ∪ b.region) + 1 / 10 ^ 7)

theorem shares (a b : Box RealNumber) : Shares a b where
  symmetric := overlap_comm a b
  nonneg := overlap_nonneg a b
  lt_one := overlap_lt_one a b
  eq_zero_iff := by
    have finite : volume (a.region ∩ b.region) ≠ ⊤ := by
      rw [region_inter]
      exact volume_region_ne_top _
    rw [overlap_eq_zero_iff, ← volume_inter, measureReal_eq_zero_iff finite]
  divisor_pos := covered_pos a b
  eq_div := overlap_eq a b

theorem value_distance (a b : Box RealNumber) : (distance a b).value = 1 - (overlap a b).value := by
  rw [distance, RealNumber.value_sub, RealNumber.value_one]

/-- A score weighs the share of a pair. -/
theorem value_weighed (a b : Box RealNumber) (score : RealNumber) :
    (weighed (distance a b) score).value = 1 - (overlap a b).value * score.value := by
  rw [weighed, RealNumber.value_sub, RealNumber.value_mul, RealNumber.value_sub, RealNumber.value_one,
    value_distance, sub_sub_cancel]

/-- A score of at most one leaves a distance or moves it on towards one. -/
theorem weighed_between {score : RealNumber} (nonneg : 0 ≤ score.value) (atMost : score.value ≤ 1) :
    (distance a b).value ≤ (weighed (distance a b) score).value ∧
      (weighed (distance a b) score).value ≤ 1 := by
  have share := overlap_nonneg a b
  rw [value_weighed, value_distance]
  exact ⟨sub_le_sub_left (mul_le_of_le_one_right share atMost) 1,
    sub_le_self 1 (mul_nonneg share nonneg)⟩

/-- The higher the score, the lower the cost. -/
theorem weighed_antitone {low high : RealNumber} (ascends : low.value ≤ high.value) :
    (weighed (distance a b) high).value ≤ (weighed (distance a b) low).value := by
  rw [value_weighed, value_weighed]
  exact sub_le_sub_left (mul_le_mul_of_nonneg_left ascends (overlap_nonneg a b)) 1

/-! ## Rows and columns -/

section Costs

variable {n m : Nat} (rows : Fin n → Box RealNumber) (columns : Fin m → Box RealNumber)

/-- The costs of pairs under the scores of the columns. -/
structure Scored (scores : List RealNumber) : Prop where
  between : (∀ score ∈ scores, 0 ≤ score.value ∧ score.value ≤ 1) → ∀ i j,
    (distances rows columns i j).value ≤ (weighedBy (distances rows columns) scores i j).value ∧
      (weighedBy (distances rows columns) scores i j).value ≤ 1
  antitone : ∀ (j : Fin m) (low high : RealNumber), low.value ≤ high.value → ∀ i,
    (weighedBy (distances rows columns) (scores.set j high) i j).value ≤
      (weighedBy (distances rows columns) (scores.set j low) i j).value
  apart : ∀ (j : Fin m) (score : RealNumber) (k : Fin m), k ≠ j → ∀ i,
    weighedBy (distances rows columns) (scores.set j score) i k =
      weighedBy (distances rows columns) scores i k

theorem scored (scores : List RealNumber) : Scored rows columns scores where
  between := by
    intro within i j
    have here : 0 ≤ (scores.getD j zero).value ∧ (scores.getD j zero).value ≤ 1 := by
      cases scored : scores[j.val]? with
      | none => simp [List.getD_eq_getElem?_getD, scored]
      | some score =>
          simpa [List.getD_eq_getElem?_getD, scored] using within score (List.mem_of_getElem? scored)
    exact weighed_between here.1 here.2
  antitone := by
    intro j low high ascends i
    refine weighed_antitone ?_
    by_cases scored : j.val < scores.length
    · simpa [List.getD_eq_getElem?_getD, scored] using ascends
    · simp [List.getD_eq_getElem?_getD, scored]
  apart := by
    intro j score k other i
    have same : (scores.set j score).getD k zero = scores.getD k zero := by
      rw [List.getD_eq_getElem?_getD, List.getElem?_set_ne (fun equal => other (Fin.ext equal.symm)),
        List.getD_eq_getElem?_getD]
    rw [weighedBy, weighedBy, same]

end Costs

/-- The costs by which the tracker matches tracks with detections are those of their boxes, weighed by the
scores of the detections. -/
theorem weighedCost_get {α : Type} [Scalar α] (tracks : List (Track α)) (sightings : List (Sighting α))
    (i : Fin tracks.length) (j : Fin sightings.length) :
    Tracker.weighedCost (tracks.get i) (sightings.get j) =
      weighedBy (distances (fun row => (tracks.get row).box) fun column => (sightings.get column).box)
        (sightings.map Sighting.score) i j := by
  have score : (sightings.map Sighting.score).getD j zero = (sightings.get j).score := by
    simp [List.getD_eq_getElem?_getD]
  rw [weighedBy, score]
  rfl

/-- Without rounding the share of any two boxes is symmetric, at least zero, below one, and zero exactly if
the boxes have no area in common; and a cost lies between the distance and one, falls with the score of its
column and depends on no other score. The tracker matches by such costs. -/
theorem costs_of_pairs :
    (∀ a b : Box RealNumber, Shares a b) ∧
      (∀ (n m : Nat) (rows : Fin n → Box RealNumber) (columns : Fin m → Box RealNumber)
        (scores : List RealNumber), Scored rows columns scores) ∧
      ∀ (tracks : List (Track RealNumber)) (sightings : List (Sighting RealNumber)) i j,
        Tracker.weighedCost (tracks.get i) (sightings.get j) =
          weighedBy (distances (fun row => (tracks.get row).box) fun column =>
            (sightings.get column).box) (sightings.map Sighting.score) i j :=
  ⟨shares, fun _ _ => scored, weighedCost_get⟩

end ObjectQuery.Box
