import Mathlib.Algebra.Order.Field.Basic
import Mathlib.Order.Interval.Set.UnorderedInterval
import Mathlib.Tactic.FieldSimp
import Mathlib.Tactic.FinCases
import Mathlib.Tactic.Linarith
import Mathlib.Tactic.Positivity
import ObjectQuery.Proofs.Number.Real
import ObjectQuery.Tracking.Kalman

/-!
# Filters of one axis

Each part of an outline with its velocity is filtered on its own: two estimates, their variances and their
covariance. The four axes share only the height, which scales the noise. A height of zero leaves an axis
without noise, and a correction then leaves it without variance. `Axes.Sound` is what stands against a
division by zero: either every position has a variance, or the height has none and is not zero.
-/

namespace ObjectQuery

/-- One part of an outline and its velocity, with their variances and their covariance. -/
@[ext]
structure Axis where
  position : ℝ
  velocity : ℝ
  positionVariance : ℝ
  crossVariance : ℝ
  velocityVariance : ℝ

namespace Axis

/-- The axis one frame on, with the noise that the frame adds. -/
noncomputable def predict (axis : Axis) (positionNoise velocityNoise : ℝ) : Axis where
  position := axis.position + axis.velocity
  velocity := axis.velocity
  positionVariance :=
    axis.positionVariance + 2 * axis.crossVariance + axis.velocityVariance + positionNoise
  crossVariance := axis.crossVariance + axis.velocityVariance
  velocityVariance := axis.velocityVariance + velocityNoise

/-- The axis corrected by what is seen of its position with some noise. -/
noncomputable def correct (axis : Axis) (noise seen : ℝ) : Axis :=
  let expected := axis.positionVariance + noise
  { position := axis.position + axis.positionVariance / expected * (seen - axis.position)
    velocity := axis.velocity + axis.crossVariance / expected * (seen - axis.position)
    positionVariance :=
      axis.positionVariance - axis.positionVariance * axis.positionVariance / expected
    crossVariance := axis.crossVariance - axis.positionVariance * axis.crossVariance / expected
    velocityVariance := axis.velocityVariance - axis.crossVariance * axis.crossVariance / expected }

/-- The covariance of an axis is positive semidefinite, and what speaks for a higher position does not speak
for a lower velocity. -/
structure Sound (axis : Axis) : Prop where
  position_nonneg : 0 ≤ axis.positionVariance
  cross_nonneg : 0 ≤ axis.crossVariance
  velocity_nonneg : 0 ≤ axis.velocityVariance
  cross_le : axis.crossVariance * axis.crossVariance ≤ axis.positionVariance * axis.velocityVariance

variable {axis : Axis} {noise seen positionNoise velocityNoise : ℝ}

theorem le_positionVariance_predict (sound : axis.Sound) :
    axis.positionVariance + positionNoise ≤ (axis.predict positionNoise velocityNoise).positionVariance := by
  have cross := sound.cross_nonneg
  have velocity := sound.velocity_nonneg
  simp only [predict]
  linarith

theorem Sound.predict (sound : axis.Sound) (position : 0 ≤ positionNoise) (velocity : 0 ≤ velocityNoise) :
    (axis.predict positionNoise velocityNoise).Sound := by
  obtain ⟨positionOld, crossOld, velocityOld, old⟩ := sound
  constructor
  · simp only [Axis.predict]
    linarith
  · exact add_nonneg crossOld velocityOld
  · exact add_nonneg velocityOld velocity
  · simp only [Axis.predict]
    nlinarith [mul_nonneg positionOld velocity, mul_nonneg crossOld velocity,
      mul_nonneg velocityOld velocity, mul_nonneg position velocityOld, mul_nonneg position velocity]

theorem Sound.quadratic_nonneg (sound : axis.Sound) (x y : ℝ) :
    0 ≤ axis.positionVariance * x * x + 2 * axis.crossVariance * x * y + axis.velocityVariance * y * y := by
  obtain ⟨positionNonneg, _, velocityNonneg, crossLe⟩ := sound
  rcases positionNonneg.eq_or_lt with certain | positive
  · rw [← certain, zero_mul] at crossLe
    rw [← certain, mul_self_eq_zero.mp (le_antisymm crossLe (mul_self_nonneg _))]
    linarith [mul_nonneg velocityNonneg (mul_self_nonneg y), mul_assoc axis.velocityVariance y y]
  · refine (mul_nonneg_iff_of_pos_left positive).mp ?_
    have square := mul_self_nonneg (axis.positionVariance * x + axis.crossVariance * y)
    have rest := mul_nonneg (sub_nonneg.mpr crossLe) (mul_self_nonneg y)
    linarith

section Correct

variable (expected : 0 < axis.positionVariance + noise)

include expected

theorem positionVariance_correct :
    (axis.correct noise seen).positionVariance =
      axis.positionVariance * noise / (axis.positionVariance + noise) := by
  simp only [correct]
  field_simp
  ring

theorem crossVariance_correct :
    (axis.correct noise seen).crossVariance =
      axis.crossVariance * noise / (axis.positionVariance + noise) := by
  simp only [correct]
  field_simp
  ring

/-- What a correction leaves of the determinant of the covariance. -/
theorem determinant_correct :
    (axis.correct noise seen).positionVariance * (axis.correct noise seen).velocityVariance -
        (axis.correct noise seen).crossVariance * (axis.correct noise seen).crossVariance =
      noise / (axis.positionVariance + noise) *
        (axis.positionVariance * axis.velocityVariance - axis.crossVariance * axis.crossVariance) := by
  rw [positionVariance_correct expected, crossVariance_correct expected]
  simp only [correct]
  field_simp
  ring

theorem Sound.correct (sound : axis.Sound) (nonneg : 0 ≤ noise) : (axis.correct noise seen).Sound := by
  obtain ⟨positionOld, crossOld, velocityOld, old⟩ := sound
  constructor
  · rw [positionVariance_correct expected]
    positivity
  · rw [crossVariance_correct expected]
    positivity
  · have shrinks : axis.crossVariance * axis.crossVariance ≤
        axis.velocityVariance * (axis.positionVariance + noise) := by
      linarith [mul_nonneg velocityOld nonneg, mul_comm axis.positionVariance axis.velocityVariance,
        mul_add axis.velocityVariance axis.positionVariance noise]
    exact sub_nonneg.mpr ((div_le_iff₀ expected).mpr shrinks)
  · rw [← sub_nonneg, determinant_correct expected]
    exact mul_nonneg (div_nonneg nonneg expected.le) (sub_nonneg.mpr old)

/-- The gain of a position lies between zero and one. -/
theorem Sound.gain_le_one (sound : axis.Sound) (nonneg : 0 ≤ noise) :
    0 ≤ axis.positionVariance / (axis.positionVariance + noise) ∧
      axis.positionVariance / (axis.positionVariance + noise) ≤ 1 :=
  ⟨div_nonneg sound.position_nonneg expected.le,
    (div_le_one expected).mpr (le_add_of_nonneg_right nonneg)⟩

/-- A corrected position lies between the expected and the seen one. -/
theorem Sound.position_correct_mem (sound : axis.Sound) (nonneg : 0 ≤ noise) :
    (axis.correct noise seen).position ∈ Set.uIcc axis.position seen := by
  obtain ⟨least, most⟩ := sound.gain_le_one expected nonneg
  simp only [Axis.correct]
  generalize axis.positionVariance / (axis.positionVariance + noise) = gain at least most
  rcases le_total axis.position seen with ahead | behind
  · rw [Set.uIcc_of_le ahead]
    constructor <;> nlinarith
  · rw [Set.uIcc_of_ge behind]
    constructor <;> nlinarith

theorem positionVariance_correct_le : (axis.correct noise seen).positionVariance ≤ axis.positionVariance :=
  sub_le_self _ (div_nonneg (mul_self_nonneg _) expected.le)

theorem velocityVariance_correct_le : (axis.correct noise seen).velocityVariance ≤ axis.velocityVariance :=
  sub_le_self _ (div_nonneg (mul_self_nonneg _) expected.le)

/-- A corrected position is no less certain than what is seen of it. -/
theorem Sound.positionVariance_correct_le_noise (sound : axis.Sound) (nonneg : 0 ≤ noise) :
    (axis.correct noise seen).positionVariance ≤ noise := by
  rw [positionVariance_correct expected, mul_div_right_comm]
  exact mul_le_of_le_one_left nonneg (sound.gain_le_one expected nonneg).2

end Correct

end Axis

/-! ## Steps of a motion -/

namespace Motion

/-- What is done to a motion. -/
inductive Step (α : Type)
  /-- It moves on by one frame, with the velocity of the height set to zero first or not. -/
  | predict (frozen : Bool)
  | correct (outline : Box.Outline α)

variable {α : Type} [Scalar α]

/-- The motion after a step, none if it cannot be corrected. -/
def step? (motion : Motion α) : Step α → Option (Motion α)
  | .predict frozen => some (if frozen then motion.freezeHeight else motion).predict
  | .correct outline => motion.update? outline

def after? (motion : Motion α) (steps : List (Step α)) : Option (Motion α) := steps.foldlM step? motion

/-- A step whose measured height, if it has one, is positive. -/
def Step.Upright : Step RealNumber → Prop
  | .predict _ => True
  | .correct outline => 0 < outline.height.value

/-- The variance of a deviation. -/
noncomputable def noise {n : Nat} (deviation : Fin n → RealNumber) (i : Fin n) : ℝ :=
  (deviation i).value * (deviation i).value

end Motion

/-! ## Four axes -/

/-- The axes of the centre, the aspect and the height. -/
abbrev Axes := Fin 4 → Axis

namespace Axes

open Motion

def height (axes : Axes) : RealNumber := ⟨(axes 3).position⟩

/-- The axes after a first measurement, at rest. -/
noncomputable def initiate (outline : Box.Outline RealNumber) : Axes := fun k =>
  { position := ((measured outline).get k).value
    velocity := 0
    positionVariance := noise (initialDeviations outline.height) (k.castAdd 4)
    crossVariance := 0
    velocityVariance := noise (initialDeviations outline.height) (k.natAdd 4) }

/-- The axes with the velocity of the height set to zero. -/
def freezeHeight (axes : Axes) : Axes := Function.update axes 3 { axes 3 with velocity := 0 }

/-- Each axis moves on by itself, with a noise that depends on the height. -/
noncomputable def predict (axes : Axes) : Axes := fun k =>
  (axes k).predict (noise (driftDeviations axes.height) (k.castAdd 4))
    (noise (driftDeviations axes.height) (k.natAdd 4))

/-- Each axis is corrected by itself, with a noise that depends on the height. -/
noncomputable def correct (axes : Axes) (outline : Box.Outline RealNumber) : Axes := fun k =>
  (axes k).correct (noise (measurementDeviations axes.height) k) ((measured outline).get k).value

noncomputable def step (axes : Axes) : Step RealNumber → Axes
  | .predict frozen => (if frozen then axes.freezeHeight else axes).predict
  | .correct outline => axes.correct outline

noncomputable def after (axes : Axes) (steps : List (Step RealNumber)) : Axes := steps.foldl step axes

/-- What every step preserves. -/
structure Sound (axes : Axes) : Prop where
  axis : ∀ k, (axes k).Sound
  /-- A correction at a height of zero takes the variances, and the height is then what is measured. -/
  uncertain : (∀ k, 0 < (axes k).positionVariance) ∨
    (axes 3).positionVariance = 0 ∧ (axes 3).position ≠ 0

end Axes

/-! ## Noise -/

namespace Motion

variable {height : RealNumber}

theorem noise_nonneg {n : Nat} (deviation : Fin n → RealNumber) (i : Fin n) : 0 ≤ noise deviation i :=
  mul_self_nonneg _

theorem noise_pos {n : Nat} {deviation : Fin n → RealNumber} {i : Fin n}
    (nonzero : (deviation i).value ≠ 0) : 0 < noise deviation i :=
  mul_self_pos.mpr nonzero

/-- The deviations of the parts of an outline are those of a position, but for the aspect. -/
theorem deviations_castAdd (position aspect velocity aspectVelocity : RealNumber) (k : Fin 4) :
    deviations position aspect velocity aspectVelocity (k.castAdd 4) =
      if k = 2 then aspect else position := by
  fin_cases k <;> rfl

theorem measurementDeviations_eq (height : RealNumber) (k : Fin 4) :
    measurementDeviations height k =
      if k = 2 then Scalar.decimal 1 1 else positionWeight * height := by
  fin_cases k <;> rfl

theorem weighed_ne_zero (tall : height.value ≠ 0) : (positionWeight * height).value ≠ 0 := by
  simp [positionWeight, tall]

/-- At a height that is not zero every measurement has noise. -/
theorem measurementNoise_pos (tall : height.value ≠ 0) (k : Fin 4) :
    0 < noise (measurementDeviations height) k := by
  refine noise_pos ?_
  rw [measurementDeviations_eq]
  split
  · exact (RealNumber.value_decimal_pos (by decide) 1).ne'
  · exact weighed_ne_zero tall

/-- At a height of zero a measurement of the height has none. -/
theorem measurementNoise_height (flat : height.value = 0) : noise (measurementDeviations height) 3 = 0 := by
  rw [noise, measurementDeviations_eq, if_neg (by decide), RealNumber.value_mul, flat, mul_zero, mul_zero]

theorem driftNoise_pos (tall : height.value ≠ 0) (k : Fin 4) :
    0 < noise (driftDeviations height) (k.castAdd 4) := by
  refine noise_pos ?_
  rw [driftDeviations, deviations_castAdd]
  split
  · exact (RealNumber.value_decimal_pos (by decide) 2).ne'
  · exact weighed_ne_zero tall

theorem initialNoise_pos (tall : height.value ≠ 0) (k : Fin 4) :
    0 < noise (initialDeviations height) (k.castAdd 4) := by
  refine noise_pos ?_
  rw [initialDeviations, deviations_castAdd]
  split
  · exact (RealNumber.value_decimal_pos (by decide) 2).ne'
  · simp [positionWeight, tall]

end Motion

/-! ## What the steps preserve -/

namespace Axes

open Motion

variable {axes : Axes} {outline : Box.Outline RealNumber}

theorem sound_initiate (tall : 0 < outline.height.value) : (initiate outline).Sound where
  axis k :=
    { position_nonneg := noise_nonneg _ _
      cross_nonneg := le_refl 0
      velocity_nonneg := noise_nonneg _ _
      cross_le := by
        simpa only [initiate, mul_zero] using mul_nonneg (noise_nonneg _ _) (noise_nonneg _ _) }
  uncertain := Or.inl fun k => initialNoise_pos tall.ne' k

/-- The variance of every expected measurement is positive. -/
theorem Sound.expected_pos (sound : axes.Sound) (k : Fin 4) :
    0 < (axes k).positionVariance + noise (measurementDeviations axes.height) k := by
  rcases sound.uncertain with uncertain | ⟨_, tall⟩
  · exact add_pos_of_pos_of_nonneg (uncertain k) (noise_nonneg _ _)
  · exact add_pos_of_nonneg_of_pos (sound.axis k).position_nonneg (measurementNoise_pos tall k)

theorem freezeHeight_apply (axes : Axes) (k : Fin 4) :
    axes.freezeHeight k = { axes k with velocity := if k = 3 then 0 else (axes k).velocity } := by
  by_cases last : k = 3
  · subst last
    simp [freezeHeight]
  · simp [freezeHeight, last]

theorem Sound.freezeHeight (sound : axes.Sound) : axes.freezeHeight.Sound := by
  constructor
  · intro k
    rw [freezeHeight_apply]
    exact { sound.axis k with }
  · simpa only [freezeHeight_apply] using sound.uncertain

theorem Sound.predict (sound : axes.Sound) : axes.predict.Sound where
  axis k := (sound.axis k).predict (noise_nonneg _ _) (noise_nonneg _ _)
  uncertain := by
    refine Or.inl fun k => ?_
    refine lt_of_lt_of_le ?_ (Axis.le_positionVariance_predict (sound.axis k))
    rcases sound.uncertain with uncertain | ⟨_, tall⟩
    · exact add_pos_of_pos_of_nonneg (uncertain k) (noise_nonneg _ _)
    · exact add_pos_of_nonneg_of_pos (sound.axis k).position_nonneg (driftNoise_pos tall k)

/-- A correction at a height of zero leaves the height that is measured, and no variance of it. -/
theorem Sound.correct_flat (sound : axes.Sound) (outline : Box.Outline RealNumber)
    (flat : (axes 3).position = 0) :
    (axes.correct outline 3).positionVariance = 0 ∧
      (axes.correct outline 3).position = outline.height.value := by
  have expected := sound.expected_pos 3
  have silent : noise (measurementDeviations axes.height) 3 = 0 := measurementNoise_height flat
  constructor
  · rw [correct, Axis.positionVariance_correct expected, silent, mul_zero, zero_div]
  · rw [silent, add_zero] at expected
    simp only [correct, Axis.correct, silent, add_zero, flat, sub_zero, zero_add]
    rw [div_self expected.ne', one_mul]
    rfl

theorem Sound.correct (sound : axes.Sound) (tall : 0 < outline.height.value) :
    (axes.correct outline).Sound where
  axis k := (sound.axis k).correct (sound.expected_pos k) (noise_nonneg _ _)
  uncertain := by
    by_cases flat : (axes 3).position = 0
    · obtain ⟨certain, height⟩ := sound.correct_flat outline flat
      exact Or.inr ⟨certain, height ▸ tall.ne'⟩
    · refine sound.uncertain.imp (fun uncertain k => ?_) fun ⟨certain, _⟩ => ?_
      · rw [Axes.correct, Axis.positionVariance_correct (sound.expected_pos k)]
        exact div_pos (mul_pos (uncertain k) (measurementNoise_pos flat k)) (sound.expected_pos k)
      · simp [Axes.correct, Axis.correct, certain, flat]

theorem Sound.step (sound : axes.Sound) {step : Step RealNumber} (upright : step.Upright) :
    (axes.step step).Sound := by
  cases step with
  | predict frozen =>
      cases frozen with
      | false => exact sound.predict
      | true => exact sound.freezeHeight.predict
  | correct outline => exact sound.correct upright

theorem Sound.after (sound : axes.Sound) {steps : List (Step RealNumber)}
    (upright : ∀ step ∈ steps, step.Upright) : (axes.after steps).Sound := by
  induction steps generalizing axes with
  | nil => exact sound
  | cons step rest inductionHypothesis =>
      obtain ⟨first, others⟩ := List.forall_mem_cons.mp upright
      exact inductionHypothesis (sound.step first) others

end Axes

end ObjectQuery
