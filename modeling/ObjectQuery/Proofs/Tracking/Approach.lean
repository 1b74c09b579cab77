import ObjectQuery.Proofs.Tracking.Regular

/-!
# A correction does not overshoot

The gain of a correction lies between zero and one on every axis. So a corrected part of the outline lies
between what was expected and what is seen, no variance grows, and none is left larger than that of the
measurement (`approaches_of_steps`).
-/

namespace ObjectQuery

open Matrix

namespace Motion

/-- A motion that comes from another one by a correction with an outline. -/
structure Approaches (motion corrected : Motion RealNumber) (outline : Box.Outline RealNumber) : Prop where
  /-- Each part of the outline lies between the expected and the seen one. -/
  between : ∀ k : Fin 4, (corrected.mean.get (k.castAdd 4)).value ∈
    Set.uIcc (motion.mean.get (k.castAdd 4)).value ((measured outline).get k).value
  shrinks : ∀ i, (corrected.covariance.entry i i).value ≤ (motion.covariance.entry i i).value
  /-- No part of the outline is less certain than the measurement. -/
  bounded : ∀ k : Fin 4, (corrected.covariance.entry (k.castAdd 4) (k.castAdd 4)).value ≤
    ((variances (measurementDeviations (motion.mean.get 3))).entry k k).value

variable {motion corrected : Motion RealNumber} {axes : Axes} {outline : Box.Outline RealNumber}

theorem Splits.positionVariance (splits : motion.Splits axes) (k : Fin 4) :
    (motion.covariance.entry (k.castAdd 4) (k.castAdd 4)).value = (axes k).positionVariance := by
  rw [← place_inl, splits.entry_eq, Axes.covariance, fromBlocks_apply₁₁, diagonal_apply_eq]

theorem Splits.velocityVariance (splits : motion.Splits axes) (k : Fin 4) :
    (motion.covariance.entry (k.natAdd 4) (k.natAdd 4)).value = (axes k).velocityVariance := by
  rw [← place_inr, splits.entry_eq, Axes.covariance, fromBlocks_apply₂₂, diagonal_apply_eq]

theorem Splits.approaches (splits : motion.Splits axes) (sound : axes.Sound)
    (after : corrected.Splits (axes.correct outline)) : motion.Approaches corrected outline where
  between k := by
    rw [after.position, splits.position]
    exact (sound.axis k).position_correct_mem (sound.expected_pos k) (noise_nonneg _ _)
  shrinks i := by
    obtain ⟨i | k, rfl⟩ := place.surjective i
    · rw [place_inl, after.positionVariance, splits.positionVariance]
      exact Axis.positionVariance_correct_le (sound.expected_pos i)
    · rw [place_inr, after.velocityVariance, splits.velocityVariance]
      exact Axis.velocityVariance_correct_le (sound.expected_pos k)
  bounded k := by
    have noise : ((variances (measurementDeviations (motion.mean.get 3))).entry k k).value =
        noise (measurementDeviations axes.height) k := by
      rw [← splits.height_eq]
      exact (congrFun (congrFun (matrix_variances _) k) k).trans (diagonal_apply_eq _ k)
    rw [after.positionVariance, noise]
    exact (sound.axis k).positionVariance_correct_le_noise (sound.expected_pos k) (noise_nonneg _ _)

/-- Whatever predictions and corrections have led to it, a motion can be corrected with any outline, and the
corrected one approaches it. -/
theorem approaches_of_steps (first outline : Box.Outline RealNumber) (steps : List (Step RealNumber))
    (tall : 0 < first.height.value) (upright : ∀ step ∈ steps, step.Upright) :
    ∃ motion corrected, (initiate first).after? steps = some motion ∧
      motion.update? outline = some corrected ∧ motion.Approaches corrected outline := by
  have sound := (Axes.sound_initiate tall).after upright
  obtain ⟨motion, ran, splits⟩ :=
    (splits_initiate first).exists_after (Axes.sound_initiate tall) upright
  obtain ⟨corrected, updated, after⟩ := splits.exists_update sound outline
  exact ⟨motion, corrected, ran, updated, splits.approaches sound after⟩

/-- Somebody who has crouched is seen standing. -/
theorem approaches_of_steps_crouches :
    0 < standing.height.value ∧ (∀ step ∈ crouches, step.Upright) ∧
      ∃ motion corrected, (initiate standing).after? crouches = some motion ∧
        motion.update? standing = some corrected ∧ motion.Approaches corrected standing := by
  have tall : 0 < standing.height.value := by simp [standing]
  exact ⟨tall, upright_crouches, approaches_of_steps standing standing crouches tall upright_crouches⟩

end Motion

end ObjectQuery
