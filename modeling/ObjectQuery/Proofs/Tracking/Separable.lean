import Mathlib.Data.Matrix.ColumnRowPartitioned
import Mathlib.LinearAlgebra.Matrix.PosDef
import ObjectQuery.Proofs.Tracking.Axes
import ObjectQuery.Proofs.Tracking.Grid

/-!
# A motion as four axes

The state of a motion holds four parts of an outline and their velocities, and its covariance has no entries
between different axes. In blocks of positions and velocities, a step is therefore a step of each axis by
itself (`Splits.predict`, `Splits.corrected`): the covariance of an expected measurement is diagonal, and its
system is solved part by part. As long as the axes are sound no correction fails (`Splits.exists_after`).
-/

namespace ObjectQuery

open Matrix

/-- The places of a state: the parts of the outline and their velocities. -/
def place : Fin 4 ⊕ Fin 4 ≃ Fin 8 := finSumFinEquiv

@[simp] theorem place_inl (k : Fin 4) : place (.inl k) = k.castAdd 4 := rfl

@[simp] theorem place_inr (k : Fin 4) : place (.inr k) = k.natAdd 4 := rfl

namespace Axes

/-- The estimates of all axes. -/
def mean (axes : Axes) : Fin 4 ⊕ Fin 4 → ℝ :=
  Sum.elim (fun k => (axes k).position) fun k => (axes k).velocity

/-- The covariances of all axes: there are none between different axes. -/
def covariance (axes : Axes) : Matrix (Fin 4 ⊕ Fin 4) (Fin 4 ⊕ Fin 4) ℝ :=
  fromBlocks (diagonal fun k => (axes k).positionVariance) (diagonal fun k => (axes k).crossVariance)
    (diagonal fun k => (axes k).crossVariance) (diagonal fun k => (axes k).velocityVariance)

/-- The variances of an expected measurement. -/
noncomputable def expected (axes : Axes) (k : Fin 4) : ℝ :=
  (axes k).positionVariance + Motion.noise (Motion.measurementDeviations axes.height) k

end Axes

namespace Motion

/-- A motion consists of four axes. -/
structure Splits (motion : Motion RealNumber) (axes : Axes) : Prop where
  mean : motion.mean.values ∘ place = axes.mean
  covariance : motion.covariance.matrix.submatrix place place = axes.covariance

/-! ## The linear model in blocks -/

theorem value_indicator (condition : Prop) [Decidable condition] :
    (if condition then Scalar.one else Scalar.zero : RealNumber).value = if condition then 1 else 0 := by
  split <;> simp

theorem transition_blocks : (transition : Grid 8 8 RealNumber).matrix.submatrix place place =
    fromBlocks 1 1 0 1 := by
  ext (i | i) (j | j)
  · have same : i.castAdd 4 = j.castAdd 4 ∨ (i.castAdd 4).val + 4 = (j.castAdd 4).val ↔ i = j := by
      simp only [Fin.ext_iff, Fin.val_castAdd]
      omega
    rw [submatrix_apply, transition, Grid.matrix_ofEntries, value_indicator, fromBlocks_apply₁₁, one_apply]
    exact if_congr same rfl rfl
  · have moved : i.castAdd 4 = j.natAdd 4 ∨ (i.castAdd 4).val + 4 = (j.natAdd 4).val ↔ i = j := by
      simp only [Fin.ext_iff, Fin.val_castAdd, Fin.val_natAdd]
      omega
    rw [submatrix_apply, transition, Grid.matrix_ofEntries, value_indicator, fromBlocks_apply₁₂, one_apply]
    exact if_congr moved rfl rfl
  · have apart : ¬ (i.natAdd 4 = j.castAdd 4 ∨ (i.natAdd 4).val + 4 = (j.castAdd 4).val) := by
      simp only [Fin.ext_iff, Fin.val_castAdd, Fin.val_natAdd]
      omega
    rw [submatrix_apply, transition, Grid.matrix_ofEntries, value_indicator, fromBlocks_apply₂₁, Matrix.zero_apply]
    exact if_neg apart
  · have same : i.natAdd 4 = j.natAdd 4 ∨ (i.natAdd 4).val + 4 = (j.natAdd 4).val ↔ i = j := by
      simp only [Fin.ext_iff, Fin.val_natAdd]
      omega
    rw [submatrix_apply, transition, Grid.matrix_ofEntries, value_indicator, fromBlocks_apply₂₂, one_apply]
    exact if_congr same rfl rfl

theorem observation_blocks : (observation : Grid 4 8 RealNumber).matrix.submatrix id place =
    fromCols 1 0 := by
  ext i (j | j)
  · rw [submatrix_apply, observation, Grid.matrix_ofEntries, value_indicator, fromCols_apply_inl, one_apply]
    exact if_congr Fin.ext_iff.symm rfl rfl
  · have apart : ¬ i.val = (j.natAdd 4).val := by
      rw [Fin.val_natAdd]
      omega
    rw [submatrix_apply, observation, Grid.matrix_ofEntries, value_indicator, fromCols_apply_inr, Matrix.zero_apply]
    exact if_neg apart

theorem matrix_variances {n : Nat} (deviation : Fin n → RealNumber) :
    (variances deviation).matrix = diagonal (noise deviation) :=
  Grid.matrix_diagonal _

theorem variances_blocks (deviation : Fin 8 → RealNumber) :
    (variances deviation).matrix.submatrix place place =
      fromBlocks (diagonal fun k => noise deviation (k.castAdd 4)) 0 0
        (diagonal fun k => noise deviation (k.natAdd 4)) := by
  rw [matrix_variances, submatrix_diagonal_equiv, fromBlocks_diagonal]
  refine congrArg diagonal (funext fun i => ?_)
  cases i <;> rfl

theorem mulVec_comp_place {l m : Type} (matrix : Matrix m (Fin 8) ℝ) (rows : l → m) (x : Fin 8 → ℝ) :
    (matrix *ᵥ x) ∘ rows = matrix.submatrix rows place *ᵥ (x ∘ place) := by
  rw [submatrix_mulVec_equiv, Function.comp_assoc, Equiv.self_comp_symm, Function.comp_id]

/-! ## Steps -/

variable {motion : Motion RealNumber} {axes : Axes} {outline : Box.Outline RealNumber}

theorem Splits.position (splits : motion.Splits axes) (k : Fin 4) :
    (motion.mean.get (k.castAdd 4)).value = (axes k).position :=
  congrFun splits.mean (.inl k)

theorem Splits.velocity (splits : motion.Splits axes) (k : Fin 4) :
    (motion.mean.get (k.natAdd 4)).value = (axes k).velocity :=
  congrFun splits.mean (.inr k)

theorem Splits.height_eq (splits : motion.Splits axes) : motion.mean.get 3 = axes.height :=
  RealNumber.ext (splits.position 3)

theorem splits_initiate (outline : Box.Outline RealNumber) :
    (initiate outline).Splits (Axes.initiate outline) where
  mean := by
    ext (k | k)
    · fin_cases k <;> rfl
    · fin_cases k <;> exact RealNumber.value_zero
  covariance := by
    rw [initiate, variances_blocks, Axes.covariance]
    simp only [Axes.initiate, diagonal_zero]

theorem Splits.freezeHeight (splits : motion.Splits axes) :
    motion.freezeHeight.Splits axes.freezeHeight where
  mean := by
    have frozen (i : Fin 8) : motion.freezeHeight.mean.get i =
        if (7 : Fin 8) = i then Scalar.zero else motion.mean.get i :=
      Column.get_set motion.mean 7 i Scalar.zero
    ext (k | k)
    · have apart : (7 : Fin 8) ≠ k.castAdd 4 := by
        rw [ne_eq, Fin.ext_iff, Fin.val_castAdd]
        omega
      rw [Function.comp_apply, place_inl, Column.values, frozen, if_neg apart, splits.position]
      simp [Axes.mean, Axes.freezeHeight_apply]
    · have last : (7 : Fin 8) = k.natAdd 4 ↔ k = 3 := by
        rw [Fin.ext_iff, Fin.ext_iff, Fin.val_natAdd]
        omega
      rw [Function.comp_apply, place_inr, Column.values, frozen, if_congr last rfl rfl]
      simp only [Axes.mean, Axes.freezeHeight_apply, Sum.elim_inr]
      split
      · exact RealNumber.value_zero
      · exact splits.velocity k
  covariance := by
    simp only [Axes.covariance, Axes.freezeHeight_apply]
    exact splits.covariance

theorem Splits.predict (splits : motion.Splits axes) : motion.predict.Splits axes.predict where
  mean := by
    rw [Motion.predict, Grid.values_apply, mulVec_comp_place, transition_blocks, splits.mean,
      fromBlocks_mulVec]
    ext (k | k)
    · simp [Axes.mean, Axes.predict, Axis.predict]
    · simp [Axes.mean, Axes.predict, Axis.predict]
  covariance := by
    rw [Motion.predict, Grid.matrix_add, Grid.matrix_mul, Grid.matrix_mul, Grid.matrix_transpose, submatrix_add]
    simp only [Pi.add_apply]
    rw [← submatrix_mul_equiv _ _ place place place, ← submatrix_mul_equiv _ _ place place place,
      ← transpose_submatrix, transition_blocks, splits.covariance, variances_blocks, splits.height_eq]
    simp only [Axes.covariance, fromBlocks_transpose, transpose_one, transpose_zero, fromBlocks_multiply,
      one_mul, mul_one, zero_mul, mul_zero, zero_add, add_zero, fromBlocks_add, diagonal_add]
    refine fromBlocks_inj.mpr ⟨congrArg diagonal (funext fun k => ?_), rfl, rfl, rfl⟩
    simp only [Axes.predict, Axis.predict]
    ring

/-! ## Corrections -/

/-- What a measurement shows of the covariance. -/
theorem Splits.shown (splits : motion.Splits axes) :
    (observation.mul motion.covariance).matrix.submatrix id place =
      fromCols (diagonal fun k => (axes k).positionVariance) (diagonal fun k => (axes k).crossVariance) := by
  rw [Grid.matrix_mul, ← submatrix_mul_equiv _ _ id place place, observation_blocks, splits.covariance,
    Axes.covariance, fromCols_mul_fromBlocks, one_mul, one_mul, Matrix.zero_mul, Matrix.zero_mul, add_zero,
    add_zero]

/-- The parts of an expected measurement have no covariances. -/
theorem Splits.expected (splits : motion.Splits axes) :
    motion.project.2.matrix = diagonal axes.expected := by
  have shown : (observation.mul motion.covariance).matrix * (observation : Grid 4 8 RealNumber).matrix.transpose =
      diagonal fun k => (axes k).positionVariance := by
    rw [← submatrix_id_id (_ * _), ← submatrix_mul_equiv _ _ id place id, splits.shown,
      ← transpose_submatrix, observation_blocks, transpose_fromCols, transpose_one, transpose_zero,
      fromCols_mul_fromRows, mul_one, Matrix.mul_zero, add_zero]
  rw [project, Grid.matrix_add, Grid.matrix_mul, Grid.matrix_transpose, shown, matrix_variances,
    splits.height_eq, diagonal_add]
  rfl

/-- The gain where the parts of an expected measurement have variances and no covariances. -/
noncomputable def gainOver (motion : Motion RealNumber) (variance : Fin 4 → ℝ) : Grid 8 4 RealNumber :=
  .ofEntries fun i k => (observation.mul motion.covariance).entry k i / ⟨variance k⟩

theorem gain?_of_diagonal {expected : Grid 4 4 RealNumber} {variance : Fin 4 → ℝ}
    (diagonal : expected.matrix = diagonal variance) (positive : ∀ k, 0 < variance k) :
    motion.gain? expected = some (motion.gainOver variance) := by
  have entries : expected.entry = fun i j => if i = j then ⟨variance i⟩ else Scalar.zero := by
    funext i j
    have same : (expected.entry i j).value = _ := congrFun (congrFun diagonal i) j
    ext
    rw [same, diagonal_apply]
    split
    · rfl
    · exact RealNumber.value_zero.symm
  have column (i : Fin 8) :
      (solvePositive? expected.entry fun j => (observation.mul motion.covariance).entry j i).map Vector.ofFn =
        some (Vector.ofFn fun k => (observation.mul motion.covariance).entry k i / ⟨variance k⟩) := by
    rw [entries, solvePositive?_diagonal _ _ positive, Option.map_some]
  have columns (i : Fin 8) : (Vector.ofFn fun i : Fin 8 =>
      (solvePositive? expected.entry fun j => (observation.mul motion.covariance).entry j i).map
        Vector.ofFn).get i =
      some (Vector.ofFn fun k => (observation.mul motion.covariance).entry k i / ⟨variance k⟩) :=
    (Column.get_ofFn _ i).trans (column i)
  rw [gain?, dif_pos fun i => Option.isSome_iff_exists.mpr ⟨_, columns i⟩]
  exact congrArg some (congrArg Vector.ofFn (funext fun i => Option.get_of_eq_some _ (columns i)))

theorem diagonal_div (variance expected : Fin 4 → ℝ) (i k : Fin 4) :
    diagonal variance k i / expected k = diagonal (fun k => variance k / expected k) i k := by
  rw [diagonal_apply, diagonal_apply]
  by_cases same : k = i
  · rw [if_pos same, if_pos same.symm, same]
  · rw [if_neg same, if_neg (Ne.symm same), zero_div]

/-- A measurement of one axis moves no other axis. -/
theorem Splits.gain_blocks (splits : motion.Splits axes) (variance : Fin 4 → ℝ) :
    (motion.gainOver variance).matrix.submatrix place id =
      fromRows (diagonal fun k => (axes k).positionVariance / variance k)
        (diagonal fun k => (axes k).crossVariance / variance k) := by
  have shown (k : Fin 4) (i : Fin 4 ⊕ Fin 4) :
      ((observation.mul motion.covariance).entry k (place i)).value = _ :=
    congrFun (congrFun splits.shown k) i
  ext (i | i) k
  · rw [submatrix_apply, gainOver, Grid.matrix_ofEntries, RealNumber.value_div, id, shown,
      fromCols_apply_inl, fromRows_apply_inl]
    exact diagonal_div _ _ i k
  · rw [submatrix_apply, gainOver, Grid.matrix_ofEntries, RealNumber.value_div, id, shown,
      fromCols_apply_inr, fromRows_apply_inr]
    exact diagonal_div _ _ i k

/-- The state corrected with a gain. -/
noncomputable def corrected (motion : Motion RealNumber) (gain : Grid 8 4 RealNumber)
    (outline : Box.Outline RealNumber) : Motion RealNumber :=
  let innovation : Column 4 RealNumber :=
    Vector.ofFn fun i => (measured outline).get i - motion.project.1.get i
  { mean := Vector.ofFn fun i => motion.mean.get i + (gain.apply innovation).get i
    covariance := motion.covariance.sub ((gain.mul motion.project.2).mul gain.transpose) }

theorem update?_eq {gain : Grid 8 4 RealNumber} (solved : motion.gain? motion.project.2 = some gain) :
    motion.update? outline = some (motion.corrected gain outline) :=
  congrArg (Option.map fun gain => motion.corrected gain outline) solved

theorem Splits.values_project (splits : motion.Splits axes) :
    motion.project.1.values = fun k => (axes k).position := by
  rw [project, Grid.values_apply, ← Function.comp_id (_ *ᵥ _), mulVec_comp_place, observation_blocks,
    splits.mean, fromCols_mulVec, one_mulVec, zero_mulVec, add_zero]
  rfl

theorem values_corrected (gain : Grid 8 4 RealNumber) (i : Fin 4 ⊕ Fin 4) :
    (motion.corrected gain outline).mean.values (place i) = motion.mean.values (place i) +
      (gain.matrix.submatrix place id *ᵥ fun k =>
        ((measured outline).get k).value - motion.project.1.values k) i := by
  let innovation : Column 4 RealNumber :=
    Vector.ofFn fun i => (measured outline).get i - motion.project.1.get i
  have innovations : innovation.values = fun k =>
      ((measured outline).get k).value - motion.project.1.values k :=
    funext fun k => congrArg RealNumber.value (Column.get_ofFn _ k)
  rw [corrected, Column.values, Column.get_ofFn, RealNumber.value_add, ← innovations]
  exact congrArg _ (congrFun (Grid.values_apply gain innovation) (place i))

/-- Where the axes are sound, a correction corrects each of them by itself. -/
theorem Splits.corrected (splits : motion.Splits axes) (sound : axes.Sound)
    (outline : Box.Outline RealNumber) :
    (motion.corrected (motion.gainOver axes.expected) outline).Splits (axes.correct outline) where
  mean := by
    ext i
    rw [Function.comp_apply, values_corrected, splits.gain_blocks, splits.values_project, fromRows_mulVec,
      ← Function.comp_apply (f := motion.mean.values), splits.mean]
    cases i with
    | inl k =>
        rw [Sum.elim_inl, mulVec_diagonal]
        rfl
    | inr k =>
        rw [Sum.elim_inr, mulVec_diagonal]
        rfl
  covariance := by
    have blocks := splits.gain_blocks axes.expected
    have nonzero (k : Fin 4) : axes.expected k ≠ 0 := (sound.expected_pos k).ne'
    rw [Motion.corrected, Grid.matrix_sub, Grid.matrix_mul, Grid.matrix_mul, Grid.matrix_transpose,
      splits.expected, submatrix_sub]
    simp only [Pi.sub_apply]
    rw [submatrix_mul _ _ place id place Function.bijective_id,
      submatrix_mul _ _ place id id Function.bijective_id, submatrix_id_id, ← transpose_submatrix, blocks,
      splits.covariance, Axes.covariance, transpose_fromRows, fromRows_mul, fromRows_mul_fromCols]
    simp only [diagonal_mul_diagonal, diagonal_transpose, div_mul_cancel₀ _ (nonzero _)]
    rw [sub_eq_add_neg, fromBlocks_neg, fromBlocks_add]
    simp only [← sub_eq_add_neg, diagonal_sub, ← mul_div_assoc]
    refine fromBlocks_inj.mpr ⟨rfl, rfl, congrArg diagonal (funext fun k => ?_), rfl⟩
    rw [mul_comm (axes k).crossVariance]
    rfl

theorem Splits.exists_update (splits : motion.Splits axes) (sound : axes.Sound)
    (outline : Box.Outline RealNumber) :
    ∃ corrected, motion.update? outline = some corrected ∧ corrected.Splits (axes.correct outline) :=
  ⟨_, update?_eq (gain?_of_diagonal splits.expected sound.expected_pos), splits.corrected sound outline⟩

/-! ## Runs -/

theorem Splits.exists_step (splits : motion.Splits axes) (sound : axes.Sound) (step : Step RealNumber) :
    ∃ next, motion.step? step = some next ∧ next.Splits (axes.step step) := by
  cases step with
  | predict frozen =>
      cases frozen with
      | false => exact ⟨_, rfl, splits.predict⟩
      | true => exact ⟨_, rfl, splits.freezeHeight.predict⟩
  | correct outline => exact splits.exists_update sound outline

theorem Splits.exists_after (splits : motion.Splits axes) (sound : axes.Sound)
    {steps : List (Step RealNumber)} (upright : ∀ step ∈ steps, step.Upright) :
    ∃ last, motion.after? steps = some last ∧ last.Splits (axes.after steps) := by
  induction steps generalizing motion axes with
  | nil => exact ⟨motion, rfl, splits⟩
  | cons step rest inductionHypothesis =>
      obtain ⟨first, others⟩ := List.forall_mem_cons.mp upright
      obtain ⟨next, stepped, splits⟩ := splits.exists_step sound step
      obtain ⟨last, ran, splits⟩ := inductionHypothesis splits (sound.step first) others
      refine ⟨last, ?_, splits⟩
      rw [after?, List.foldlM_cons, stepped]
      exact ran

/-- A motion that begins with an outline of a positive height and is changed by upright steps. -/
def IsReached (motion : Motion RealNumber) : Prop :=
  ∃ outline steps, 0 < outline.height.value ∧ (∀ step ∈ steps, step.Upright) ∧
    (initiate outline).after? steps = some motion

theorem isReached_initiate (tall : 0 < outline.height.value) : (initiate outline).IsReached :=
  ⟨outline, [], tall, List.forall_mem_nil _, rfl⟩

theorem IsReached.step (reached : motion.IsReached) (step : Step RealNumber) (upright : step.Upright)
    {next : Motion RealNumber} (stepped : motion.step? step = some next) : next.IsReached := by
  obtain ⟨outline, steps, tall, earlier, ran⟩ := reached
  refine ⟨outline, steps ++ [step], tall, fun other member => ?_, ?_⟩
  · rcases List.mem_append.mp member with before | last
    · exact earlier other before
    · rwa [List.mem_singleton.mp last]
  · unfold after? at ran ⊢
    simp [List.foldlM_append, ran, stepped]

theorem IsReached.exists_axes (reached : motion.IsReached) : ∃ axes, motion.Splits axes ∧ axes.Sound := by
  obtain ⟨outline, steps, tall, upright, ran⟩ := reached
  have sound := Axes.sound_initiate tall
  obtain ⟨last, same, splits⟩ := (splits_initiate outline).exists_after sound upright
  rw [ran] at same
  exact ⟨_, Option.some.inj same ▸ splits, sound.after upright⟩

end Motion

end ObjectQuery
