import Mathlib.Data.Matrix.Mul
import ObjectQuery.Proofs.Number.Real
import ObjectQuery.Tracking.Grid

/-!
# Grids of real numbers as matrices

The operations on grids of real numbers are those of matrices. A system whose entries stand on the diagonal
is solved by dividing each part of the right side by its entry (`solvePositive?_diagonal`): the two divisions
by its root are one division by the entry.
-/

namespace ObjectQuery

open Scalar

theorem Column.get_ofFn {α : Type} {n : Nat} (part : Fin n → α) (i : Fin n) :
    (Vector.ofFn part).get i = part i :=
  Vector.getElem_ofFn i.isLt

theorem Column.get_set {α : Type} {n : Nat} (column : Column n α) (i j : Fin n) (part : α) :
    (column.set i part i.isLt).get j = if i = j then part else column.get j := by
  by_cases same : i = j
  · subst same
    rw [if_pos rfl]
    exact Vector.getElem_set_self i.isLt
  · rw [if_neg same]
    exact Vector.getElem_set_ne i.isLt j.isLt (Fin.val_ne_of_ne same)

/-- The parts of a column. -/
def Column.values {n : Nat} (column : Column n RealNumber) : Fin n → ℝ := fun i => (column.get i).value

namespace Grid

variable {l m n : Nat}

theorem entry_ofEntries {α : Type} (entries : Fin m → Fin n → α) (i : Fin m) (j : Fin n) :
    (ofEntries entries).entry i j = entries i j := by
  rw [entry, ofEntries, Column.get_ofFn, Column.get_ofFn]

/-- A grid as a matrix. -/
def matrix (grid : Grid m n RealNumber) : Matrix (Fin m) (Fin n) ℝ :=
  Matrix.of fun i j => (grid.entry i j).value

theorem matrix_ofEntries (entries : Fin m → Fin n → RealNumber) (i : Fin m) (j : Fin n) :
    (ofEntries entries).matrix i j = (entries i j).value :=
  congrArg RealNumber.value (entry_ofEntries entries i j)

theorem matrix_transpose (grid : Grid m n RealNumber) : grid.transpose.matrix = grid.matrix.transpose :=
  Matrix.ext fun i j => matrix_ofEntries _ i j

theorem matrix_add (a b : Grid m n RealNumber) : (a.add b).matrix = a.matrix + b.matrix :=
  Matrix.ext fun i j => matrix_ofEntries _ i j

theorem matrix_sub (a b : Grid m n RealNumber) : (a.sub b).matrix = a.matrix - b.matrix :=
  Matrix.ext fun i j => matrix_ofEntries _ i j

theorem matrix_mul (a : Grid l m RealNumber) (b : Grid m n RealNumber) :
    (a.mul b).matrix = a.matrix * b.matrix := by
  ext i j
  rw [mul, matrix_ofEntries, RealNumber.value_sum, Matrix.mul_apply]
  rfl

theorem matrix_diagonal (entries : Fin n → RealNumber) :
    (diagonal entries).matrix = Matrix.diagonal fun i => (entries i).value := by
  ext i j
  rw [diagonal, matrix_ofEntries]
  by_cases same : i = j
  · rw [if_pos same, same, Matrix.diagonal_apply_eq]
  · rw [if_neg same, Matrix.diagonal_apply_ne _ same, RealNumber.value_zero]

theorem values_apply (a : Grid m n RealNumber) (column : Column n RealNumber) :
    (a.apply column).values = a.matrix.mulVec column.values := by
  funext i
  rw [Column.values, apply, Column.get_ofFn, RealNumber.value_sum]
  rfl

end Grid

/-! ## Diagonal systems -/

section Diagonal

variable {n : Nat}

theorem value_div_root_div_root {entry : RealNumber} (positive : 0 < entry.value) (x : RealNumber) :
    (x / sqrt entry / sqrt entry).value = (x / entry).value := by
  simp only [RealNumber.value_div, RealNumber.value_sqrt]
  rw [div_div, Real.mul_self_sqrt positive.le]

/-- A diagonal system with positive entries has a solution: each part of the right side divided by its
entry. -/
theorem solvePositive?_diagonal (entries right : Fin n → RealNumber)
    (positive : ∀ i, 0 < (entries i).value) :
    solvePositive? (fun i j => if i = j then entries i else zero) right =
      some fun i => right i / entries i := by
  induction n with
  | zero => exact congrArg some (funext fun i => i.elim0)
  | succ n inductionHypothesis =>
      have leading : zero < entries 0 := by
        rw [RealNumber.lt_iff, RealNumber.value_zero]
        exact positive 0
      -- below the leading entry there is nothing, so the step leaves the rest of the system as it is
      have column (i : Fin n) :
          (if i.succ = 0 then entries i.succ else zero) / sqrt (entries 0) = zero := by
        ext
        rw [if_neg i.succ_ne_zero, RealNumber.value_div, RealNumber.value_zero, zero_div]
      have others (i j : Fin n) :
          (if i.succ = j.succ then entries i.succ else zero) - zero * zero =
            if i = j then entries i.succ else zero := by
        ext
        simp [Fin.succ_inj]
      have rightOthers (i : Fin n) (first : RealNumber) :
          right i.succ - zero * first = right i.succ := by
        ext
        simp
      rw [solvePositive?]
      simp only [if_true, if_pos leading, column, others, rightOthers]
      rw [inductionHypothesis (fun i => entries i.succ) _ fun i => positive i.succ]
      refine congrArg some (funext (Fin.cases ?_ fun i => rfl))
      ext
      rw [← value_div_root_div_root (positive 0)]
      simp

end Diagonal

end ObjectQuery
