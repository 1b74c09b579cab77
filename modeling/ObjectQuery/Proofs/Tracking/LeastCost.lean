import Mathlib.Data.Fin.VecNotation
import Mathlib.Data.Fintype.Pi
import Mathlib.Tactic.Linarith
import ObjectQuery.Proofs.Number.Exact
import ObjectQuery.Proofs.Tracking.LeastMatching
import ObjectQuery.Tracking.LeastAssignment

/-!
# The least matching under a threshold

With exact costs, a solver that finds a least matching of the extended grid makes a matching under a
threshold that no other one betters, where each row and each column that is left alone counts half the
threshold (`least_of_find`).
-/

namespace ObjectQuery

namespace Assignment

variable {n m : Nat}

/-- The solver has an answer for a grid that costs no more than any other one. -/
def SolvesLeast {α : Type} [Scalar α] {size : Nat} (solve : AssignmentSolver α)
    (grid : Fin size → Fin size → α) : Prop :=
  ∃ columnOf, solve size grid = some columnOf ∧
    ∀ other : Fin size → Fin size, Function.Injective other →
      Scalar.sum (fun r => grid r (columnOf.val r)) ≤ Scalar.sum fun r => grid r (other r)

/-- A pair with a finite cost that is not above a threshold. -/
def Affordable (cost : Fin n → Fin m → ExactNumber) (threshold : ℚ) (i : Fin n) (j : Fin m) : Prop :=
  ∃ value ≤ threshold, cost i j = .finite value

section Exact

variable {cost : Fin n → Fin m → ExactNumber} {threshold : ℚ} {i : Fin n} {j : Fin m}
  {columnOf : Fin (n + m) → Fin (n + m)}

theorem affordable_iff :
    Affordable cost threshold i j ↔ isAllowed (.finite threshold) (cost i j) = true := by
  rw [isAllowed, Bool.and_eq_true, ExactNumber.isFinite_iff, decide_eq_true_iff]
  constructor
  · rintro ⟨value, low, same⟩
    rw [same]
    exact ⟨⟨value, rfl⟩, ExactNumber.finite_le_iff.mpr low⟩
  · rintro ⟨⟨value, same⟩, low⟩
    rw [same] at low
    exact ⟨value, ExactNumber.finite_le_iff.mp low, same⟩

/-- The price of a pair of the extended grid. -/
def exactPrice (cost : Fin n → Fin m → ExactNumber) (threshold : ℚ) (r c : Fin (n + m)) : ℚ :=
  gridPrice (fun i j => (cost i j).value) (fun i j => isAllowed (.finite threshold) (cost i j))
    (threshold / 2) 1000000 r c

theorem extended_eq (cost : Fin n → Fin m → ExactNumber) (threshold : ℚ) (r c : Fin (n + m)) :
    extended cost (.finite threshold) r c = .finite (exactPrice cost threshold r c) := by
  have halved : ExactNumber.finite threshold / Scalar.two = .finite (threshold / 2) :=
    ExactNumber.finite_div two_ne_zero
  rw [extended, halved, exactPrice]
  induction r using Fin.addCases with
  | left i =>
      rw [gridPrice_row, dif_pos (by simp)]
      by_cases inside : c.val < m
      · by_cases allows : isAllowed (.finite threshold) (cost i ⟨c.val, inside⟩)
        · obtain ⟨value, _, same⟩ := affordable_iff.mpr allows
          rw [same] at allows
          simp [realColumn?, inside, same, allows]
        · simp [realColumn?, inside, allows, forbidden]
      · simp [realColumn?, inside]
  | right j =>
      rw [gridPrice_spare, dif_neg (by simp)]
      by_cases inside : c.val < m
      · simp [realColumn?, inside]
      · simp [realColumn?, inside, Scalar.zero]

theorem pairsOf_eq (cost : Fin n → Fin m → ExactNumber) (threshold : ExactNumber)
    (columnOf : Fin (n + m) → Fin (n + m)) :
    pairsOf cost threshold columnOf = (List.finRange n).filterMap fun i =>
      ((realColumn? (columnOf (Fin.castAdd m i))).filter fun j =>
        decide (cost i j ≤ threshold)).map (Prod.mk i) := by
  refine List.filterMap_congr fun i _ => ?_
  by_cases inside : (columnOf (Fin.castAdd m i)).val < m
  · by_cases low : cost i ⟨_, inside⟩ ≤ threshold
    · simp [realColumn?, inside, low, Option.filter]
    · simp [realColumn?, inside, low, Option.filter]
  · simp [realColumn?, inside]

theorem mem_pairsOf_iff :
    (i, j) ∈ pairsOf cost (.finite threshold) columnOf ↔
      realColumn? (columnOf (Fin.castAdd m i)) = some j ∧ cost i j ≤ .finite threshold := by
  rw [pairsOf_eq, List.mem_filterMap]
  constructor
  · rintro ⟨row, _, made⟩
    obtain ⟨column, kept, same⟩ := Option.map_eq_some_iff.mp made
    obtain ⟨rfl, rfl⟩ := Prod.mk.inj same
    simpa [Option.filter_eq_some_iff] using kept
  · rintro ⟨found, low⟩
    exact ⟨i, List.mem_finRange i, by simp [found, low, Option.filter]⟩

/-- Only affordable pairs are in a least matching of the extended grid. -/
theorem affordable_of_least (low : threshold ≤ 1) (injective : Function.Injective columnOf)
    (least : ∀ other : Fin (n + m) → Fin (n + m), Function.Injective other →
      ∑ r, exactPrice cost threshold r (columnOf r) ≤ ∑ r, exactPrice cost threshold r (other r))
    (member : (i, j) ∈ pairsOf cost (.finite threshold) columnOf) : Affordable cost threshold i j := by
  rw [affordable_iff]
  by_contra refused
  let kept := (pairsOf cost (.finite threshold) columnOf).filter fun pair =>
    isAllowed (.finite threshold) (cost pair.1 pair.2)
  have rows : (kept.map Prod.fst).Nodup := (List.nodup_finRange n).sublist
    ((List.filter_sublist.map Prod.fst).trans (sublist_rows_pairsOf cost _ columnOf))
  have columns : (kept.map Prod.snd).Nodup :=
    (nodup_columns_pairsOf cost _ injective).sublist (List.filter_sublist.map Prod.snd)
  have keeps (i : Fin n) (j : Fin m) : (i, j) ∈ kept ↔
      realColumn? (columnOf (Fin.castAdd m i)) = some j ∧
        isAllowed (.finite threshold) (cost i j) = true := by
    rw [List.mem_filter, mem_pairsOf_iff, and_assoc]
    refine and_congr_right fun _ => and_iff_right_of_imp fun allows => ?_
    exact of_decide_eq_true (Bool.and_eq_true _ _ ▸ allows).2
  have cheaper : ∑ r, exactPrice cost threshold r (completion kept r) <
      ∑ r, exactPrice cost threshold r (columnOf r) :=
    sum_completion_lt _ injective (by linarith) rows columns keeps (mem_pairsOf_iff.mp member).1
      refused
  exact absurd (least _ (completion_injective rows columns)) (not_le.mpr cheaper)

/-- The total cost of a matching with exact costs, where each row and each column that is left alone
counts half the threshold. -/
def exactTotal (cost : Fin n → Fin m → ExactNumber) (threshold : ℚ) (matching : Assignment n m) : ℚ :=
  matching.total (fun i j => (cost i j).value) (threshold / 2)

theorem sum_exactPrice_completion {matching : Assignment n m}
    (isMatching : matching.IsMatching (Affordable cost threshold)) :
    ∑ r, exactPrice cost threshold r (completion matching.pairs r) =
      matching.exactTotal cost threshold :=
  sum_completion _ _ _ (isMatching.imp fun _ _ => affordable_iff.mp)

/-- The pairs of a least matching of the extended grid make a least matching under the threshold. -/
theorem exactTotal_le_of_least (low : threshold ≤ 1) (injective : Function.Injective columnOf)
    (least : ∀ other : Fin (n + m) → Fin (n + m), Function.Injective other →
      ∑ r, exactPrice cost threshold r (columnOf r) ≤ ∑ r, exactPrice cost threshold r (other r))
    {other : Assignment n m} (isMatching : other.IsMatching (Affordable cost threshold)) :
    (ofPairs (pairsOf cost (.finite threshold) columnOf)).exactTotal cost threshold ≤
      other.exactTotal cost threshold := by
  have rows := (List.nodup_finRange n).sublist
    (sublist_rows_pairsOf cost (.finite threshold) columnOf)
  have columns := nodup_columns_pairsOf cost (.finite threshold) injective
  have affordable (pair : Fin n × Fin m)
      (member : pair ∈ pairsOf cost (.finite threshold) columnOf) :
      Affordable cost threshold pair.1 pair.2 := affordable_of_least low injective least member
  have keeps (i : Fin n) (j : Fin m) : (i, j) ∈ pairsOf cost (.finite threshold) columnOf ↔
      realColumn? (columnOf (Fin.castAdd m i)) = some j ∧
        isAllowed (.finite threshold) (cost i j) = true := by
    constructor
    · intro member
      exact ⟨(mem_pairsOf_iff.mp member).1, affordable_iff.mp (affordable _ member)⟩
    · rintro ⟨found, allows⟩
      exact mem_pairsOf_iff.mpr ⟨found, of_decide_eq_true (Bool.and_eq_true _ _ ▸ allows).2⟩
  calc (ofPairs (pairsOf cost (.finite threshold) columnOf)).exactTotal cost threshold
      = ∑ r, exactPrice cost threshold r
          (completion (pairsOf cost (.finite threshold) columnOf) r) :=
        (sum_exactPrice_completion (isMatching_ofPairs rows columns affordable)).symm
    _ ≤ ∑ r, exactPrice cost threshold r (columnOf r) :=
        sum_completion_le _ injective (by linarith) rows columns keeps
    _ ≤ ∑ r, exactPrice cost threshold r (completion other.pairs r) :=
        least _ (completion_injective isMatching.nodup_rows isMatching.nodup_columns)
    _ = other.exactTotal cost threshold := sum_exactPrice_completion isMatching

end Exact

section Find

variable {cost : Fin n → Fin m → ExactNumber} {threshold : ℚ}
  {solve : AssignmentSolver ExactNumber}

theorem find_of_solved {α : Type} [Scalar α] {solve : AssignmentSolver α} {cost : Fin n → Fin m → α}
    {threshold : α} {columnOf : { columnOf : Fin (n + m) → Fin (n + m) // Function.Injective columnOf }}
    (both : ¬ (n = 0 ∨ m = 0)) (solved : solve (n + m) (extended cost threshold) = some columnOf) :
    find solve cost threshold = ofPairs (pairsOf cost threshold columnOf.val) := by
  rw [find, if_neg both, solved]

/-- What a solver that finds a least matching of the extended grid has found, in terms of the prices. -/
theorem exists_least_of_solves
    (solves : SolvesLeast solve (extended cost (.finite threshold))) :
    ∃ columnOf, solve (n + m) (extended cost (.finite threshold)) = some columnOf ∧
      ∀ other : Fin (n + m) → Fin (n + m), Function.Injective other →
        ∑ r, exactPrice cost threshold r (columnOf.val r) ≤
          ∑ r, exactPrice cost threshold r (other r) := by
  obtain ⟨columnOf, solved, least⟩ := solves
  refine ⟨columnOf, solved, fun other injective => ?_⟩
  have noMore := least other injective
  simpa only [extended_eq, ExactNumber.sum_finite, ExactNumber.finite_le_iff] using noMore

/-- Where a side is empty, each matching leaves everything alone. -/
theorem pairs_eq_nil (empty : n = 0 ∨ m = 0) (matching : Assignment n m) : matching.pairs = [] := by
  refine List.eq_nil_iff_forall_not_mem.mpr fun pair _ => ?_
  have row := pair.1.pos
  have column := pair.2.pos
  omega

theorem exactTotal_of_empty (empty : n = 0 ∨ m = 0) {matching : Assignment n m}
    (isMatching : matching.IsMatching (Affordable cost threshold)) :
    matching.exactTotal cost threshold = (n + m) * (threshold / 2) := by
  have none := pairs_eq_nil empty matching
  have rows := isMatching.length_freeRows
  have columns := isMatching.length_freeColumns
  rw [none, List.length_nil, Nat.zero_add] at rows columns
  rw [exactTotal, total, none, rows, columns, List.map_nil, List.sum_nil, zero_add]

theorem isMatching_find (low : threshold ≤ 1)
    (solves : 0 < n → 0 < m → SolvesLeast solve (extended cost (.finite threshold))) :
    (find solve cost (.finite threshold)).IsMatching (Affordable cost threshold) where
  rows := perm_rows_find solve cost _
  columns := perm_columns_find solve cost _
  allowed := by
    intro pair member
    by_cases empty : n = 0 ∨ m = 0
    · rw [pairs_eq_nil empty] at member
      exact absurd member List.not_mem_nil
    · obtain ⟨columnOf, solved, least⟩ := exists_least_of_solves (solves (by omega) (by omega))
      rw [find_of_solved empty solved] at member
      exact affordable_of_least low columnOf.property least member

/-- With exact costs and a threshold of at most one, a solver that finds a least matching of the
extended grid makes a least matching under the threshold: its pairs stand in the order of the rows, no
row and no column is in two of them, each has a finite cost up to the threshold, what is not matched
is listed as free, and no other such matching costs less, where each row and each column that is left
alone counts half the threshold. -/
theorem least_of_find (solve : AssignmentSolver ExactNumber) (cost : Fin n → Fin m → ExactNumber)
    (threshold : ℚ) (low : threshold ≤ 1)
    (solves : 0 < n → 0 < m → SolvesLeast solve (extended cost (.finite threshold))) :
    ((find solve cost (.finite threshold)).pairs.map Prod.fst).Pairwise (· < ·) ∧
      (find solve cost (.finite threshold)).IsMatching (Affordable cost threshold) ∧
      ∀ other : Assignment n m, other.IsMatching (Affordable cost threshold) →
        (find solve cost (.finite threshold)).exactTotal cost threshold ≤
          other.exactTotal cost threshold := by
  have found := isMatching_find low solves
  refine ⟨(List.pairwise_lt_finRange n).sublist (sublist_rows_find solve cost _), found,
    fun other isMatching => ?_⟩
  by_cases empty : n = 0 ∨ m = 0
  · rw [exactTotal_of_empty empty found, exactTotal_of_empty empty isMatching]
  · obtain ⟨columnOf, solved, least⟩ := exists_least_of_solves (solves (by omega) (by omega))
    rw [find_of_solved empty solved]
    exact exactTotal_le_of_least low columnOf.property least isMatching

/-! ### Two rows that both prefer the first column -/

/-- Both rows prefer the first column, and the last cost is below every threshold but no number. -/
def contested : Fin 2 → Fin 2 → ExactNumber
  | 0, 0 => .finite (1 / 10)
  | 0, 1 => .finite (1 / 5)
  | 1, 0 => .finite (3 / 20)
  | 1, 1 => .infinite true

def exactSolver : AssignmentSolver ExactNumber :=
  LeastAssignment.solver ⟨.infinite false, .finite (1 / 8388608)⟩

theorem solvesLeast_contested :
    SolvesLeast exactSolver (extended contested (.finite (1 / 2))) :=
  ⟨⟨![1, 0, 3, 2], by decide⟩, by decide +kernel, by decide +kernel⟩

theorem least_of_find_contested :
    (1 / 2 : ℚ) ≤ 1 ∧
      (0 < 2 → 0 < 2 → SolvesLeast exactSolver (extended contested (.finite (1 / 2)))) ∧
      (find exactSolver contested (.finite (1 / 2))).pairs = [(0, 1), (1, 0)] ∧
      ((find exactSolver contested (.finite (1 / 2))).pairs.map Prod.fst).Pairwise (· < ·) ∧
      (find exactSolver contested (.finite (1 / 2))).IsMatching (Affordable contested (1 / 2)) ∧
      ∀ other : Assignment 2 2, other.IsMatching (Affordable contested (1 / 2)) →
        (find exactSolver contested (.finite (1 / 2))).exactTotal contested (1 / 2) ≤
          other.exactTotal contested (1 / 2) :=
  ⟨by decide +kernel, fun _ _ => solvesLeast_contested, by decide +kernel,
    least_of_find exactSolver contested (1 / 2) (by decide +kernel) fun _ _ => solvesLeast_contested⟩

end Find

end Assignment

end ObjectQuery
