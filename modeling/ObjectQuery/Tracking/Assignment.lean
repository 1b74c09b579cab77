import ObjectQuery.Number.Scalar
/-!
# Assignments

Rows and columns are matched one to one at the least total cost, where a pair above a threshold is
never matched and leaving a row or a column alone costs half the threshold. The problem is solved on
a square grid extended by partners that stand for being left alone; how that grid is solved is a
parameter, of which only is asked that it gives different rows different columns.
-/

namespace ObjectQuery

open Scalar

/-- For every square grid of costs a column for each row, no column twice, or no answer. -/
abbrev AssignmentSolver (α : Type) :=
  (size : Nat) → (Fin size → Fin size → α) →
    Option { columnOf : Fin size → Fin size // Function.Injective columnOf }

/-- A matching of `n` rows with `m` columns. -/
structure Assignment (n m : Nat) where
  /-- In the order of the rows. -/
  pairs : List (Fin n × Fin m)
  freeRows : List (Fin n)
  freeColumns : List (Fin m)

namespace Assignment

variable {α : Type} [Scalar α] {n m : Nat}

/-- The cost of pairs that must not be matched. -/
def forbidden : α := ofNat 1000000

def isAllowed (threshold cost : α) : Bool := isFinite cost && decide (cost ≤ threshold)

/-- The costs with a partner for every row and column that stands for being left alone. -/
def extended (cost : Fin n → Fin m → α) (threshold : α) (i j : Fin (n + m)) : α :=
  if row : i.val < n then
    if column : j.val < m then
      let c := cost ⟨i.val, row⟩ ⟨j.val, column⟩
      if isAllowed threshold c then c else forbidden
    else threshold / two
  else if j.val < m then threshold / two
  else zero

def unmatched : Assignment n m := ⟨[], List.finRange n, List.finRange m⟩

/-- The pairs of an answer that lie in the grid and not above the threshold. -/
def pairsOf (cost : Fin n → Fin m → α) (threshold : α) (columnOf : Fin (n + m) → Fin (n + m)) :
    List (Fin n × Fin m) :=
  (List.finRange n).filterMap fun i =>
    let j := columnOf (i.castAdd m)
    if column : j.val < m then
      if cost i ⟨j.val, column⟩ ≤ threshold then some (i, ⟨j.val, column⟩) else none
    else none

/-- The matching of pairs, with the rows and columns that are left. -/
def ofPairs (pairs : List (Fin n × Fin m)) : Assignment n m where
  pairs := pairs
  freeRows := (List.finRange n).filter fun i => !(pairs.map Prod.fst).contains i
  freeColumns := (List.finRange m).filter fun j => !(pairs.map Prod.snd).contains j

/-- The matching under a threshold. Nothing is matched where a side is empty or the solver has no
answer. -/
def find (solve : AssignmentSolver α) (cost : Fin n → Fin m → α) (threshold : α) : Assignment n m :=
  if n = 0 ∨ m = 0 then unmatched
  else match solve (n + m) (extended cost threshold) with
    | some columnOf => ofPairs (pairsOf cost threshold columnOf.val)
    | none => unmatched

end Assignment

/-! ## Matching the members of two lists -/

/-- The members of two lists that belong together, and those that are left. -/
structure Pairing (ρ κ : Type) where
  matched : List (ρ × κ)
  leftRows : List ρ
  leftColumns : List κ

def Pairing.mapRows {ρ π κ : Type} (rename : ρ → π) (pairing : Pairing ρ κ) : Pairing π κ where
  matched := pairing.matched.map fun (row, column) => (rename row, column)
  leftRows := pairing.leftRows.map rename
  leftColumns := pairing.leftColumns

/-- Match the members of two lists by a cost. -/
def Pairing.find {α ρ κ : Type} [Scalar α] (solve : AssignmentSolver α) (cost : ρ → κ → α)
    (threshold : α) (rows : List ρ) (columns : List κ) : Pairing ρ κ :=
  let found := Assignment.find (n := rows.length) (m := columns.length) solve
    (fun i j => cost (rows.get i) (columns.get j)) threshold
  { matched := found.pairs.map fun (i, j) => (rows.get i, columns.get j)
    leftRows := found.freeRows.map rows.get
    leftColumns := found.freeColumns.map columns.get }

end ObjectQuery
