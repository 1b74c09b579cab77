import ObjectQuery.Number.Scalar
/-!
# Grids of scalars

Rectangular arrangements of scalars with the operations that a linear filter needs: products, sums,
transposition, and the solution of a positive definite system by elimination with square roots.
-/

namespace ObjectQuery

open Scalar

abbrev Column (n : Nat) (α : Type) := Vector α n

abbrev Grid (m n : Nat) (α : Type) := Vector (Vector α n) m

namespace Grid

variable {α : Type} {k l m n : Nat}

def ofEntries (entry : Fin m → Fin n → α) : Grid m n α :=
  Vector.ofFn fun i => Vector.ofFn fun j => entry i j

def entry (grid : Grid m n α) (i : Fin m) (j : Fin n) : α := (grid.get i).get j

def transpose (grid : Grid m n α) : Grid n m α := ofEntries fun i j => grid.entry j i

variable [Scalar α]

/-- Entries on the diagonal, zero elsewhere. -/
def diagonal (entries : Fin n → α) : Grid n n α :=
  ofEntries fun i j => if i = j then entries i else zero

def add (a b : Grid m n α) : Grid m n α := ofEntries fun i j => a.entry i j + b.entry i j

def sub (a b : Grid m n α) : Grid m n α := ofEntries fun i j => a.entry i j - b.entry i j

def mul (a : Grid l m α) (b : Grid m n α) : Grid l n α :=
  ofEntries fun i j => sum fun k => a.entry i k * b.entry k j

def apply (a : Grid m n α) (x : Column n α) : Column m α :=
  Vector.ofFn fun i => sum fun k => a.entry i k * x.get k

end Grid

/-- The solution of a system with a symmetric positive definite grid, none if it is not positive
definite. Each step divides twice by the square root of the leading entry and goes on with what is
left of the other rows and columns. -/
def solvePositive? {α : Type} [Scalar α] :
    {n : Nat} → (Fin n → Fin n → α) → (Fin n → α) → Option (Fin n → α)
  | 0, _, _ => some Fin.elim0
  | n + 1, entry, right =>
    if zero < entry 0 0 then
      let root := sqrt (entry 0 0)
      let column (i : Fin n) : α := entry i.succ 0 / root
      let first := right 0 / root
      match solvePositive? (fun i j => entry i.succ j.succ - column i * column j)
          (fun i => right i.succ - column i * first) with
      | some rest => some (Fin.cases ((first - sum fun i => column i * rest i) / root) rest)
      | none => none
    else none

end ObjectQuery
