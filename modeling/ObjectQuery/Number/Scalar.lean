/-!
# Scalars

The operations that geometry, filtering and durations need from a number type. They run on `Float`
and `Float32`, and on an exact number type the same definitions are the formulas themselves.
-/

namespace ObjectQuery

/-- A number type with the operations of the arithmetic in this library. -/
class Scalar (α : Type) extends Add α, Sub α, Mul α, Div α, LT α, LE α where
  decideLt : DecidableLT α
  decideLe : DecidableLE α
  ofNat : Nat → α
  /-- `digits / 10 ^ places`. -/
  decimal : (digits places : Nat) → α
  sqrt : α → α
  isFinite : α → Bool
  /-- The largest natural number at most the scalar, zero if there is none. A floating type stops at
  the largest number of 64 bits. -/
  wholePart : α → Nat

namespace Scalar

attribute [reducible, instance] decideLt decideLe

variable {α : Type} [Scalar α]

def zero : α := ofNat 0
def one : α := ofNat 1
def two : α := ofNat 2

def positivePart (x : α) : α := if zero < x then x else zero

/-- The larger of two scalars. One that is not comparable to itself counts for nothing. -/
def larger (x y : α) : α := if y ≤ x then x else if y ≤ y then y else x

/-- The smaller of two scalars. One that is not comparable to itself counts for nothing. -/
def smaller (x y : α) : α := if x ≤ y then x else if y ≤ y then y else x

def sum : {n : Nat} → (Fin n → α) → α
  | 0, _ => zero
  | n + 1, f => sum (fun i : Fin n => f i.castSucc) + f (Fin.last n)

instance : Scalar Float where
  decideLt := inferInstance
  decideLe := inferInstance
  ofNat n := Float.ofNat n
  decimal digits places := Float.ofScientific digits true places
  sqrt := Float.sqrt
  isFinite := Float.isFinite
  wholePart x := x.toUInt64.toNat

instance : Scalar Float32 where
  decideLt := inferInstance
  decideLe := inferInstance
  ofNat n := Float32.ofNat n
  decimal digits places := Float32.ofScientific digits true places
  sqrt := Float32.sqrt
  isFinite := Float32.isFinite
  wholePart x := x.toUInt64.toNat

end Scalar

end ObjectQuery
