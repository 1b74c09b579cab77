import ObjectQuery.Box.Overlap
/-!
# Duplicates

Two lists of boxes with lifetimes are cleared of pairs that are closer than a distance: of such a
pair the one with the shorter life goes, and between equals the one of the first list.
-/

namespace ObjectQuery

variable {α : Type} [Scalar α]

/-- A box and for how long it has been followed. -/
structure Lifespan (α : Type) where
  box : Box α
  lifetime : Nat

namespace Lifespan

def isClose (maxDistance : α) (a b : Lifespan α) : Bool :=
  decide (Box.distance a.box b.box < maxDistance)

/-- Whether an entry of the first list goes in favour of one of the second. -/
def yields (maxDistance : α) (a b : Lifespan α) : Bool :=
  isClose maxDistance a b && decide (a.lifetime ≤ b.lifetime)

/-- Whether an entry of the second list goes in favour of one of the first. -/
def isOutlived (maxDistance : α) (a b : Lifespan α) : Bool :=
  isClose maxDistance a b && decide (b.lifetime < a.lifetime)

/-- For each entry of two lists whether it is kept. -/
def deduplicate (first second : List (Lifespan α)) (maxDistance : α) : List Bool × List Bool :=
  (first.map fun a => !second.any fun b => yields maxDistance a b,
    second.map fun b => !first.any fun a => isOutlived maxDistance a b)

end Lifespan

end ObjectQuery
