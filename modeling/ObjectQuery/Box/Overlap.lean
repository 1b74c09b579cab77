import ObjectQuery.Box
import ObjectQuery.Number.Scalar
/-!
# How far boxes overlap

The share of two boxes that they have in common, the distance it gives, and that distance weighed by
the confidence of a detection, for one pair and for all pairs of rows and columns. Boxes with sides of no
or negative length have no area and share none.
-/

namespace ObjectQuery.Box

open Scalar

variable {α : Type} [Scalar α]

/-- Keeps the share of two boxes without area defined. -/
def shareOffset : α := decimal 1 7

/-- The area, zero if a side is not positive. -/
def area (box : Box α) : α :=
  positivePart (box.right - box.left) * positivePart (box.bottom - box.top)

def commonArea (a b : Box α) : α :=
  positivePart (smaller a.right b.right - larger a.left b.left) *
    positivePart (smaller a.bottom b.bottom - larger a.top b.top)

/-- The common area as a share of the area that the boxes cover together. -/
def overlap (a b : Box α) : α :=
  commonArea a b / (area a + area b - commonArea a b + shareOffset)

def distance (a b : Box α) : α := one - overlap a b

/-- A distance weighed by the confidence of a detection: the less confident, the further. -/
def weighed (distance score : α) : α := one - (one - distance) * score

/-! ## Costs of pairs -/

variable {n m : Nat}

/-- How far the boxes of rows are from those of columns. -/
def distances (rows : Fin n → Box α) (columns : Fin m → Box α) (i : Fin n) (j : Fin m) : α :=
  distance (rows i) (columns j)

/-- Costs weighed by the scores of their columns. A column without a score has one of zero. -/
def weighedBy (costs : Fin n → Fin m → α) (scores : List α) (i : Fin n) (j : Fin m) : α :=
  weighed (costs i j) (scores.getD j zero)

/-! ## Centre, aspect and height -/

/-- Centre, ratio of width to height, and height. -/
structure Outline (α : Type) where
  centreX : α
  centreY : α
  aspect : α
  height : α
deriving Inhabited

/-- A box by its centre, aspect and height. -/
def outline (box : Box α) : Outline α :=
  let width := box.right - box.left
  let height := box.bottom - box.top
  ⟨box.left + width / two, box.top + height / two, width / height, height⟩

def ofOutline (outline : Outline α) : Box α :=
  let width := outline.aspect * outline.height
  ⟨outline.centreX - width / two, outline.centreY - outline.height / two,
    outline.centreX + width / two, outline.centreY + outline.height / two⟩

end ObjectQuery.Box
