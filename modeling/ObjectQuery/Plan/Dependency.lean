import ObjectQuery.Error
import ObjectQuery.Property.Basic
/-!
# The order of dependent properties

A graph over a list of properties: each needs the members of the list that it depends on, itself left
out. Ordering places one property after the other, always the earliest of those whose needs are all
placed. What can never be placed lies on a cycle or depends on one.
-/

namespace ObjectQuery

/-- A property among others, with the positions of those it needs. -/
structure DependencyNode where
  position : Nat
  name : String
  needs : List Nat
deriving DecidableEq, Repr

/-- The needs of a list of properties, in the order of the list. -/
structure DependencyGraph where
  nodes : List DependencyNode
  /-- The names that depend on themselves. -/
  selfDependent : List String

namespace DependencyGraph

/-! ## Building -/

/-- The last position that bears a name. -/
def positionOf? (names : List String) (name : String) : Option Nat :=
  (names.zipIdx.reverse.find? fun entry => entry.1 = name).map Prod.snd

/-- The positions that a property needs: those of the names it depends on, its own left out. -/
def needsOf (names : List String) (property : Property) : List Nat :=
  (property.dependencies.filter fun dependency => dependency.name ≠ property.name).filterMap
    fun dependency => positionOf? names dependency.name

/-- The graph over a list of properties. -/
def ofProperties (properties : List Property) : DependencyGraph :=
  let names := properties.map Property.name
  { nodes := properties.zipIdx.map fun (property, position) =>
      ⟨position, property.name, needsOf names property⟩
    selfDependent :=
      (properties.filter Property.isSelfDependent).map Property.name }

/-! ## Ordering -/

/-- Whether all needs of a node are among the placed positions. -/
def isReady (placed : List Nat) (node : DependencyNode) : Bool :=
  node.needs.all fun need => placed.contains need

/-- The first member of a list with a property, and the list without it. -/
def takeFirst? {α : Type} (p : α → Bool) : List α → Option (α × List α)
  | [] => none
  | a :: rest =>
    if p a then some (a, rest)
    else (takeFirst? p rest).map fun (found, others) => (found, a :: others)

theorem length_of_takeFirst? {α : Type} {p : α → Bool} {items others : List α} {found : α}
    (taken : takeFirst? p items = some (found, others)) : others.length + 1 = items.length := by
  induction items generalizing others with
  | nil => simp [takeFirst?] at taken
  | cons a rest ih =>
    unfold takeFirst? at taken
    split at taken
    · obtain ⟨_, rfl⟩ := Prod.mk.inj (Option.some.inj taken)
      rfl
    · obtain ⟨⟨f, o⟩, inner, pair⟩ := Option.map_eq_some_iff.mp taken
      obtain ⟨rfl, rfl⟩ := Prod.mk.inj pair
      simp [ih inner]

/-- Place nodes until none is ready: those placed in order, and those left over. -/
def place (placed : List DependencyNode) (pending : List DependencyNode) :
    List DependencyNode × List DependencyNode :=
  match found : takeFirst? (isReady (placed.map DependencyNode.position)) pending with
  | none => (placed, pending)
  | some (node, others) =>
    have : others.length < pending.length := by
      have := length_of_takeFirst? found
      omega
    place (placed ++ [node]) others
termination_by pending.length

/-- The names so ordered that each comes after those it needs. -/
def order (graph : DependencyGraph) : Except PlanError (List String) :=
  match place [] graph.nodes with
  | (placed, []) => .ok (placed.map DependencyNode.name)
  | (_, left) => .error (.cycle (left.map DependencyNode.name))

end DependencyGraph

end ObjectQuery
