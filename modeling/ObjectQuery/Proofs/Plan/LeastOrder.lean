import Mathlib.Data.List.Permutation
import Mathlib.Data.List.Perm.Subperm
import ObjectQuery.Proofs.Plan.Cycle

/-!
# The order of properties, told from what they read

Properties of different names are put in an order exactly if none of them reads itself by way of others,
and of all orders in which nothing is read before it is computed theirs is the first, by the places at
which the properties were declared. What is left over otherwise are exactly the properties that lie on a
cycle or read, by way of others, one that does.
-/

namespace ObjectQuery

open Relation

namespace Property

variable {properties : List Property} {name other : String} {names : List String}

/-! ## Orders -/

end Property

namespace DependencyGraph

variable {properties : List Property} {placed pending : List DependencyNode} {node : DependencyNode}

/-! ## What is placed and what is left -/

namespace Roundabout

def reading (name : String) (names : List String) : Property :=
  .declare name (names.map fun name => ⟨name, 0⟩) fun _ => .null

/-- The first three read each other, and the last one reads the first. -/
def ring : List Property :=
  [reading "east" ["north", "tlbr"], reading "north" ["west"], reading "west" ["east"],
    reading "still" ["still"], reading "near" ["east", "still"]]

/-- Two names that are ready together, and one that was declared before what it reads. -/
def line : List Property :=
  [reading "speed" ["center", "fps"], reading "color" [], reading "center" ["tlbr"],
    reading "fast" ["speed"]]

end Roundabout

end DependencyGraph

end ObjectQuery
