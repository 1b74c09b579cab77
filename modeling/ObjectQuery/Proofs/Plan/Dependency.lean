import Mathlib.Data.List.Induction
import Mathlib.Data.List.Nodup
import Mathlib.Data.List.Perm.Basic
import ObjectQuery.Plan.Dependency

/-!
# Placing dependent properties

`Supported` is the declarative side of placing nodes: each node comes after all it needs. What is placed
is supported, nothing is placed twice and nothing is lost; so in an order none of the properties reads
one that comes later.
-/

namespace ObjectQuery

/-- Whether a property may be computed before another one. -/
def Property.Precedes (earlier later : Property) : Prop :=
  earlier.name ≠ later.name ∧
    ∀ dependency ∈ earlier.dependencies, dependency.name ≠ later.name

/-- What holds of a property if it holds of those that it reads holds of all properties in an order. -/
theorem Property.induction_of_ordered
    {properties : List Property} (ordered : properties.Pairwise Property.Precedes)
    {holds : Property → Prop}
    (step : ∀ property ∈ properties,
      (∀ other ∈ properties, ∀ dependency ∈ property.dependencies,
        dependency.name = other.name → other.name ≠ property.name → holds other) →
      holds property) :
    ∀ property ∈ properties, holds property := by
  induction properties using List.reverseRecOn with
  | nil => exact fun property member => absurd member List.not_mem_nil
  | append_singleton earlier last inductionHypothesis =>
      obtain ⟨orderedEarlier, _, apart⟩ := List.pairwise_append.mp ordered
      have early := inductionHypothesis orderedEarlier fun property member reads => by
        refine step property (List.mem_append_left _ member) fun other otherMember dependency
          listed named different => ?_
        rcases List.mem_append.mp otherMember with inEarlier | here
        · exact reads other inEarlier dependency listed named different
        · have precedes := apart property member other here
          exact absurd named (precedes.2 dependency listed)
      intro property member
      rcases List.mem_append.mp member with inEarlier | here
      · exact early property inEarlier
      · obtain rfl := List.mem_singleton.mp here
        refine step property member fun other otherMember dependency listed named different => ?_
        rcases List.mem_append.mp otherMember with inEarlier | same
        · exact early other inEarlier
        · exact absurd (congrArg Property.name (List.mem_singleton.mp same)) different

namespace DependencyGraph

/-- After some positions, nodes in a row each of which comes after what it needs. -/
def Supported : List Nat → List DependencyNode → Prop
  | _, [] => True
  | placed, node :: rest =>
    (∀ need ∈ node.needs, need ∈ placed) ∧ Supported (placed ++ [node.position]) rest

theorem takeFirst?_eq_some {α : Type} {p : α → Bool} {items others : List α} {found : α}
    (taken : takeFirst? p items = some (found, others)) :
    p found = true ∧ (found :: others).Perm items := by
  induction items generalizing others with
  | nil => exact absurd taken (by simp [takeFirst?])
  | cons item rest inductionHypothesis =>
      unfold takeFirst? at taken
      split at taken
      · rename_i holds
        obtain ⟨rfl, rfl⟩ := Prod.mk.inj (Option.some.inj taken)
        exact ⟨holds, List.Perm.refl _⟩
      · obtain ⟨⟨first, left⟩, inner, pair⟩ := Option.map_eq_some_iff.mp taken
        obtain ⟨rfl, rfl⟩ := Prod.mk.inj pair
        obtain ⟨holds, perm⟩ := inductionHypothesis inner
        exact ⟨holds, (List.Perm.swap item first left).trans (perm.cons item)⟩

theorem place_of_stuck
    {placed pending : List DependencyNode}
    (stuck : takeFirst? (isReady (placed.map DependencyNode.position)) pending = none) :
    place placed pending = (placed, pending) := by
  rw [place]
  split
  · rfl
  · rename_i found
    exact absurd (stuck.symm.trans found) (by simp)

theorem place_of_ready
    {placed pending others : List DependencyNode} {node : DependencyNode}
    (found : takeFirst? (isReady (placed.map DependencyNode.position)) pending =
      some (node, others)) :
    place placed pending = place (placed ++ [node]) others := by
  rw [place]
  split
  · rename_i stuck
    exact absurd (found.symm.trans stuck) (by simp)
  · rename_i taken
    obtain ⟨rfl, rfl⟩ := Prod.mk.inj (Option.some.inj (taken.symm.trans found))
    rfl

/-- Placing adds supported nodes, and every node is placed or left. -/
theorem place_eq (placed pending : List DependencyNode) :
    ∃ added, (place placed pending).1 = placed ++ added ∧
      (added ++ (place placed pending).2).Perm pending ∧
        Supported (placed.map DependencyNode.position) added := by
  induction placed, pending using place.induct with
  | case1 placed pending stuck =>
      refine ⟨[], ?_, ?_, trivial⟩
      · rw [place_of_stuck stuck, List.append_nil]
      · rw [place_of_stuck stuck]
        exact List.Perm.refl _
  | case2 placed pending node others found shorter inductionHypothesis =>
      obtain ⟨added, placedEq, perm, supported⟩ := inductionHypothesis
      obtain ⟨ready, taken⟩ := takeFirst?_eq_some found
      refine ⟨node :: added, ?_, ?_, ?_, ?_⟩
      · rw [place_of_ready found, placedEq, List.append_assoc]
        rfl
      · rw [place_of_ready found]
        exact (perm.cons node).trans taken
      · intro need member
        exact List.contains_iff_mem.mp (List.all_eq_true.mp ready need member)
      · rw [List.map_append] at supported
        exact supported

/-- A supported node needs none that comes later. -/
theorem pairwise_of_supported
    {placed : List Nat} {nodes : List DependencyNode} (supported : Supported placed nodes)
    (distinct : (placed ++ nodes.map DependencyNode.position).Nodup) :
    nodes.Pairwise fun earlier later => later.position ∉ earlier.needs := by
  induction nodes generalizing placed with
  | nil => exact List.Pairwise.nil
  | cons node rest inductionHypothesis =>
      obtain ⟨ready, supported⟩ := supported
      refine List.pairwise_cons.mpr ⟨fun later member needed => ?_, inductionHypothesis supported ?_⟩
      · have here := ready later.position needed
        obtain ⟨_, _, apart⟩ := List.nodup_append.mp distinct
        exact apart later.position here later.position
          (List.mem_cons_of_mem _ (List.mem_map_of_mem member)) rfl
      · rw [List.append_assoc]
        exact distinct

/-! ## The graph over properties -/

theorem positionOf?_eq_some
    {names : List String} (distinct : names.Nodup) {position : Nat} {name : String}
    (here : names[position]? = some name) :
    positionOf? names name = some position := by
  unfold positionOf?
  have member : (name, position) ∈ names.zipIdx.reverse :=
    List.mem_reverse.mpr (List.mem_zipIdx_iff_getElem?.mpr (by simpa using here))
  cases found : names.zipIdx.reverse.find? fun entry => entry.1 = name with
  | none => exact absurd (by simp) (List.find?_eq_none.mp found (name, position) member)
  | some entry =>
      obtain ⟨other, place⟩ := entry
      have named : decide (other = name) = true := List.find?_some
        (p := fun entry : String × Nat => decide (entry.1 = name)) found
      have there : names[place]? = some other := by
        simpa using List.mem_zipIdx_iff_getElem?.mp
          (List.mem_reverse.mp (List.mem_of_find?_eq_some found))
      rw [of_decide_eq_true named] at there
      have room : position < names.length := (List.getElem?_eq_some_iff.mp here).1
      rw [Option.map_some, (List.getElem?_inj room distinct).mp (here.trans there.symm)]

/-- A node stands for a property of the list. -/
theorem node_of_mem
    {properties : List Property} {node : DependencyNode}
    (member : node ∈ (ofProperties properties).nodes) :
    ∃ property, properties[node.position]? = some property ∧ node.name = property.name ∧
      node.needs = needsOf (properties.map Property.name) property := by
  obtain ⟨⟨property, position⟩, entry, rfl⟩ := List.mem_map.mp member
  exact ⟨property, by simpa using List.mem_zipIdx_iff_getElem?.mp entry, rfl, rfl⟩

theorem positions_nodes (properties : List Property) :
    (ofProperties properties).nodes.map DependencyNode.position =
      List.range' 0 properties.length := by
  have positions : (ofProperties properties).nodes.map DependencyNode.position =
      properties.zipIdx.map Prod.snd := by
    unfold ofProperties
    rw [List.map_map]
    rfl
  rw [positions, List.zipIdx_map_snd]

theorem names_nodes (properties : List Property) :
    (ofProperties properties).nodes.map DependencyNode.name = properties.map Property.name := by
  unfold ofProperties
  rw [List.map_map]
  have names : (DependencyNode.name ∘ fun (entry : Property × Nat) =>
      (⟨entry.2, entry.1.name, needsOf (properties.map Property.name) entry.1⟩ :
        DependencyNode)) = Property.name ∘ Prod.fst := rfl
  refine Eq.trans (congrArg (fun f => properties.zipIdx.map f) names) ?_
  rw [← List.map_map, List.zipIdx_map_fst]

theorem place_of_order
    {graph : DependencyGraph} {names : List String} (ordered : graph.order = .ok names) :
    ∃ placed, names = placed.map DependencyNode.name ∧ placed.Perm graph.nodes ∧
      Supported [] placed := by
  obtain ⟨added, placedEq, perm, supported⟩ := place_eq [] graph.nodes
  rw [List.nil_append] at placedEq
  unfold order at ordered
  split at ordered
  · rename_i placed done
    rw [done] at placedEq perm
    rw [List.append_nil] at perm
    exact ⟨added, by rw [← placedEq]; exact (Except.ok.inj ordered).symm, perm, supported⟩
  · exact absurd ordered (by simp)

theorem precedes_of_nodes
    {properties : List Property} (distinct : (properties.map Property.name).Nodup)
    {earlier later : DependencyNode} (earlierNode : earlier ∈ (ofProperties properties).nodes)
    (apart : earlier.position ≠ later.position) (unneeded : later.position ∉ earlier.needs)
    {first second : Property} (firstFound : properties[earlier.position]? = some first)
    (secondFound : properties[later.position]? = some second) :
    first.Precedes second := by
  obtain ⟨_, firstHere, _, needs⟩ := node_of_mem earlierNode
  obtain rfl := Option.some.inj (firstFound.symm.trans firstHere)
  have firstName : (properties.map Property.name)[earlier.position]? = some first.name := by
    rw [List.getElem?_map, firstFound, Option.map_some]
  have secondName : (properties.map Property.name)[later.position]? = some second.name := by
    rw [List.getElem?_map, secondFound, Option.map_some]
  have named : first.name ≠ second.name := by
    intro same
    have room : earlier.position < (properties.map Property.name).length :=
      (List.getElem?_eq_some_iff.mp firstName).1
    rw [same] at firstName
    exact apart ((List.getElem?_inj room distinct).mp (firstName.trans secondName.symm))
  refine ⟨named, fun dependency member same => unneeded ?_⟩
  rw [needs]
  refine List.mem_filterMap.mpr ⟨dependency, List.mem_filter.mpr ⟨member, ?_⟩, ?_⟩
  · exact decide_eq_true (same ▸ named.symm)
  · rw [same]
    exact positionOf?_eq_some distinct secondName

/-- Properties of different names in an order: all of them, none reading a later one. -/
theorem order_eq_ok
    {properties : List Property} (distinct : (properties.map Property.name).Nodup)
    {names : List String} (ordered : (ofProperties properties).order = .ok names)
    (lookUp : String → Option Property)
    (finds : ∀ property ∈ properties, lookUp property.name = some property) :
    (names.filterMap lookUp).Pairwise Property.Precedes ∧
      (names.filterMap lookUp).Perm properties := by
  obtain ⟨placed, rfl, perm, supported⟩ := place_of_order ordered
  have once : (placed.map DependencyNode.position).Nodup := by
    rw [(perm.map DependencyNode.position).nodup_iff, positions_nodes]
    exact List.nodup_range'
  have found : ∀ node ∈ placed, ∃ property, properties[node.position]? = some property ∧
      lookUp node.name = some property := by
    intro node member
    obtain ⟨property, here, named, _⟩ := node_of_mem (perm.subset member)
    exact ⟨property, here, by rw [named]; exact finds property (List.mem_of_getElem? here)⟩
  constructor
  · rw [List.filterMap_map, List.pairwise_filterMap]
    have unneeded := pairwise_of_supported supported (by simpa using once)
    refine (unneeded.and (List.pairwise_map.mp once)).imp_of_mem ?_
    intro earlier later earlierMember laterMember apart first firstFound second secondFound
    obtain ⟨_, firstHere, firstEq⟩ := found earlier earlierMember
    obtain ⟨_, secondHere, secondEq⟩ := found later laterMember
    obtain rfl := Option.some.inj (firstFound.symm.trans firstEq)
    obtain rfl := Option.some.inj (secondFound.symm.trans secondEq)
    exact precedes_of_nodes distinct (perm.subset earlierMember) apart.2 apart.1 firstHere
      secondHere
  · have names := (perm.map DependencyNode.name).filterMap lookUp
    rw [names_nodes] at names
    refine names.trans (List.Perm.of_eq ?_)
    rw [List.filterMap_map]
    have all : ∀ items ⊆ properties, items.filterMap (lookUp ∘ Property.name) = items := by
      intro items inside
      induction items with
      | nil => rfl
      | cons item rest inductionHypothesis =>
          rw [List.filterMap_cons, Function.comp_apply, finds item (inside List.mem_cons_self)]
          exact congrArg (item :: ·) (inductionHypothesis fun other member =>
            inside (List.mem_cons_of_mem item member))
    exact all properties (List.Subset.refl properties)

end DependencyGraph

end ObjectQuery
