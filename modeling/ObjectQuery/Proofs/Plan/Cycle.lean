import Mathlib.Data.Fintype.EquivFin
import Mathlib.Data.Set.Finite.List
import Mathlib.Logic.Relation
import Mathlib.Order.WellFounded
import ObjectQuery.Proofs.Plan.Dependency

/-!
# Cycles among properties

Properties can be put in an order exactly if none of them reads itself by way of others. What stands in
an order has no cycle (`acyclic_of_ordered`). Where ordering fails, every property that is left reads
another one that is left, and among finitely many properties that is a cycle (`exists_order`).
-/

namespace ObjectQuery

open Relation

namespace Property

/-- Among some properties one of a name reads another name. -/
def Reads (properties : List Property) (name other : String) : Prop :=
  ∃ property ∈ properties, property.name = name ∧
    ∃ dependency ∈ property.dependencies, dependency.name = other

/-- Among some properties one of a name reads a name that is not its own. -/
def ReadsOther (properties : List Property) (name other : String) : Prop :=
  Reads properties name other ∧ other ≠ name

/-- No property reads itself by way of others. -/
def Acyclic (properties : List Property) : Prop :=
  ∀ name, ¬ TransGen (ReadsOther properties) name name

theorem ReadsOther.mem
    {properties : List Property} {name other : String} (reads : ReadsOther properties name other) :
    name ∈ properties.map Property.name := by
  obtain ⟨⟨property, member, rfl, _⟩, _⟩ := reads
  exact List.mem_map_of_mem member

theorem ReadsOther.mono
    {properties others : List Property} (inside : properties ⊆ others) {name other : String}
    (reads : ReadsOther properties name other) :
    ReadsOther others name other := by
  obtain ⟨⟨property, member, named, listed⟩, apart⟩ := reads
  exact ⟨⟨property, inside member, named, listed⟩, apart⟩

/-- A name under which nothing is declared reads nothing. -/
theorem acc_of_not_mem
    {properties : List Property} {name : String} (absent : name ∉ properties.map Property.name) :
    Acc (Function.swap (ReadsOther properties)) name := by
  apply Acc.intro
  intro other reads
  exact absurd (ReadsOther.mem reads) absent

theorem wellFounded_of_declared
    {properties : List Property}
    (declared : ∀ name ∈ properties.map Property.name,
      Acc (Function.swap (ReadsOther properties)) name) :
    WellFounded (Function.swap (ReadsOther properties)) := by
  apply WellFounded.intro
  intro name
  by_cases known : name ∈ properties.map Property.name
  · exact declared name known
  · exact acc_of_not_mem known

/-- Where reading other names comes to an end, it does not go round. -/
theorem acyclic_of_wellFounded
    {properties : List Property} (ends : WellFounded (Function.swap (ReadsOther properties))) :
    Acyclic properties := by
  intro name cycle
  exact ends.transGen.irrefl.irrefl name (transGen_swap.mpr cycle)

/-- Among finitely many properties reading comes to an end unless it goes round. -/
theorem wellFounded_of_acyclic {properties : List Property} (acyclic : Acyclic properties) :
    WellFounded (Function.swap (ReadsOther properties)) := by
  let Declared := {name // name ∈ properties.map Property.name}
  let behind (other name : Declared) : Prop := TransGen (ReadsOther properties) name.1 other.1
  have finite : Finite Declared := (properties.map Property.name).finite_toSet
  have transitive : IsTrans Declared behind := ⟨fun _ _ _ first second => second.trans first⟩
  have irreflexive : Std.Irrefl behind := ⟨fun name cycle => acyclic name.1 cycle⟩
  have founded : WellFounded behind := Finite.wellFounded_of_trans_of_irrefl behind
  have declared : ∀ name : Declared, Acc (Function.swap (ReadsOther properties)) name.1 := by
    intro name
    induction name using founded.induction with
    | _ name inductionHypothesis =>
        apply Acc.intro
        intro other reads
        by_cases known : other ∈ properties.map Property.name
        · exact inductionHypothesis ⟨other, known⟩ (TransGen.single reads)
        · exact acc_of_not_mem known
  apply wellFounded_of_declared
  intro name known
  exact declared ⟨name, known⟩

/-- In an order what a property reads stands at an earlier place. -/
theorem exists_earlier_of_ordered
    {properties : List Property} (ordered : properties.Pairwise Property.Precedes) {place : Nat}
    {property other : Property} (here : properties[place]? = some property)
    {dependency : Dependency} (listed : dependency ∈ property.dependencies)
    (apart : dependency.name ≠ property.name) (member : other ∈ properties)
    (named : other.name = dependency.name) :
    ∃ earlier < place, properties[earlier]? = some other := by
  obtain ⟨earlier, there⟩ := List.mem_iff_getElem?.mp member
  refine ⟨earlier, ?_, there⟩
  obtain ⟨room, hereEq⟩ := List.getElem?_eq_some_iff.mp here
  obtain ⟨otherRoom, thereEq⟩ := List.getElem?_eq_some_iff.mp there
  -- neither the place itself nor a later one can hold what is read there
  apply Nat.lt_of_not_le
  intro late
  rcases Nat.eq_or_lt_of_le late with same | later
  · subst same
    rw [hereEq] at thereEq
    exact apart (thereEq ▸ named.symm)
  · have precedes := List.pairwise_iff_getElem.mp ordered place earlier room otherRoom later
    rw [hereEq, thereEq] at precedes
    exact precedes.2 dependency listed named.symm

/-- Properties in an order read nothing in a circle. -/
theorem acyclic_of_ordered
    {properties : List Property} (ordered : properties.Pairwise Property.Precedes) :
    Acyclic properties := by
  have distinct : (properties.map Property.name).Nodup :=
    List.pairwise_map.mpr (ordered.imp And.left)
  have ends : ∀ property ∈ properties,
      Acc (Function.swap (ReadsOther properties)) property.name := by
    refine Property.induction_of_ordered ordered fun property member inner => ?_
    apply Acc.intro
    rintro name ⟨⟨found, foundMember, named, dependency, listed, rfl⟩, apart⟩
    obtain rfl := List.inj_on_of_nodup_map distinct foundMember member named
    by_cases known : dependency.name ∈ properties.map Property.name
    · obtain ⟨other, otherMember, same⟩ := List.mem_map.mp known
      rw [← same]
      exact inner other otherMember dependency listed same.symm (same ▸ apart)
    · exact acc_of_not_mem known
  apply acyclic_of_wellFounded
  apply wellFounded_of_declared
  intro name known
  obtain ⟨property, member, rfl⟩ := List.mem_map.mp known
  exact ends property member

end Property

namespace DependencyGraph

/-! ## What is left over -/

theorem takeFirst?_eq_none {α : Type} {p : α → Bool} {items : List α}
    (none : takeFirst? p items = none) :
    ∀ item ∈ items, p item = false := by
  induction items with
  | nil =>
      intro item member
      exact absurd member List.not_mem_nil
  | cons first rest inductionHypothesis =>
      unfold takeFirst? at none
      split at none
      · exact absurd none (by simp)
      · rename_i refused
        intro item member
        rcases List.mem_cons.mp member with rfl | later
        · exact Bool.eq_false_of_not_eq_true refused
        · exact inductionHypothesis (Option.map_eq_none_iff.mp none) item later

/-- No node that is left over is ready. -/
theorem isReady_of_left (placed pending : List DependencyNode) :
    ∀ node ∈ (place placed pending).2,
      isReady ((place placed pending).1.map DependencyNode.position) node = false := by
  induction placed, pending using place.induct with
  | case1 placed pending stuck =>
      rw [place_of_stuck stuck]
      exact takeFirst?_eq_none stuck
  | case2 placed pending node others found shorter inductionHypothesis =>
      rw [place_of_ready found]
      exact inductionHypothesis

theorem getElem?_of_positionOf?
    {names : List String} {name : String} {position : Nat}
    (found : positionOf? names name = some position) :
    names[position]? = some name := by
  obtain ⟨⟨other, place⟩, entry, rfl⟩ := Option.map_eq_some_iff.mp found
  have named : decide (other = name) = true := List.find?_some
    (p := fun entry : String × Nat => decide (entry.1 = name)) entry
  have here := List.mem_zipIdx_iff_getElem?.mp (List.mem_reverse.mp (List.mem_of_find?_eq_some entry))
  rw [← of_decide_eq_true named]
  simpa using here

/-- What a node needs is another property that its own one reads. -/
theorem readsOther_of_need
    {properties : List Property} {node : DependencyNode}
    (member : node ∈ (ofProperties properties).nodes) {need : Nat} (needed : need ∈ node.needs) :
    ∃ other, properties[need]? = some other ∧
      Property.ReadsOther properties node.name other.name := by
  obtain ⟨property, here, named, needs⟩ := node_of_mem member
  rw [needs] at needed
  obtain ⟨dependency, listed, position⟩ := List.mem_filterMap.mp needed
  obtain ⟨listed, apart⟩ := List.mem_filter.mp listed
  have there := getElem?_of_positionOf? position
  rw [List.getElem?_map] at there
  obtain ⟨other, found, otherNamed⟩ := Option.map_eq_some_iff.mp there
  refine ⟨other, found, ⟨property, List.mem_of_getElem? here, named.symm, dependency, listed, ?_⟩, ?_⟩
  · exact otherNamed.symm
  · rw [named, otherNamed]
    exact of_decide_eq_true apart

/-- Each node that is left over reads another one that is left over. -/
theorem exists_left_of_left
    {properties : List Property} {node : DependencyNode}
    (member : node ∈ (place [] (ofProperties properties).nodes).2) :
    ∃ other ∈ (place [] (ofProperties properties).nodes).2,
      Property.ReadsOther properties node.name other.name := by
  obtain ⟨added, placedEq, perm, _⟩ := place_eq [] (ofProperties properties).nodes
  rw [List.nil_append] at placedEq
  have waits := isReady_of_left [] (ofProperties properties).nodes node member
  rw [placedEq] at waits
  obtain ⟨need, needed, unplaced⟩ := List.all_eq_false.mp waits
  obtain ⟨property, found, reads⟩ :=
    readsOther_of_need (perm.subset (List.mem_append_right added member)) needed
  have room : need < properties.length := (List.getElem?_eq_some_iff.mp found).1
  have position : need ∈ (added ++ (place [] (ofProperties properties).nodes).2).map
      DependencyNode.position := by
    rw [(perm.map DependencyNode.position).mem_iff, positions_nodes]
    exact List.mem_range'_1.mpr ⟨Nat.zero_le need, by omega⟩
  obtain ⟨other, otherMember, rfl⟩ := List.mem_map.mp position
  obtain ⟨_, here, otherNamed, _⟩ := node_of_mem (perm.subset otherMember)
  obtain rfl := Option.some.inj (found.symm.trans here)
  rcases List.mem_append.mp otherMember with early | late
  · exact absurd (List.contains_iff_mem.mpr (List.mem_map_of_mem early)) unplaced
  · exact ⟨other, late, otherNamed ▸ reads⟩

/-- Properties without a cycle have an order. -/
theorem exists_order {properties : List Property} (acyclic : Property.Acyclic properties) :
    ∃ names, (ofProperties properties).order = .ok names := by
  have nothing : ∀ name, ∀ node ∈ (place [] (ofProperties properties).nodes).2,
      node.name ≠ name := by
    intro name
    induction name using (Property.wellFounded_of_acyclic acyclic).induction with
    | _ name inductionHypothesis =>
        rintro node member rfl
        obtain ⟨other, otherMember, reads⟩ := exists_left_of_left member
        exact inductionHypothesis other.name reads other otherMember rfl
  unfold order
  split
  · exact ⟨_, rfl⟩
  · rename_i placed left stuck placedEq
    cases left with
    | nil => exact absurd rfl stuck
    | cons node rest =>
        refine absurd rfl (nothing node.name node ?_)
        rw [placedEq]
        exact List.mem_cons_self

end DependencyGraph

end ObjectQuery
