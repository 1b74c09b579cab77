import Mathlib.Data.List.Permutation
import ObjectQuery.Proofs.Plan.Redeclared

/-!
# Which queries are compiled

`Compilable` says of a query, in terms of the declarations alone, that it can be compiled for a type,
and `Arranged` which properties its plan computes and in which order. `compile_iff_compilable` is the
main result: a query is compiled exactly if it is compilable, its plan is arranged as it should be, and
what the query does not reach has no part in either.
-/

namespace ObjectQuery

open Relation

namespace Plan

/-- What a query for a type has to be like. -/
structure Compilable (type : ObjectType) (query : Query) : Prop where
  /-- The predicate mentions the name of the type and no other. -/
  single : ∀ name, name ∈ query.constraint.mentions.map ObjectType.name ↔ name = type.name
  output : ∀ reference ∈ query.output, reference.owner.name = type.name
  known : ∀ name ∈ referenced query, type.knows name = true
  dependencies : ∀ name, type.Reached (referenced query) name →
    ∀ other, Property.Reads type.properties name other → type.knows other = true
  /-- Nothing that is reached reads itself by way of others. -/
  acyclic : ∀ name, type.Reached (referenced query) name →
    ¬ TransGen (Property.ReadsOther type.properties) name name

/-- Which properties of a type are computed for a query, before its predicate is evaluated and
afterwards, and in which order. -/
structure Arranged (type : ObjectType) (query : Query) (before after : List Property) : Prop where
  mem_before : ∀ property, property ∈ before ↔
    property ∈ type.properties ∧
      type.Reached (query.constraint.references.map PropertyRef.name) property.name
  mem_after : ∀ property, property ∈ after ↔
    property ∈ type.properties ∧ type.Reached (query.output.map PropertyRef.name) property.name ∧
      ¬ type.Reached (query.constraint.references.map PropertyRef.name) property.name
  once : ((before ++ after).map Property.name).Nodup
  /-- What is computed at a place reads no other declared property that is not computed earlier. -/
  supported : ∀ (place : Nat) (property : Property), (before ++ after)[place]? = some property →
    ∀ dependency ∈ property.dependencies, dependency.name ≠ property.name →
      (type.property? dependency.name).isSome →
        ∃ earlier < place, ∃ other, (before ++ after)[earlier]? = some other ∧
          other.name = dependency.name

/-! ## The parts of a compilable query -/

section Parts

variable {type : ObjectType} {query : Query}

theorem checkOutput_eq_ok_iff {output : List PropertyRef} :
    checkOutput type output = .ok () ↔
      ∀ reference ∈ output, reference.owner.name = type.name := by
  induction output with
  | nil => simp [checkOutput]
  | cons reference rest inductionHypothesis =>
      rw [checkOutput, List.forall_mem_cons, ← inductionHypothesis]
      by_cases same : reference.owner.name = type.name
      · simp [same]
      · simp [same]

theorem reached_referenced_iff {name : String} :
    type.Reached (referenced query) name ↔
      type.Reached (query.constraint.references.map PropertyRef.name) name ∨
        type.Reached (query.output.map PropertyRef.name) name := by
  constructor
  · rintro ⟨root, member, path⟩
    rcases List.mem_append.mp member with predicate | output
    · exact Or.inl ⟨root, predicate, path⟩
    · exact Or.inr ⟨root, output, path⟩
  · rintro (reached | reached)
    · exact reached.mono (List.subset_append_left _ _)
    · exact reached.mono (List.subset_append_right _ _)

theorem Compilable.knows
    (compilable : Compilable type query) {name : String}
    (reached : type.Reached (referenced query) name) :
    type.knows name = true := by
  refine ObjectType.Reached.induction (motive := fun name => type.knows name = true)
    compilable.known ?_ reached
  intro name other reached _ reads
  exact compilable.dependencies name reached other reads

/-- Properties with reached names have an order. -/
theorem Compilable.exists_ordered
    (compilable : Compilable type query) {names : List String}
    (reached : ∀ name ∈ names, type.Reached (referenced query) name) :
    ∃ properties, ordered type names = .ok properties := by
  have inside : (type.properties.filter fun property => names.contains property.name) ⊆
      type.properties := List.filter_subset_self _
  have acyclic : Property.Acyclic
      (type.properties.filter fun property => names.contains property.name) := by
    intro name cycle
    obtain ⟨_, ⟨⟨property, member, named, _⟩, _⟩, _⟩ := TransGen.head'_iff.mp cycle
    have listed := List.contains_iff_mem.mp (List.mem_filter.mp member).2
    apply compilable.acyclic name (reached name (named ▸ listed))
    exact TransGen.mono (fun _ _ reads => reads.mono inside) name name cycle
  obtain ⟨order, orderEq⟩ := DependencyGraph.exists_order acyclic
  exact ⟨order.filterMap type.property?, by rw [ordered, bind_of_eq_ok orderEq]; rfl⟩

/-- What a reached name reads is read among the computed properties. -/
theorem Arranged.readsOther
    {before after : List Property} (arranged : Arranged type query before after)
    {name other : String} (reached : type.Reached (referenced query) name)
    (reads : Property.ReadsOther type.properties name other) :
    Property.ReadsOther (before ++ after) name other := by
  obtain ⟨⟨property, member, rfl, listed⟩, apart⟩ := reads
  refine ⟨⟨property, ?_, rfl, listed⟩, apart⟩
  by_cases early :
      type.Reached (query.constraint.references.map PropertyRef.name) property.name
  · exact List.mem_append_left _ ((arranged.mem_before property).mpr ⟨member, early⟩)
  · have late := (reached_referenced_iff.mp reached).resolve_left early
    exact List.mem_append_right _ ((arranged.mem_after property).mpr ⟨member, late, early⟩)

theorem Arranged.transGen_readsOther
    {before after : List Property} (arranged : Arranged type query before after)
    {first last : String} (path : TransGen (Property.ReadsOther type.properties) first last)
    (reached : type.Reached (referenced query) first) :
    TransGen (Property.ReadsOther (before ++ after)) first last := by
  induction path using TransGen.head_induction_on with
  | single reads => exact TransGen.single (arranged.readsOther reached reads)
  | head reads _ inductionHypothesis =>
      exact (inductionHypothesis (reached.read reads.1)).head (arranged.readsOther reached reads)

section Declared

variable (distinct : (type.properties.map Property.name).Nodup)
  (free : ∀ property ∈ type.properties, Field.isFixed property.name = false)

include distinct free

/-- A compilable query is compiled for the type that its predicate is for. -/
theorem Compilable.exists_plan_of_single
    (compilable : Compilable type query) (single : singleType query.constraint.types = .ok type) :
    ∃ before after, compile query = .ok (planOf query type before after) := by
  have fromPredicate : ∀ name,
      type.Reached (query.constraint.references.map PropertyRef.name) name →
        type.Reached (referenced query) name :=
    fun name reached => reached_referenced_iff.mpr (Or.inl reached)
  have fromOutput : ∀ name, type.Reached (query.output.map PropertyRef.name) name →
      type.Reached (referenced query) name :=
    fun name reached => reached_referenced_iff.mpr (Or.inr reached)
  obtain ⟨predicateNames, predicates⟩ := (required_isOk_iff distinct free).mpr
    fun name reached => compilable.knows (fromPredicate name reached)
  obtain ⟨outputNames, outputs⟩ := (required_isOk_iff distinct free).mpr
    fun name reached => compilable.knows (fromOutput name reached)
  obtain ⟨before, beforeEq⟩ := compilable.exists_ordered fun name member =>
    fromPredicate name ((mem_required_iff distinct free predicates name).mp member).1
  have later : ∃ properties, ordered type (outputNames.filter fun name =>
      !predicateNames.contains name) = .ok properties := by
    apply compilable.exists_ordered
    intro name member
    exact fromOutput name ((mem_required_iff distinct free outputs name).mp
      (List.mem_filter.mp member).1).1
  obtain ⟨after, afterEq⟩ := later
  refine ⟨before, after, compile_eq_ok_iff.mpr ⟨type, predicateNames, outputNames, before, after,
    single, ?_, predicates, outputs, beforeEq, afterEq, rfl⟩⟩
  exact checkOutput_eq_ok_iff.mpr compilable.output

/-- A compilable query is compiled. -/
theorem Compilable.exists_plan
    (compilable : Compilable type query)
    (own : ∀ mention ∈ query.constraint.mentions, mention.name = type.name → mention = type) :
    ∃ before after, compile query = .ok (planOf query type before after) := by
  have only : ∀ mention ∈ query.constraint.mentions, mention = type := by
    intro mention member
    exact own mention member ((compilable.single mention.name).mp (List.mem_map_of_mem member))
  obtain ⟨mention, member, named⟩ := List.mem_map.mp ((compilable.single type.name).mpr rfl)
  exact compilable.exists_plan_of_single distinct free
    (singleType_of_mentions (only mention member ▸ member) only)

/-- What a query is compiled to is arranged as it should be. -/
theorem Compiled.arranged
    {predicateNames outputNames : List String} {before after : List Property}
    (compiled : Compiled query (planOf query type before after) predicateNames outputNames before
      after) :
    Arranged type query before after := by
  have ordered := compiled.ordered distinct free
  have predicate := mem_required_iff distinct free compiled.predicates
  have output := mem_required_iff distinct free compiled.outputs
  refine
    { mem_before := fun property => ?_
      mem_after := fun property => ?_
      once := List.pairwise_map.mpr (ordered.imp And.left)
      supported := ?_ }
  · rw [compiled.mem_before]
    apply and_congr_right
    intro member
    rw [predicate]
    exact and_iff_left (ObjectType.isSome_property?_of_mem member)
  · rw [compiled.mem_after]
    apply and_congr_right
    intro member
    have declared : (type.property? property.name).isSome = true :=
      ObjectType.isSome_property?_of_mem member
    rw [predicate, output, declared]
    simp
  · intro place property here dependency listed apart declared
    have computed : isComputed property dependency = true := by
      simp [isComputed, apart, isFixed_of_isSome free declared]
    obtain ⟨other, member, named⟩ :=
      (compiled.dependency distinct listed computed).2 (List.mem_of_getElem? here)
    obtain ⟨earlier, before, there⟩ :=
      Property.exists_earlier_of_ordered ordered here listed apart member named
    exact ⟨earlier, before, other, there, named⟩

/-- A query that is compiled is compilable. -/
theorem compilable_of_compile
    {plan : Plan} (compiled : compile query = .ok plan) (sameType : plan.type = type) :
    Compilable type query := by
  obtain ⟨found, predicateNames, outputNames, before, after, single, checked, predicates, outputs,
    beforeEq, afterEq, rfl⟩ := compile_eq_ok_iff.mp compiled
  obtain rfl : found = type := sameType
  obtain ⟨mentioned, named⟩ := mentions_of_singleType single
  have knows : ∀ name, found.Reached (referenced query) name → found.knows name = true := by
    intro name reached
    rcases reached_referenced_iff.mp reached with predicate | output
    · exact (required_isOk_iff distinct free).mp ⟨predicateNames, predicates⟩ name predicate
    · exact (required_isOk_iff distinct free).mp ⟨outputNames, outputs⟩ name output
  have compiled := compiled_planOf distinct predicates outputs beforeEq afterEq
  have arranged := compiled.arranged distinct free
  refine
    { single := fun name => ⟨?_, ?_⟩
      output := checkOutput_eq_ok_iff.mp checked
      known := fun name member => knows name (ObjectType.Reached.of_mem member)
      dependencies := fun name reached other reads => knows other (reached.read reads)
      acyclic := ?_ }
  · intro member
    obtain ⟨mention, listed, rfl⟩ := List.mem_map.mp member
    exact named mention listed
  · rintro rfl
    exact List.mem_map_of_mem mentioned
  · -- a cycle through a reached name is a cycle among the computed properties, which have an order
    intro name reached cycle
    apply Property.acyclic_of_ordered (compiled.ordered distinct free) name
    exact arranged.transGen_readsOther cycle reached

end Declared

end Parts

/-! ## The main result -/

/-- Take a type with different names for its properties, none of which is fixed, and a query whose
predicate mentions no other type of its name. The query is compiled for the type exactly if it is
compilable, and any query is compiled only for the one type that its predicate mentions; its plan
computes what it reaches, in order; and with any other properties in place of those it does not reach
the outcome is the same. -/
theorem compile_iff_compilable
    {type : ObjectType} (distinct : (type.properties.map Property.name).Nodup)
    (free : ∀ property ∈ type.properties, Field.isFixed property.name = false) {query : Query}
    (own : ∀ mention ∈ query.constraint.mentions, mention.name = type.name → mention = type) :
    ((∃ plan, compile query = .ok plan ∧ plan.type = type) ↔ Compilable type query) ∧
      (∀ plan, compile query = .ok plan → ∀ name,
        name ∈ query.constraint.mentions.map ObjectType.name ↔ name = plan.type.name) ∧
      (∀ plan, compile query = .ok plan → plan.type = type →
        ∃ before after, plan = planOf query type before after ∧
          Arranged type query before after) ∧
      ∀ properties,
        reachedOf type (referenced query) properties =
            reachedOf type (referenced query) type.properties →
          compile (query.mapTypes (ObjectType.redeclared type.name properties)) =
            (compile query).map (Plan.mapTypes (ObjectType.redeclared type.name properties)) := by
  refine ⟨⟨?_, ?_⟩, ?_, ?_, ?_⟩
  · rintro ⟨plan, compiled, sameType⟩
    exact compilable_of_compile distinct free compiled sameType
  · intro compilable
    obtain ⟨before, after, compiled⟩ := compilable.exists_plan distinct free own
    exact ⟨planOf query type before after, compiled, rfl⟩
  · intro plan compiled name
    obtain ⟨mentioned, named⟩ := mentions_of_singleType (singleType_of_compile compiled)
    constructor
    · intro member
      obtain ⟨mention, listed, rfl⟩ := List.mem_map.mp member
      exact named mention listed
    · rintro rfl
      exact List.mem_map_of_mem mentioned
  · intro plan compiled sameType
    obtain ⟨found, predicateNames, outputNames, before, after, _, _, predicates, outputs, beforeEq,
      afterEq, rfl⟩ := compile_eq_ok_iff.mp compiled
    obtain rfl : found = type := sameType
    have compiled := compiled_planOf distinct predicates outputs beforeEq afterEq
    exact ⟨before, after, rfl, compiled.arranged distinct free⟩
  · intro properties same
    exact compile_redeclared own same

/-! ## People who turn round -/

namespace Turning

def turn : Property := .declare "turn" [⟨Field.box, 1⟩] fun _ => .null

/-- How often somebody has turned. -/
def turns : Property := .declare "turns" [⟨"turns", 1⟩, ⟨"turn", 0⟩] fun _ => .null

def pace : Property := .declare "pace" [⟨"turn", 0⟩, ⟨Field.fps, 0⟩] fun _ => .null

def ahead : Property := .declare "ahead" [⟨"behind", 0⟩] fun _ => .null

def behind : Property := .declare "behind" [⟨"ahead", 0⟩] fun _ => .null

def person : ObjectType :=
  .declare "Person" "person"
    [.property ahead, .property pace, .property turns, .property behind, .property turn]

def query : Query where
  name := "turning"
  constraint := .greater (.property ⟨person, "turns"⟩) (.literal (.int 3))
  output := [⟨person, "pace"⟩, ⟨person, "turns"⟩]

end Turning

open Turning in
/-- A query that does not reach the two properties that read each other. -/
theorem compile_iff_compilable_turning :
    (person.properties.map Property.name).Nodup ∧
      (∀ property ∈ person.properties, Field.isFixed property.name = false) ∧
      (∀ mention ∈ query.constraint.mentions, mention.name = person.name → mention = person) ∧
      compile query = .ok (planOf query person [turn, turns] [pace]) ∧ Compilable person query := by
  have distinct : (person.properties.map Property.name).Nodup := by decide
  have free : ∀ property ∈ person.properties, Field.isFixed property.name = false := by decide
  have own : ∀ mention ∈ query.constraint.mentions, mention.name = person.name → mention = person :=
    fun mention member _ => List.mem_singleton.mp member
  have compiled : compile query = .ok (planOf query person [turn, turns] [pace]) := by cbv
  exact ⟨distinct, free, own, compiled,
    (compile_iff_compilable distinct free own).1.mp ⟨_, compiled, rfl⟩⟩

end Plan

end ObjectQuery
