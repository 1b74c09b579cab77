import ObjectQuery.Proofs.Plan.Redeclared

/-!
# Fixed names that are computed

What another property depends on is computed only if its name is not fixed. What the predicate or the
output refers to is computed whenever it is declared, be its name fixed or not. So a fixed name is computed
exactly if the type declares it and the query refers to it (`mem_projected_of_isFixed`).
-/

namespace ObjectQuery

namespace Plan

variable {type : ObjectType} {names : List String} {name : String}

/-- The search follows no dependency on a fixed name. -/
theorem mem_of_reach {seen stack result : List String} (found : reach type seen stack = .ok result)
    (fixed : Field.isFixed name = true) (member : name ∈ result) : name ∈ seen ∨ name ∈ stack := by
  induction seen, stack using reach.induct type with
  | case1 seen =>
      rw [reach] at found
      obtain rfl := Except.ok.inj found
      exact .inl member
  | case2 seen first stack known inductionHypothesis =>
      rw [reach_of_seen known] at found
      exact (inductionHypothesis found).imp_right (List.mem_cons_of_mem first)
  | case3 seen first stack fresh unknown inductionHypothesis =>
      rw [reach_of_undeclared fresh unknown] at found
      exact (inductionHypothesis found).imp_right (List.mem_cons_of_mem first)
  | case4 seen first stack fresh property declared shorter needed neededEq inductionHypothesis =>
      rw [reach_of_declared fresh declared, bind_of_eq_ok neededEq] at found
      rcases inductionHypothesis found with here | later
      · rcases List.mem_cons.mp here with rfl | earlier
        · exact .inr List.mem_cons_self
        · exact .inl earlier
      · -- what a property needs is pushed onto the stack only if its name is not fixed
        rcases List.mem_append.mp later with needs | waiting
        · rw [List.mem_reverse, eq_of_neededBy neededEq] at needs
          obtain ⟨dependency, listed, rfl⟩ := List.mem_map.mp needs
          have computed := (List.mem_filter.mp listed).2
          simp [isComputed, fixed] at computed
        · exact .inr (List.mem_cons_of_mem first waiting)
  | case5 seen first stack fresh property declared shorter error failed =>
      rw [reach_of_declared fresh declared, failed] at found
      exact absurd found (by simp [bind, Except.bind])

theorem mem_required_of_isFixed {references : List PropertyRef}
    (found : required type references = .ok names) (fixed : Field.isFixed name = true)
    (declared : (type.property? name).isSome) :
    name ∈ names ↔ name ∈ references.map PropertyRef.name := by
  obtain ⟨roots, resolved, reached⟩ := exists_of_bind_eq_ok found
  constructor
  · intro member
    rcases mem_of_reach reached fixed member with seen | waiting
    · exact absurd seen List.not_mem_nil
    · exact stack_subset resolved waiting
  · intro referenced
    obtain ⟨property, here⟩ := Option.isSome_iff_exists.mp declared
    have root := (resolve_eq_ok resolved referenced).2 property here
    obtain ⟨_, rfl⟩ := property?_eq_some here
    exact (closure_eq_ok reached).2 property root declared

/-- What is put in order are the declared ones of the given names. -/
theorem mem_names_of_ordered {properties : List Property} (found : ordered type names = .ok properties) :
    name ∈ properties.map Property.name ↔ (type.property? name).isSome ∧ name ∈ names := by
  obtain ⟨order, orderEq, listed⟩ := exists_of_bind_eq_ok found
  obtain rfl := Except.ok.inj listed
  have members : name ∈ order ↔ ∃ property ∈ type.properties, property.name = name ∧ name ∈ names := by
    obtain ⟨placed, rfl, perm, _⟩ := DependencyGraph.place_of_order orderEq
    rw [(perm.map DependencyNode.name).mem_iff, DependencyGraph.names_nodes, List.mem_map]
    simp only [List.mem_filter, List.contains_iff_mem]
    constructor
    · rintro ⟨property, ⟨member, wanted⟩, rfl⟩
      exact ⟨property, member, rfl, wanted⟩
    · rintro ⟨property, member, rfl, wanted⟩
      exact ⟨property, ⟨member, wanted⟩, rfl⟩
  constructor
  · intro member
    obtain ⟨property, inside, rfl⟩ := List.mem_map.mp member
    obtain ⟨_, placed, here⟩ := List.mem_filterMap.mp inside
    obtain ⟨_, rfl⟩ := property?_eq_some here
    obtain ⟨_, _, _, wanted⟩ := members.mp placed
    exact ⟨Option.isSome_of_eq_some here, wanted⟩
  · rintro ⟨declared, wanted⟩
    obtain ⟨property, here⟩ := Option.isSome_iff_exists.mp declared
    obtain ⟨member, rfl⟩ := property?_eq_some here
    have placed := members.mpr ⟨property, member, rfl, wanted⟩
    exact List.mem_map_of_mem (List.mem_filterMap.mpr ⟨property.name, placed, here⟩)

theorem projected_planOf (query : Query) (type : ObjectType) (before after : List Property) :
    (planOf query type before after).projected = before ++ after := by
  simp only [projected, planOf, List.filterMap_append, property?_projections, List.filterMap_cons,
    List.filterMap_nil, PlanStage.property?, List.nil_append, List.append_nil]

/-- A fixed name is computed exactly if it is declared and the query refers to it. -/
theorem mem_projected_of_isFixed {query : Query} {plan : Plan} (compiled : compile query = .ok plan)
    (fixed : Field.isFixed name = true) :
    name ∈ plan.projected.map Property.name ↔
      (plan.type.property? name).isSome ∧ name ∈ referenced query := by
  obtain ⟨type, predicateNames, outputNames, before, after, _, _, predicates, outputs, beforeEq,
    afterEq, rfl⟩ := compile_eq_ok_iff.mp compiled
  change _ ↔ (type.property? name).isSome ∧ _
  rw [projected_planOf, List.map_append, List.mem_append, mem_names_of_ordered beforeEq,
    mem_names_of_ordered afterEq, ← and_or_left, and_congr_right_iff]
  intro declared
  rw [referenced, List.mem_append, ← mem_required_of_isFixed predicates fixed declared,
    ← mem_required_of_isFixed outputs fixed declared, List.mem_filter]
  by_cases early : name ∈ predicateNames
  · simp only [early, true_or]
  · simp [early]

end Plan

end ObjectQuery
