import ObjectQuery.Proofs.Plan.Compilable

/-!
# Merged queries

A query that is narrowed down by another one refers to nothing that one of the two does not refer to. So
what it reaches one of them reaches, and it is compiled wherever they are (`compile_merge`); before its
predicate is evaluated it computes all that is computed for theirs.
-/

namespace ObjectQuery

namespace Predicate

variable {left right : Predicate} {type mention : ObjectType}

theorem mem_mentions_and :
    mention ∈ (Predicate.and left right).mentions ↔
      mention ∈ left.mentions ∨ mention ∈ right.mentions := by
  unfold mentions
  rw [instanceTypes, references, List.map_append]
  simp only [List.mem_append]
  tauto

/-- What both sides of a conjunction mention first it mentions first. -/
theorem head?_mentions_and (first : left.mentions.head? = some type)
    (second : right.mentions.head? = some type) :
    (Predicate.and left right).mentions.head? = some type := by
  unfold mentions at *
  rw [instanceTypes, references]
  cases instances : left.instanceTypes with
  | cons instanceType rest =>
      rw [instances] at first
      exact first
  | nil =>
      rw [instances] at first
      cases others : right.instanceTypes with
      | cons instanceType rest =>
          rw [others] at second
          exact second
      | nil =>
          -- only fields are mentioned, those of the left side first
          rw [List.nil_append] at first
          rw [List.nil_append, List.nil_append, List.map_append, List.head?_append, first]
          rfl

end Predicate

namespace Plan

variable {type : ObjectType} {parent child : Query} {name : String}

/-- Predicates for one type are for that type together. -/
theorem singleType_and {left right : Predicate} (first : singleType left.types = .ok type)
    (second : singleType right.types = .ok type) :
    singleType (Predicate.and left right).types = .ok type := by
  obtain ⟨firstHead, firstNamed⟩ := singleType_types_eq_ok_iff.mp first
  obtain ⟨secondHead, secondNamed⟩ := singleType_types_eq_ok_iff.mp second
  refine singleType_types_eq_ok_iff.mpr
    ⟨Predicate.head?_mentions_and firstHead secondHead, fun mention member => ?_⟩
  rcases Predicate.mem_mentions_and.mp member with mine | theirs
  · exact firstNamed mention mine
  · exact secondNamed mention theirs

theorem output_merge : (Query.merge parent child).output ⊆ parent.output ++ child.output := by
  unfold Query.merge
  split
  · exact List.subset_append_left _ _
  · exact List.subset_append_right _ _

/-- What a merged query reaches one of the two reaches. -/
theorem reached_of_merge (reached : type.Reached (referenced (Query.merge parent child)) name) :
    type.Reached (referenced parent) name ∨ type.Reached (referenced child) name := by
  obtain ⟨root, member, path⟩ := reached
  have either : root ∈ referenced parent ∨ root ∈ referenced child := by
    rcases List.mem_append.mp member with predicate | output
    · rw [show (Query.merge parent child).constraint.references =
        parent.constraint.references ++ child.constraint.references from rfl, List.map_append]
        at predicate
      exact (List.mem_append.mp predicate).imp (List.mem_append_left _) (List.mem_append_left _)
    · obtain ⟨reference, listed, rfl⟩ := List.mem_map.mp output
      exact (List.mem_append.mp (output_merge listed)).imp
        (fun mine => List.mem_append_right _ (List.mem_map_of_mem mine))
        fun theirs => List.mem_append_right _ (List.mem_map_of_mem theirs)
  exact either.imp (fun mine => ⟨root, mine, path⟩) fun theirs => ⟨root, theirs, path⟩

theorem Compilable.merge
    (mine : Compilable type parent) (theirs : Compilable type child) :
    Compilable type (Query.merge parent child) where
  single name := by
    constructor
    · intro member
      obtain ⟨mention, listed, rfl⟩ := List.mem_map.mp member
      rcases Predicate.mem_mentions_and.mp listed with here | there
      · exact (mine.single mention.name).mp (List.mem_map_of_mem here)
      · exact (theirs.single mention.name).mp (List.mem_map_of_mem there)
    · intro same
      obtain ⟨mention, listed, rfl⟩ := List.mem_map.mp ((mine.single name).mpr same)
      exact List.mem_map_of_mem (Predicate.mem_mentions_and.mpr (Or.inl listed))
  output reference listed := by
    rcases List.mem_append.mp (output_merge listed) with here | there
    · exact mine.output reference here
    · exact theirs.output reference there
  known name member := by
    rcases reached_of_merge (ObjectType.Reached.of_mem member) with here | there
    · exact mine.knows here
    · exact theirs.knows there
  dependencies name reached other reads := by
    rcases reached_of_merge reached with here | there
    · exact mine.dependencies name here other reads
    · exact theirs.dependencies name there other reads
  acyclic name reached := by
    rcases reached_of_merge reached with here | there
    · exact mine.acyclic name here
    · exact theirs.acyclic name there

/-- Queries for one type that are compiled are compiled together. -/
theorem compile_merge
    (distinct : (type.properties.map Property.name).Nodup)
    (free : ∀ property ∈ type.properties, Field.isFixed property.name = false)
    {planParent planChild : Plan} (mine : compile parent = .ok planParent)
    (theirs : compile child = .ok planChild) (mineType : planParent.type = type)
    (theirsType : planChild.type = type) :
    ∃ before after,
      compile (Query.merge parent child) = .ok (planOf (Query.merge parent child) type before after) := by
  have compilable := (compilable_of_compile distinct free mine mineType).merge
    (compilable_of_compile distinct free theirs theirsType)
  have single := singleType_of_compile mine
  have single' := singleType_of_compile theirs
  rw [mineType] at single
  rw [theirsType] at single'
  exact compilable.exists_plan_of_single distinct free (singleType_and single single')

/-- A query whose predicate reads what that of another one reads, and maybe more, computes before its
filter what the other computes before its own. -/
theorem Compiled.mem_before_of_subset
    {query other : Query} {plan plan' : Plan} {predicateNames outputNames : List String}
    {predicateNames' outputNames' : List String} {before after before' after' : List Property}
    (compiled : Compiled query plan predicateNames outputNames before after)
    (compiled' : Compiled other plan' predicateNames' outputNames' before' after')
    (sameType : plan'.type = plan.type) (distinct : (plan.type.properties.map Property.name).Nodup)
    (free : ∀ property ∈ plan.type.properties, Field.isFixed property.name = false)
    (reads : query.constraint.references ⊆ other.constraint.references) :
    ∀ property ∈ before, property ∈ before' := by
  intro property member
  obtain ⟨declared, named⟩ := (compiled.mem_before property).mp member
  have predicates := compiled'.predicates
  rw [sameType] at predicates
  rw [mem_required_iff distinct free compiled.predicates] at named
  rw [compiled'.mem_before, sameType, mem_required_iff distinct free predicates]
  exact ⟨declared, named.1.mono (List.map_subset _ reads), named.2⟩

end Plan

end ObjectQuery
