import ObjectQuery.Plan.Compile

/-!
# The types that a predicate mentions

A predicate lists the types it mentions with each name once. It is for a single type exactly if all its
mentions bear one name, and then that type is the first one of the name.
-/

namespace ObjectQuery

namespace Predicate

/-- The types that a predicate mentions, each as often as it is mentioned. -/
def mentions (predicate : Predicate) : List ObjectType :=
  predicate.instanceTypes ++ predicate.references.map PropertyRef.owner

theorem types_eq_foldl (predicate : Predicate) :
    predicate.types = predicate.mentions.foldl addType [] := rfl

theorem subset_addType (types : List ObjectType) (type : ObjectType) :
    types ⊆ addType types type := by
  intro other member
  unfold addType
  split
  · exact member
  · exact List.mem_append_left _ member

theorem exists_mem_addType (types : List ObjectType) (type : ObjectType) :
    ∃ other ∈ addType types type, other.name = type.name := by
  unfold addType
  split
  · rename_i present
    obtain ⟨other, member, same⟩ := List.any_eq_true.mp present
    exact ⟨other, member, by simpa using same⟩
  · exact ⟨type, List.mem_append_right _ List.mem_cons_self, rfl⟩

theorem subset_foldl_addType (mentions types : List ObjectType) :
    types ⊆ mentions.foldl addType types := by
  induction mentions generalizing types with
  | nil => exact List.Subset.refl types
  | cons first rest inductionHypothesis =>
      exact List.Subset.trans (subset_addType types first) (inductionHypothesis (addType types first))

theorem exists_mem_foldl_addType
    {mentions : List ObjectType} (types : List ObjectType) {mention : ObjectType}
    (member : mention ∈ mentions) :
    ∃ type ∈ mentions.foldl addType types, type.name = mention.name := by
  induction mentions generalizing types with
  | nil => exact absurd member List.not_mem_nil
  | cons first rest inductionHypothesis =>
      rcases List.mem_cons.mp member with rfl | later
      · obtain ⟨type, added, named⟩ := exists_mem_addType types mention
        exact ⟨type, subset_foldl_addType rest _ added, named⟩
      · exact inductionHypothesis (addType types first) later

/-- A type stays the only one as long as no other name is mentioned. -/
theorem foldl_addType_of_named
    {mentions : List ObjectType} {type : ObjectType}
    (named : ∀ mention ∈ mentions, mention.name = type.name) :
    mentions.foldl addType [type] = [type] := by
  induction mentions with
  | nil => rfl
  | cons first rest inductionHypothesis =>
      have added : addType [type] first = [type] := by
        simp [addType, named first List.mem_cons_self]
      rw [List.foldl_cons, added]
      exact inductionHypothesis fun mention later => named mention (List.mem_cons_of_mem first later)

end Predicate

namespace Plan

theorem singleType_eq_ok_iff {types : List ObjectType} {type : ObjectType} :
    singleType types = .ok type ↔ types = [type] := by
  match types with
  | [] => simp [singleType]
  | [only] => simp [singleType]
  | first :: second :: rest => simp [singleType]

/-- A query is for the type that its predicate mentions first, if every mention bears the name of that. -/
theorem singleType_types_eq_ok_iff {predicate : Predicate} {type : ObjectType} :
    singleType predicate.types = .ok type ↔
      predicate.mentions.head? = some type ∧
        ∀ mention ∈ predicate.mentions, mention.name = type.name := by
  rw [singleType_eq_ok_iff, Predicate.types_eq_foldl]
  constructor
  · intro types
    have named : ∀ mention ∈ predicate.mentions, mention.name = type.name := by
      intro mention member
      obtain ⟨other, listed, same⟩ := Predicate.exists_mem_foldl_addType [] member
      rw [types] at listed
      rw [← same, List.mem_singleton.mp listed]
    refine ⟨?_, named⟩
    cases mentioned : predicate.mentions with
    | nil =>
        rw [mentioned] at types
        exact absurd types (by simp)
    | cons first rest =>
        rw [mentioned] at types
        have listed : first ∈ (first :: rest).foldl Predicate.addType [] :=
          Predicate.subset_foldl_addType rest [first] List.mem_cons_self
        rw [types] at listed
        rw [List.head?_cons, List.mem_singleton.mp listed]
  · rintro ⟨head, named⟩
    obtain ⟨rest, mentioned⟩ := List.head?_eq_some_iff.mp head
    rw [mentioned] at named ⊢
    exact Predicate.foldl_addType_of_named fun mention later =>
      named mention (List.mem_cons_of_mem type later)

/-- The type of a query is mentioned, and every mention bears its name. -/
theorem mentions_of_singleType
    {predicate : Predicate} {type : ObjectType} (single : singleType predicate.types = .ok type) :
    type ∈ predicate.mentions ∧ ∀ mention ∈ predicate.mentions, mention.name = type.name := by
  obtain ⟨head, named⟩ := singleType_types_eq_ok_iff.mp single
  exact ⟨List.mem_of_head? head, named⟩

/-- A type that is mentioned, and without any other, is the type of the query. -/
theorem singleType_of_mentions
    {predicate : Predicate} {type : ObjectType} (mentioned : type ∈ predicate.mentions)
    (only : ∀ mention ∈ predicate.mentions, mention = type) :
    singleType predicate.types = .ok type := by
  refine singleType_types_eq_ok_iff.mpr ⟨?_, fun mention member => by rw [only mention member]⟩
  cases found : predicate.mentions with
  | nil =>
      rw [found] at mentioned
      exact absurd mentioned List.not_mem_nil
  | cons first rest =>
      rw [List.head?_cons, only first (found ▸ List.mem_cons_self)]

end Plan

end ObjectQuery
