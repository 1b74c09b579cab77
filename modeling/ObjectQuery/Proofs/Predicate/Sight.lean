import Mathlib.Data.List.Nodup
import ObjectQuery.Proofs.Predicate.Answer
import ObjectQuery.Proofs.Predicate.Mentions

/-!
# What a planner sees of a predicate

A plan is made from two lists: the properties that a predicate reads and the types that it mentions. Nothing
that an answer depends on is left out of them. Records that differ only in fields off the first list are
answered the same, and each type that a leaf is about stands on the second list under its name, once
(`answered_from_mentions`). Which types the leaves are about is said by a relation over the tree
(`Predicate.Concerns`), apart from the recursions that gather the lists.
-/

namespace ObjectQuery

namespace Predicate

/-- A leaf of the predicate is about the type: it asks for an instance or reads a property of it. -/
inductive Concerns (type : ObjectType) : Predicate → Prop where
  | isInstance : Concerns type (.isInstance type)
  | andLeft {left right : Predicate} (there : Concerns type left) : Concerns type (.and left right)
  | andRight {left right : Predicate} (there : Concerns type right) : Concerns type (.and left right)
  | orLeft {left right : Predicate} (there : Concerns type left) : Concerns type (.or left right)
  | orRight {left right : Predicate} (there : Concerns type right) : Concerns type (.or left right)
  | not {inner : Predicate} (there : Concerns type inner) : Concerns type (.not inner)
  | equalLeft {name : String} {right : Operand} :
      Concerns type (.equal (.property ⟨type, name⟩) right)
  | equalRight {left : Operand} {name : String} :
      Concerns type (.equal left (.property ⟨type, name⟩))
  | greaterLeft {name : String} {right : Operand} :
      Concerns type (.greater (.property ⟨type, name⟩) right)
  | greaterRight {left : Operand} {name : String} :
      Concerns type (.greater left (.property ⟨type, name⟩))
  | test {name : String} {holds : Value → Bool} : Concerns type (.test ⟨type, name⟩ holds)

variable {predicate left right inner : Predicate} {type : ObjectType}

/-! ## Every leaf is mentioned -/

theorem mem_mentions_iff :
    type ∈ predicate.mentions ↔
      type ∈ predicate.instanceTypes ∨ ∃ reference ∈ predicate.references, reference.owner = type := by
  unfold mentions
  rw [List.mem_append, List.mem_map]

/-- A tree of two parts mentions what either part mentions. -/
theorem mem_mentions_of_or {whole : Predicate}
    (instances : whole.instanceTypes = left.instanceTypes ++ right.instanceTypes)
    (references : whole.references = left.references ++ right.references)
    (mentioned : type ∈ left.mentions ∨ type ∈ right.mentions) : type ∈ whole.mentions := by
  rw [mem_mentions_iff, mem_mentions_iff] at mentioned
  rw [mem_mentions_iff, instances, references]
  rcases mentioned with (asked | ⟨reference, read, owned⟩) | (asked | ⟨reference, read, owned⟩)
  · exact .inl (List.mem_append_left _ asked)
  · exact .inr ⟨reference, List.mem_append_left _ read, owned⟩
  · exact .inl (List.mem_append_right _ asked)
  · exact .inr ⟨reference, List.mem_append_right _ read, owned⟩

/-- The owner of a property that is read is mentioned. -/
theorem mem_mentions_of_read {name : String} (read : ⟨type, name⟩ ∈ predicate.references) :
    type ∈ predicate.mentions :=
  mem_mentions_iff.mpr (.inr ⟨⟨type, name⟩, read, rfl⟩)

theorem mem_mentions_of_concerns (concerned : predicate.Concerns type) : type ∈ predicate.mentions := by
  induction concerned with
  | isInstance => exact mem_mentions_iff.mpr (.inl List.mem_cons_self)
  | andLeft there mentioned => exact mem_mentions_of_or rfl rfl (.inl mentioned)
  | andRight there mentioned => exact mem_mentions_of_or rfl rfl (.inr mentioned)
  | orLeft there mentioned => exact mem_mentions_of_or rfl rfl (.inl mentioned)
  | orRight there mentioned => exact mem_mentions_of_or rfl rfl (.inr mentioned)
  | not there mentioned => exact mentioned
  | equalLeft => exact mem_mentions_of_read (mem_references_of_operand List.mem_cons_self rfl)
  | equalRight =>
      exact mem_mentions_of_read
        (mem_references_of_operand (List.mem_cons_of_mem _ List.mem_cons_self) rfl)
  | greaterLeft => exact mem_mentions_of_read (mem_references_of_operand List.mem_cons_self rfl)
  | greaterRight =>
      exact mem_mentions_of_read
        (mem_references_of_operand (List.mem_cons_of_mem _ List.mem_cons_self) rfl)
  | test => exact mem_mentions_of_read List.mem_cons_self

/-! ## Every name is listed once -/

theorem nodup_addType {types : List ObjectType} (distinct : (types.map ObjectType.name).Nodup)
    (type : ObjectType) : ((addType types type).map ObjectType.name).Nodup := by
  unfold addType
  split
  · exact distinct
  · rename_i absent
    rw [List.map_append]
    refine List.nodup_append.mpr ⟨distinct, List.nodup_singleton _, ?_⟩
    rintro name listed other added rfl
    obtain ⟨present, member, rfl⟩ := List.mem_map.mp listed
    refine absent (List.any_eq_true.mpr ⟨present, member, ?_⟩)
    exact beq_iff_eq.mpr (List.mem_singleton.mp added)

theorem nodup_types (predicate : Predicate) : (predicate.types.map ObjectType.name).Nodup := by
  -- names once added are never added again, whatever has been gathered before
  have kept (mentions types : List ObjectType) (distinct : (types.map ObjectType.name).Nodup) :
      ((mentions.foldl addType types).map ObjectType.name).Nodup := by
    induction mentions generalizing types with
    | nil => exact distinct
    | cons first rest inductionHypothesis =>
        exact inductionHypothesis (addType types first) (nodup_addType distinct first)
  exact kept predicate.mentions [] List.nodup_nil

/-- An answer depends on the properties that a predicate reads and on nothing else of a record, and the
types of its leaves are listed, each name once. -/
theorem answered_from_mentions (predicate : Predicate) (className : String) :
    (∀ record record' : ObjectRecord,
      (∀ reference ∈ predicate.references,
        record'.get? reference.name = record.get? reference.name) →
      predicate.answer? className record' = predicate.answer? className record) ∧
    ∀ type, predicate.Concerns type →
      (predicate.types.map ObjectType.name).count type.name = 1 := by
  refine ⟨fun record record' same => answer?_congr same, fun type concerned => ?_⟩
  obtain ⟨listed, member, named⟩ :=
    exists_mem_foldl_addType [] (mem_mentions_of_concerns concerned)
  refine List.count_eq_one_of_mem predicate.nodup_types ?_
  exact List.mem_map.mpr ⟨listed, member, named⟩

end Predicate

/-! ## Cars and trucks -/

namespace Convoys

def car : ObjectType := .declare "Car" "car" []

def truck : ObjectType := .declare "Truck" "truck" []

/-- A slow car, or one that is not on the lane of the truck. -/
def alone : Predicate :=
  .or (.and (.isInstance car) (.greater (.literal (.float 2)) (.property ⟨car, "speed"⟩)))
    (.not (.equal (.property ⟨truck, "lane"⟩) (.property ⟨car, "ownLane"⟩)))

def seen : ObjectRecord :=
  ObjectRecord.empty |>.insert "lane" (.int 1) |>.insert "ownLane" (.int 2)

/-- The colour is not read. -/
def repainted : ObjectRecord := seen.insert "colour" (.text "red")

theorem concerns_truck : alone.Concerns truck := .orRight (.not .equalLeft)

theorem get?_repainted :
    ∀ reference ∈ alone.references, repainted.get? reference.name = seen.get? reference.name := by
  intro reference read
  rw [repainted, ObjectRecord.get?_insert, if_neg]
  intro colour
  have names : alone.references.map PropertyRef.name = ["speed", "lane", "ownLane"] := rfl
  have listed := List.mem_map_of_mem (f := PropertyRef.name) read
  rw [names, ← colour] at listed
  exact absurd listed (by decide)

end Convoys

open Convoys in
theorem Predicate.answered_from_mentions_repainted :
    (∀ reference ∈ alone.references, repainted.get? reference.name = seen.get? reference.name) ∧
      alone.answer? "car" repainted = alone.answer? "car" seen ∧ alone.Concerns truck ∧
        (alone.types.map ObjectType.name).count "Truck" = 1 :=
  have shown := Predicate.answered_from_mentions alone "car"
  ⟨get?_repainted, shown.1 seen repainted get?_repainted, concerns_truck, shown.2 truck concerns_truck⟩

end ObjectQuery
