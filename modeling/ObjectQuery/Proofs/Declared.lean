import Mathlib.Data.List.Basic
import ObjectQuery.Keyed
import ObjectQuery.Proofs.Plan.Compile

/-!
# Types as they are declared

A declaration mentions properties one after another, its own ones and all those of the types that it
inherits from. What comes of it is told by the mentions alone (`Declares`): each name stands once, in the
place of its first mention and with the property of its last one, and the detector is the last one that the
declaration names, or else the first one that is inherited (`declares_of_steps`).
-/

namespace ObjectQuery.ObjectType

/-! ## What steps mention -/

/-- The properties that a step declares or takes over, in their order. -/
def Step.mentioned : Step → List Property
  | .detector _ => []
  | .inherit parent => parent.properties
  | .property declared => [declared]

/-- The detector that a step names. -/
def Step.named? : Step → Option String
  | .detector name => some name
  | .inherit _ | .property _ => none

/-- The detector of the type that a step inherits from. -/
def Step.inherited? : Step → Option String
  | .inherit parent => parent.detector
  | .detector _ | .property _ => none

/-- All properties that some steps declare or take over, one after another. -/
def mentions (steps : List Step) : List Property := steps.flatMap Step.mentioned

/-- What a type is like after the steps of its declaration. -/
structure Declares (steps : List Step) (type : ObjectType) : Prop where
  once : (type.properties.map Property.name).Nodup
  mem_names_iff : ∀ name,
    name ∈ type.properties.map Property.name ↔ name ∈ (mentions steps).map Property.name
  /-- Names stand in the order of their first mentions. -/
  ordered : (type.properties.map Property.name).Pairwise fun earlier later =>
    ((mentions steps).map Property.name).idxOf earlier < ((mentions steps).map Property.name).idxOf later
  /-- A name is bound to the property that is mentioned last under it. -/
  property?_eq : ∀ name,
    type.property? name = ((mentions steps).filter fun property => property.name = name).getLast?
  mem_iff : ∀ property,
    property ∈ type.properties ↔ type.property? property.name = some property
  /-- The place of a name is that of its property. -/
  declarationIndex?_eq_some_iff : ∀ name place,
    type.declarationIndex? name = some place ↔
      ∃ property, type.property? name = some property ∧ type.properties[place]? = some property
  declarationIndex?_eq_none_iff : ∀ name,
    type.declarationIndex? name = none ↔ type.property? name = none
  /-- The last detector that is named, or else the first that is inherited. -/
  detector_eq : type.detector =
    (steps.reverse.findSome? Step.named?).or (steps.findSome? Step.inherited?)

/-! ## Properties under their names -/

/-- Properties as entries under their names. -/
def byName (properties : List Property) : Keyed String Property :=
  properties.map fun property => (property.name, property)

theorem keys_byName (properties : List Property) :
    (byName properties).keys = properties.map Property.name := by
  unfold byName Keyed.keys
  rw [List.map_map]
  rfl

theorem find?_byName (properties : List Property) (name : String) :
    (byName properties).find? name = properties.find? fun property => property.name = name := by
  induction properties with
  | nil => rfl
  | cons first rest inductionHypothesis =>
      by_cases here : first.name = name
      · simp [byName, Keyed.find?, here]
      · simpa [byName, Keyed.find?, here] using inductionHypothesis

/-- A property is put under its name. -/
theorem byName_putProperty (properties : List Property) (new : Property) :
    byName (putProperty properties new) = (byName properties).put new.name new := by
  induction properties with
  | nil => rfl
  | cons present rest inductionHypothesis =>
      by_cases same : present.name = new.name
      · simp [byName, putProperty, Keyed.put, same]
      · simpa [byName, putProperty, Keyed.put, same] using inductionHypothesis

/-- A name that is new comes last, and any other keeps its place. -/
theorem names_put (properties : List Property) (new : Property) :
    (putProperty properties new).map Property.name =
      if new.name ∈ properties.map Property.name then properties.map Property.name
      else properties.map Property.name ++ [new.name] := by
  rw [← keys_byName, byName_putProperty, Keyed.keys_put, keys_byName]

theorem find?_putProperty (properties : List Property) (new : Property) (name : String) :
    ((putProperty properties new).find? fun property => property.name = name) =
      if new.name = name then some new else properties.find? fun property => property.name = name := by
  rw [← find?_byName, byName_putProperty, Keyed.find?_put, find?_byName]

/-! ## Properties put one after another -/

section Put

variable (items : List Property)

theorem mem_names_foldl (name : String) :
    name ∈ (items.foldl putProperty []).map Property.name ↔ name ∈ items.map Property.name := by
  induction items using List.reverseRecOn with
  | nil => rfl
  | append_singleton items new inductionHypothesis =>
      rw [List.foldl_append, List.foldl_cons, List.foldl_nil, names_put, List.map_append,
        List.mem_append, ← inductionHypothesis]
      split
      · rename_i present
        refine ⟨Or.inl, fun member => member.elim id fun here => ?_⟩
        rwa [List.mem_singleton.mp here]
      · exact List.mem_append

/-- The first mention of a name comes before that of a name which is put later. -/
theorem ordered_foldl :
    ((items.foldl putProperty []).map Property.name).Pairwise fun earlier later =>
      (items.map Property.name).idxOf earlier < (items.map Property.name).idxOf later := by
  induction items using List.reverseRecOn with
  | nil => exact List.Pairwise.nil
  | append_singleton items new inductionHypothesis =>
      have mentioned {name : String}
          (member : name ∈ (items.foldl putProperty []).map Property.name) :
          name ∈ items.map Property.name := (mem_names_foldl items name).mp member
      have before : ((items.foldl putProperty []).map Property.name).Pairwise fun earlier later =>
          ((items ++ [new]).map Property.name).idxOf earlier <
            ((items ++ [new]).map Property.name).idxOf later := by
        refine inductionHypothesis.imp_of_mem fun {earlier later} first second order => ?_
        rwa [List.map_append, List.idxOf_append_of_mem (mentioned first),
          List.idxOf_append_of_mem (mentioned second)]
      rw [List.foldl_append, List.foldl_cons, List.foldl_nil, names_put]
      split
      · exact before
      · rename_i absent
        rw [mem_names_foldl] at absent
        refine List.pairwise_append.mpr ⟨before, List.pairwise_singleton _ _, ?_⟩
        intro earlier member later last
        rw [List.mem_singleton.mp last, List.map_append, List.idxOf_append_of_mem (mentioned member),
          List.idxOf_append_of_notMem absent]
        exact Nat.lt_of_lt_of_le (List.idxOf_lt_length_of_mem (mentioned member)) (Nat.le_add_right _ _)

theorem find?_foldl (name : String) :
    ((items.foldl putProperty []).find? fun property => property.name = name) =
      (items.filter fun property => property.name = name).getLast? := by
  induction items using List.reverseRecOn with
  | nil => rfl
  | append_singleton items new inductionHypothesis =>
      rw [List.foldl_append, List.foldl_cons, List.foldl_nil, find?_putProperty, List.filter_append]
      by_cases here : new.name = name
      · simp [here]
      · simp [here, inductionHypothesis]

end Put

/-! ## One step after another -/

theorem properties_foldl (steps : List Step) (type : ObjectType) :
    (steps.foldl apply type).properties = (mentions steps).foldl putProperty type.properties := by
  induction steps generalizing type with
  | nil => rfl
  | cons step rest inductionHypothesis =>
      have here : (type.apply step).properties = step.mentioned.foldl putProperty type.properties := by
        cases step <;> rfl
      rw [List.foldl_cons, inductionHypothesis, here, mentions, mentions, List.flatMap_cons,
        List.foldl_append]

/-- A detector that is named counts for more than one that is there, and that for more than one that is
inherited. -/
theorem detector_foldl (steps : List Step) (type : ObjectType) :
    (steps.foldl apply type).detector =
      (steps.reverse.findSome? Step.named?).or
        (type.detector.or (steps.findSome? Step.inherited?)) := by
  induction steps generalizing type with
  | nil => exact Option.or_none.symm
  | cons step rest inductionHypothesis =>
      rw [List.foldl_cons, inductionHypothesis, List.reverse_cons, List.findSome?_append, Option.or_assoc]
      congr 1
      cases step with
      | detector name => rfl
      | property declared => rfl
      | inherit parent =>
          have here : (type.apply (.inherit parent)).detector = type.detector.or parent.detector := by
            rw [apply, Option.orElse_eq_orElse, Option.orElse_eq_or]
          have none : [Step.inherit parent].findSome? Step.named? = none := rfl
          rw [here, none, Option.none_or, Option.or_assoc, List.findSome?_cons, Step.inherited?]
          cases parent.detector <;> rfl

/-! ## Declarations -/

theorem properties_declare (name className : String) (steps : List Step) :
    (declare name className steps).properties = (mentions steps).foldl putProperty [] :=
  properties_foldl steps _

section Lookup

variable {type : ObjectType} (once : (type.properties.map Property.name).Nodup)

include once in
theorem mem_properties_iff (property : Property) :
    property ∈ type.properties ↔ type.property? property.name = some property :=
  ⟨property?_of_mem once, fun found => (Plan.property?_eq_some found).1⟩

theorem declarationIndex?_eq_none (name : String) :
    type.declarationIndex? name = none ↔ type.property? name = none := by
  unfold declarationIndex? property?
  rw [List.findIdx?_eq_none_iff, List.find?_eq_none]
  simp

include once in
theorem declarationIndex?_eq_some (name : String) (place : Nat) :
    type.declarationIndex? name = some place ↔
      ∃ property, type.property? name = some property ∧ type.properties[place]? = some property := by
  unfold declarationIndex?
  rw [List.findIdx?_eq_some_iff_getElem]
  constructor
  · rintro ⟨inside, named, -⟩
    have member := (mem_properties_iff once _).mp (List.getElem_mem inside)
    rw [of_decide_eq_true named] at member
    exact ⟨_, member, List.getElem?_eq_getElem inside⟩
  · rintro ⟨property, found, here⟩
    obtain ⟨inside, rfl⟩ := List.getElem?_eq_some_iff.mp here
    have named := (Plan.property?_eq_some found).2
    refine ⟨inside, decide_eq_true named, fun other before same => ?_⟩
    have early : other < (type.properties.map Property.name).length := by
      rw [List.length_map]
      exact Nat.lt_trans before inside
    have equal : (type.properties.map Property.name)[other]? =
        (type.properties.map Property.name)[place]? := by
      rw [List.getElem?_map, List.getElem?_map, here, List.getElem?_eq_getElem (Nat.lt_trans before inside),
        Option.map_some, Option.map_some, named, of_decide_eq_true same]
    exact absurd ((List.getElem?_inj early once).mp equal) (Nat.ne_of_lt before)

end Lookup

/-- Whatever steps a type is declared by, its properties and its detector are those that the mentions of the
steps determine. -/
theorem declares_of_steps (name className : String) (steps : List Step) :
    Declares steps (declare name className steps) := by
  have ordered := ordered_foldl (mentions steps)
  rw [← properties_declare name className] at ordered
  have once : ((declare name className steps).properties.map Property.name).Nodup := by
    refine ordered.imp fun before same => ?_
    rw [same] at before
    exact Nat.lt_irrefl _ before
  exact
    { once := once
      mem_names_iff := fun wanted => by rw [properties_declare, mem_names_foldl]
      ordered := ordered
      property?_eq := fun wanted => by rw [property?, properties_declare, find?_foldl]
      mem_iff := mem_properties_iff once
      declarationIndex?_eq_some_iff := declarationIndex?_eq_some once
      declarationIndex?_eq_none_iff := declarationIndex?_eq_none
      detector_eq := detector_foldl steps _ }

/-! A property that is inherited again keeps the place of its first declaration, and a detector that is named
replaces the inherited one. -/

open Step in
example :
    let bare (name : String) : Property := .declare name [] fun _ => .null
    let base := declare "base" "person" [.detector "wide", .property (bare "size"), .property (bare "age")]
    let type := declare "child" "person" [.property (bare "age"), .inherit base, .detector "near"]
    type.properties.map Property.name = ["age", "size"] ∧ type.detector = some "near" := by decide

end ObjectQuery.ObjectType
