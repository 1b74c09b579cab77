import ObjectQuery.Plan.Compile
import ObjectQuery.Proofs.Plan.Dependency

/-!
# Compiled plans

`Plan.Compiled` is what a plan is like that a query has been compiled to: which properties are computed
before the predicate is evaluated and which afterwards, that everything a computed property needs is
computed before it, and that every reported field is computed or has a fixed meaning.
-/

namespace ObjectQuery

/-! ## Types as they are declared -/

/-- A type declares no name twice, and no property names a dependency twice. -/
structure ObjectType.WellFormed (type : ObjectType) : Prop where
  names : (type.properties.map Property.name).Nodup
  dependencies : ∀ property ∈ type.properties, (property.dependencies.map Dependency.name).Nodup

namespace ObjectType

theorem names_putProperty
    {properties : List Property} (new : Property)
    (distinct : (properties.map Property.name).Nodup) :
    ((putProperty properties new).map Property.name).Nodup ∧
      ∀ property ∈ putProperty properties new, property = new ∨ property ∈ properties := by
  induction properties with
  | nil => simp [putProperty]
  | cons present rest inductionHypothesis =>
      obtain ⟨absent, distinct⟩ := List.nodup_cons.mp distinct
      obtain ⟨laterDistinct, later⟩ := inductionHypothesis distinct
      unfold putProperty
      split
      · rename_i same
        refine ⟨?_, fun property member => ?_⟩
        · rw [List.map_cons, ← same]
          exact List.nodup_cons.mpr ⟨absent, distinct⟩
        · rcases List.mem_cons.mp member with here | inRest
          · exact Or.inl here
          · exact Or.inr (List.mem_cons_of_mem present inRest)
      · rename_i different
        refine ⟨?_, fun property member => ?_⟩
        · refine List.nodup_cons.mpr ⟨fun repeated => ?_, laterDistinct⟩
          obtain ⟨property, member, named⟩ := List.mem_map.mp repeated
          rcases later property member with rfl | inRest
          · exact different named.symm
          · exact absent (named ▸ List.mem_map_of_mem inRest)
        · rcases List.mem_cons.mp member with here | inPut
          · exact Or.inr (here ▸ List.mem_cons_self)
          · rcases later property inPut with new | inRest
            · exact Or.inl new
            · exact Or.inr (List.mem_cons_of_mem present inRest)

/-- A step that adds well-formed properties. -/
def Step.WellFormed : Step → Prop
  | .detector _ => True
  | .inherit parent => parent.WellFormed
  | .property declared => (declared.dependencies.map Dependency.name).Nodup

theorem wellFormed_putProperty
    {type : ObjectType} (wellFormed : type.WellFormed) {property : Property}
    (distinct : (property.dependencies.map Dependency.name).Nodup) :
    WellFormed { type with properties := putProperty type.properties property } where
  names := (names_putProperty property wellFormed.names).1
  dependencies other member := by
    rcases (names_putProperty property wellFormed.names).2 other member with rfl | present
    · exact distinct
    · exact wellFormed.dependencies other present

theorem wellFormed_apply
    {type : ObjectType} (wellFormed : type.WellFormed) {step : Step} (stepFormed : step.WellFormed) :
    (type.apply step).WellFormed := by
  cases step with
  | detector name => exact ⟨wellFormed.names, wellFormed.dependencies⟩
  | property property => exact wellFormed_putProperty wellFormed stepFormed
  | inherit parent =>
      have added : ∀ items ⊆ parent.properties, ∀ type : ObjectType, type.WellFormed →
          WellFormed { type with properties := items.foldl putProperty type.properties } := by
        intro items inside
        induction items with
        | nil => exact fun type formed => formed
        | cons item rest inductionHypothesis =>
            intro type formed
            have next := wellFormed_putProperty formed
              (stepFormed.dependencies item (inside List.mem_cons_self))
            exact inductionHypothesis (fun other member =>
              inside (List.mem_cons_of_mem item member)) _ next
      have formed := added parent.properties (List.Subset.refl _) type wellFormed
      exact ⟨formed.names, formed.dependencies⟩

/-- Declaring makes a well-formed type. -/
theorem wellFormed_declare
    (name className : String) {steps : List Step} (formed : ∀ step ∈ steps, step.WellFormed) :
    (declare name className steps).WellFormed := by
  have folded : ∀ type : ObjectType, type.WellFormed → (steps.foldl apply type).WellFormed := by
    induction steps with
    | nil => exact fun _ formed => formed
    | cons step rest inductionHypothesis =>
        intro type typeFormed
        exact inductionHypothesis (fun other member => formed other (List.mem_cons_of_mem step member))
          _ (wellFormed_apply typeFormed (formed step List.mem_cons_self))
  exact folded _ ⟨List.nodup_nil, by simp⟩

theorem property?_of_mem
    {type : ObjectType} (distinct : (type.properties.map Property.name).Nodup) {property : Property}
    (member : property ∈ type.properties) :
    type.property? property.name = some property := by
  unfold property?
  cases found : type.properties.find? fun other => other.name = property.name with
  | none => exact absurd (by simp) (List.find?_eq_none.mp found property member)
  | some other =>
      have named : decide (other.name = property.name) = true := List.find?_some
        (p := fun other : Property => decide (other.name = property.name)) found
      have same := List.inj_on_of_nodup_map distinct (List.mem_of_find?_eq_some found)
        member (of_decide_eq_true named)
      rw [same]

end ObjectType

namespace Plan

variable {type : ObjectType}

/-! ## What has to be computed -/

/-- Everything that the named properties need is named and declared. -/
def Closed (type : ObjectType) (names : List String) : Prop :=
  ∀ name ∈ names, ∀ property, type.property? name = some property →
    ∀ dependency ∈ property.dependencies, isComputed property dependency = true →
      dependency.name ∈ names ∧ (type.property? dependency.name).isSome

theorem neededBy_eq_ok
    {property : Property} {dependencies : List Dependency} {needed : List String}
    (found : neededBy type property dependencies = .ok needed) {dependency : Dependency}
    (member : dependency ∈ dependencies) (computed : isComputed property dependency = true) :
    dependency.name ∈ needed ∧ (type.property? dependency.name).isSome := by
  induction dependencies generalizing needed with
  | nil => exact absurd member List.not_mem_nil
  | cons first rest inductionHypothesis =>
      unfold neededBy at found
      split at found
      · split at found
        · rename_i declared
          obtain ⟨others, later, listed⟩ := exists_of_bind_eq_ok found
          obtain rfl := Except.ok.inj listed
          rcases List.mem_cons.mp member with rfl | inRest
          · exact ⟨List.mem_cons_self, declared⟩
          · obtain ⟨required, known⟩ := inductionHypothesis later inRest
            exact ⟨List.mem_cons_of_mem _ required, known⟩
        · exact absurd found (by simp)
      · rename_i given
        rcases List.mem_cons.mp member with rfl | inRest
        · exact absurd computed given
        · exact inductionHypothesis found inRest

/-! The steps of reaching: the name on top of the stack is seen already, undeclared, or declared. -/

theorem reach_of_seen
    {seen stack : List String} {name : String} (known : name ∈ seen) :
    reach type seen (name :: stack) = reach type seen stack := by
  rw [reach, dif_pos known]

theorem reach_of_undeclared
    {seen stack : List String} {name : String} (fresh : name ∉ seen)
    (unknown : type.property? name = none) :
    reach type seen (name :: stack) = reach type seen stack := by
  rw [reach, dif_neg fresh]
  split
  · rfl
  · rename_i found
    exact absurd (unknown.symm.trans found) (by simp)

theorem reach_of_declared
    {seen stack : List String} {name : String} (fresh : name ∉ seen) {property : Property}
    (found : type.property? name = some property) :
    reach type seen (name :: stack) =
      (neededBy type property property.dependencies >>= fun needed =>
        reach type (name :: seen) (needed.reverse ++ stack)) := by
  rw [reach, dif_neg fresh]
  split
  · rename_i unknown
    exact absurd (found.symm.trans unknown) (by simp)
  · rename_i same
    obtain rfl := Option.some.inj (found.symm.trans same)
    cases neededBy type property property.dependencies <;> rfl

/-- The names that are reached: those seen before, those on the stack, and all they need. -/
theorem reach_eq_ok
    {seen stack result : List String} (reached : reach type seen stack = .ok result)
    (pending : ∀ name ∈ seen, ∀ property, type.property? name = some property →
      ∀ dependency ∈ property.dependencies, isComputed property dependency = true →
        (dependency.name ∈ seen ∨ dependency.name ∈ stack) ∧
          (type.property? dependency.name).isSome) :
    seen ⊆ result ∧ (∀ name ∈ stack, (type.property? name).isSome → name ∈ result) ∧
      Closed type result := by
  induction seen, stack using reach.induct type with
  | case1 seen =>
      rw [reach] at reached
      obtain rfl := Except.ok.inj reached
      refine ⟨List.Subset.refl seen, by simp, fun name member property found dependency listed
        computed => ?_⟩
      obtain ⟨here | there, known⟩ := pending name member property found dependency listed computed
      · exact ⟨here, known⟩
      · exact absurd there List.not_mem_nil
  | case2 seen name stack known inductionHypothesis =>
      rw [reach_of_seen known] at reached
      obtain ⟨kept, reachable, closed⟩ := inductionHypothesis reached (by
        intro other member property found dependency listed computed
        obtain ⟨here | there, declared⟩ :=
          pending other member property found dependency listed computed
        · exact ⟨Or.inl here, declared⟩
        · rcases List.mem_cons.mp there with rfl | later
          · exact ⟨Or.inl known, declared⟩
          · exact ⟨Or.inr later, declared⟩)
      refine ⟨kept, fun other member declared => ?_, closed⟩
      rcases List.mem_cons.mp member with rfl | later
      · exact kept known
      · exact reachable other later declared
  | case3 seen name stack fresh unknown inductionHypothesis =>
      rw [reach_of_undeclared fresh unknown] at reached
      obtain ⟨kept, reachable, closed⟩ := inductionHypothesis reached (by
        intro other member property found dependency listed computed
        obtain ⟨here | there, declared⟩ :=
          pending other member property found dependency listed computed
        · exact ⟨Or.inl here, declared⟩
        · rcases List.mem_cons.mp there with rfl | later
          · rw [unknown] at declared
            exact absurd declared (by simp)
          · exact ⟨Or.inr later, declared⟩)
      refine ⟨kept, fun other member declared => ?_, closed⟩
      rcases List.mem_cons.mp member with rfl | later
      · rw [unknown] at declared
        exact absurd declared (by simp)
      · exact reachable other later declared
  | case4 seen name stack fresh property found shorter needed neededEq inductionHypothesis =>
      rw [reach_of_declared fresh found, bind_of_eq_ok neededEq] at reached
      obtain ⟨kept, reachable, closed⟩ := inductionHypothesis reached (by
        intro other member another anotherFound dependency listed computed
        rcases List.mem_cons.mp member with rfl | earlier
        · obtain rfl := Option.some.inj (found.symm.trans anotherFound)
          obtain ⟨required, declared⟩ := neededBy_eq_ok neededEq listed computed
          exact ⟨Or.inr (List.mem_append_left _ (List.mem_reverse.mpr required)), declared⟩
        · obtain ⟨here | there, declared⟩ :=
            pending other earlier another anotherFound dependency listed computed
          · exact ⟨Or.inl (List.mem_cons_of_mem name here), declared⟩
          · rcases List.mem_cons.mp there with same | later
            · exact ⟨Or.inl (same ▸ List.mem_cons_self), declared⟩
            · exact ⟨Or.inr (List.mem_append_right _ later), declared⟩)
      refine ⟨fun other member => kept (List.mem_cons_of_mem name member),
        fun other member declared => ?_, closed⟩
      rcases List.mem_cons.mp member with rfl | later
      · exact kept List.mem_cons_self
      · exact reachable other (List.mem_append_right _ later) declared
  | case5 seen name stack fresh property found shorter error neededEq =>
      rw [reach_of_declared fresh found, neededEq] at reached
      exact absurd reached (by simp [bind, Except.bind])

theorem closure_eq_ok
    {roots : List Property} {names : List String} (found : closure type roots = .ok names) :
    Closed type names ∧
      ∀ root ∈ roots, (type.property? root.name).isSome → root.name ∈ names := by
  obtain ⟨_, reachable, closed⟩ := reach_eq_ok found (by simp)
  refine ⟨closed, fun root member declared => reachable root.name ?_ declared⟩
  exact List.mem_reverse.mpr (List.mem_map_of_mem member)

/-- Resolved names have a fixed meaning or are declared, and then their properties are listed. -/
theorem resolve_eq_ok
    {names : List String} {properties : List Property} (found : resolve type names = .ok properties)
    {name : String} (member : name ∈ names) :
    type.knows name = true ∧
      ∀ property, type.property? name = some property → property ∈ properties := by
  induction names generalizing properties with
  | nil => exact absurd member List.not_mem_nil
  | cons first rest inductionHypothesis =>
      unfold resolve at found
      split at found
      · rename_i known
        obtain ⟨others, later, listed⟩ := exists_of_bind_eq_ok found
        replace listed := Except.ok.inj listed
        cases declared : type.property? first with
        | none =>
            simp only [declared] at listed
            subst listed
            rcases List.mem_cons.mp member with rfl | inRest
            · exact ⟨known, fun property here => absurd (declared.symm.trans here) (by simp)⟩
            · exact inductionHypothesis later inRest
        | some property =>
            simp only [declared] at listed
            subst listed
            rcases List.mem_cons.mp member with rfl | inRest
            · refine ⟨known, fun other here => ?_⟩
              obtain rfl := Option.some.inj (declared.symm.trans here)
              exact List.mem_cons_self
            · obtain ⟨knownLater, present⟩ := inductionHypothesis later inRest
              refine ⟨knownLater, fun other here => ?_⟩
              by_cases same : other.name = property.name
              · obtain ⟨_, firstName⟩ := property?_eq_some declared
                obtain ⟨_, otherName⟩ := property?_eq_some here
                rw [← otherName, same, firstName, declared] at here
                obtain rfl := Option.some.inj here
                exact List.mem_cons_self
              · exact List.mem_cons_of_mem _
                  (List.mem_filter.mpr ⟨present other here, decide_eq_true same⟩)
      · exact absurd found (by simp)

theorem ordered_eq_ok
    (distinct : (type.properties.map Property.name).Nodup) {names : List String} {properties : List Property}
    (found : ordered type names = .ok properties) :
    properties.Pairwise Property.Precedes ∧
      ∀ property, property ∈ properties ↔
        property ∈ type.properties ∧ property.name ∈ names := by
  unfold ordered at found
  obtain ⟨order, orderEq, listed⟩ := exists_of_bind_eq_ok found
  obtain rfl := Except.ok.inj listed
  obtain ⟨precedes, perm⟩ := DependencyGraph.order_eq_ok
    (distinct.sublist (List.filter_sublist.map Property.name)) orderEq type.property?
    (fun property member => ObjectType.property?_of_mem distinct (List.mem_filter.mp member).1)
  refine ⟨precedes, fun property => ?_⟩
  rw [perm.mem_iff, List.mem_filter, List.contains_iff_mem]

/-! ## Compiled queries -/

/-- The names that have to be computed where some properties are mentioned. -/
def required (type : ObjectType) (references : List PropertyRef) :
    Except PlanError (List String) :=
  resolve type (references.map PropertyRef.name) >>= closure type

theorem required_eq_ok
    {references : List PropertyRef} {names : List String}
    (found : required type references = .ok names) :
    Closed type names ∧ ∀ reference ∈ references,
      Field.isFixed reference.name = true ∨
        reference.name ∈ names ∧ (type.property? reference.name).isSome := by
  obtain ⟨roots, resolved, reached⟩ := exists_of_bind_eq_ok found
  obtain ⟨closed, rooted⟩ := closure_eq_ok reached
  refine ⟨closed, fun reference member => ?_⟩
  obtain ⟨known, present⟩ := resolve_eq_ok resolved (List.mem_map_of_mem member)
  rcases Bool.or_eq_true_iff.mp known with fixed | declared
  · exact Or.inl fixed
  · refine Or.inr ⟨?_, declared⟩
    obtain ⟨property, found⟩ := Option.isSome_iff_exists.mp declared
    obtain ⟨_, named⟩ := property?_eq_some found
    rw [← named]
    exact rooted property (present property found) (by rw [named, found]; rfl)

/-- Nothing has to be computed where nothing is mentioned. -/
theorem required_nil (type : ObjectType) : required type [] = .ok [] := by
  have reached : closure type [] = .ok [] := by
    rw [closure, List.map_nil, List.reverse_nil, reach]
  exact reached

/-- What a plan is like that a query has been compiled to. -/
structure Compiled (query : Query) (plan : Plan) (predicateNames outputNames : List String)
    (before after : List Property) : Prop where
  stages : plan.stages =
    [.classFilter plan.type.className filterIndex] ++ before.map (projection plan.type) ++
      [.predicateFilter query.constraint plan.type.className filterIndex] ++
      after.map (projection plan.type) ++
      [.report
        { typeName := plan.type.name
          className := plan.type.className
          index := filterIndex
          fields := reportFields query.output }]
  predicates : required plan.type query.constraint.references = .ok predicateNames
  outputs : required plan.type query.output = .ok outputNames
  beforeOrdered : before.Pairwise Property.Precedes
  mem_before : ∀ property, property ∈ before ↔
    property ∈ plan.type.properties ∧ property.name ∈ predicateNames
  afterOrdered : after.Pairwise Property.Precedes
  mem_after : ∀ property, property ∈ after ↔
    property ∈ plan.type.properties ∧ property.name ∈ outputNames ∧
      property.name ∉ predicateNames

/-- The plan of a query for a type, with the properties that are computed before the predicate is
evaluated and those computed afterwards. -/
def planOf (query : Query) (type : ObjectType) (before after : List Property) : Plan where
  queryName := query.name
  type := type
  stages :=
    [.classFilter type.className filterIndex] ++ before.map (projection type) ++
      [.predicateFilter query.constraint type.className filterIndex] ++
      after.map (projection type) ++
      [.report
        { typeName := type.name
          className := type.className
          index := filterIndex
          fields := reportFields query.output }]

theorem property?_projections (type : ObjectType) (properties : List Property) :
    (properties.map (projection type)).filterMap PlanStage.property? = properties := by
  rw [List.filterMap_map]
  exact List.filterMap_some

/-- A query is compiled exactly if each step succeeds. -/
theorem compile_eq_ok_iff {query : Query} {plan : Plan} :
    compile query = .ok plan ↔
      ∃ type predicateNames outputNames before after,
        singleType query.constraint.types = .ok type ∧
          checkOutput type query.output = .ok () ∧
            required type query.constraint.references = .ok predicateNames ∧
              required type query.output = .ok outputNames ∧
                ordered type predicateNames = .ok before ∧
                  ordered type (outputNames.filter fun name => !predicateNames.contains name) =
                      .ok after ∧
                    plan = planOf query type before after := by
  constructor
  · intro compiled
    obtain ⟨type, single, compiled⟩ := exists_of_bind_eq_ok compiled
    obtain ⟨_, checked, compiled⟩ := exists_of_bind_eq_ok compiled
    obtain ⟨predicateRoots, predicateResolved, compiled⟩ := exists_of_bind_eq_ok compiled
    obtain ⟨outputRoots, outputResolved, compiled⟩ := exists_of_bind_eq_ok compiled
    obtain ⟨predicateNames, predicateReached, compiled⟩ := exists_of_bind_eq_ok compiled
    obtain ⟨outputNames, outputReached, compiled⟩ := exists_of_bind_eq_ok compiled
    obtain ⟨before, beforeEq, compiled⟩ := exists_of_bind_eq_ok compiled
    obtain ⟨after, afterEq, compiled⟩ := exists_of_bind_eq_ok compiled
    refine ⟨type, predicateNames, outputNames, before, after, single, checked, ?_, ?_, beforeEq,
      afterEq, (Except.ok.inj compiled).symm⟩
    · rw [required, predicateResolved]
      exact predicateReached
    · rw [required, outputResolved]
      exact outputReached
  · rintro ⟨type, predicateNames, outputNames, before, after, single, checked, predicates, outputs,
      beforeEq, afterEq, rfl⟩
    obtain ⟨predicateRoots, predicateResolved, predicateReached⟩ := exists_of_bind_eq_ok predicates
    obtain ⟨outputRoots, outputResolved, outputReached⟩ := exists_of_bind_eq_ok outputs
    unfold compile
    rw [bind_of_eq_ok single, bind_of_eq_ok checked, bind_of_eq_ok predicateResolved,
      bind_of_eq_ok outputResolved, bind_of_eq_ok predicateReached, bind_of_eq_ok outputReached,
      bind_of_eq_ok beforeEq, bind_of_eq_ok afterEq]
    rfl

/-- A plan is for the one type that the predicate mentions. -/
theorem singleType_of_compile {query : Query} {plan : Plan} (compiled : compile query = .ok plan) :
    singleType query.constraint.types = .ok plan.type := by
  obtain ⟨type, _, _, _, _, single, _, _, _, _, _, rfl⟩ := compile_eq_ok_iff.mp compiled
  exact single

theorem compiled_planOf
    {query : Query} {type : ObjectType} {predicateNames outputNames : List String}
    {before after : List Property} (distinct : (type.properties.map Property.name).Nodup)
    (predicates : required type query.constraint.references = .ok predicateNames)
    (outputs : required type query.output = .ok outputNames)
    (beforeEq : ordered type predicateNames = .ok before)
    (afterEq : ordered type (outputNames.filter fun name => !predicateNames.contains name) =
      .ok after) :
    Compiled query (planOf query type before after) predicateNames outputNames before after := by
  obtain ⟨beforeOrdered, memBefore⟩ := ordered_eq_ok distinct beforeEq
  obtain ⟨afterOrdered, memAfter⟩ := ordered_eq_ok distinct afterEq
  exact
    { stages := rfl
      predicates := predicates
      outputs := outputs
      beforeOrdered := beforeOrdered
      mem_before := memBefore
      afterOrdered := afterOrdered
      mem_after := fun property => by
        rw [memAfter, List.mem_filter]
        simp [planOf] }

theorem compile_eq_ok
    {query : Query} {plan : Plan} (compiled : compile query = .ok plan)
    (wellFormed : plan.type.WellFormed) :
    ∃ predicateNames outputNames before after,
      Compiled query plan predicateNames outputNames before after := by
  obtain ⟨type, predicateNames, outputNames, before, after, _, _, predicates, outputs, beforeEq,
    afterEq, rfl⟩ := compile_eq_ok_iff.mp compiled
  exact ⟨predicateNames, outputNames, before, after,
    compiled_planOf wellFormed.names predicates outputs beforeEq afterEq⟩

namespace Compiled

variable {query : Query} {plan : Plan} {predicateNames outputNames : List String}
  {before after : List Property}

theorem declared
    (compiled : Compiled query plan predicateNames outputNames before after) {property : Property}
    (member : property ∈ before ++ after) :
    property ∈ plan.type.properties := by
  rcases List.mem_append.mp member with early | late
  · exact ((compiled.mem_before property).mp early).1
  · exact ((compiled.mem_after property).mp late).1

/-- A dependency that is computed at all is computed by one of the properties of the plan, and for a
property that the predicate needs by one that the predicate needs. -/
theorem dependency
    (compiled : Compiled query plan predicateNames outputNames before after)
    (distinct : (plan.type.properties.map Property.name).Nodup) {property : Property}
    {dependency : Dependency}
    (listed : dependency ∈ property.dependencies)
    (computed : isComputed property dependency = true) :
    (property ∈ before → ∃ other ∈ before, other.name = dependency.name) ∧
      (property ∈ before ++ after → ∃ other ∈ before ++ after, other.name = dependency.name) := by
  have found (member : property ∈ plan.type.properties) :=
    ObjectType.property?_of_mem distinct member
  have early : property ∈ before → ∃ other ∈ before, other.name = dependency.name := by
    intro member
    obtain ⟨declared, named⟩ := (compiled.mem_before property).mp member
    obtain ⟨required, known⟩ := (required_eq_ok compiled.predicates).1 _ named property
      (found declared) dependency listed computed
    obtain ⟨other, otherFound⟩ := Option.isSome_iff_exists.mp known
    obtain ⟨otherDeclared, otherNamed⟩ := property?_eq_some otherFound
    exact ⟨other, (compiled.mem_before other).mpr ⟨otherDeclared, otherNamed ▸ required⟩,
      otherNamed⟩
  refine ⟨early, fun member => ?_⟩
  rcases List.mem_append.mp member with here | late
  · obtain ⟨other, otherMember, named⟩ := early here
    exact ⟨other, List.mem_append_left _ otherMember, named⟩
  · obtain ⟨declared, named, _⟩ := (compiled.mem_after property).mp late
    obtain ⟨required, known⟩ := (required_eq_ok compiled.outputs).1 _ named property
      (found declared) dependency listed computed
    obtain ⟨other, otherFound⟩ := Option.isSome_iff_exists.mp known
    obtain ⟨otherDeclared, otherNamed⟩ := property?_eq_some otherFound
    refine ⟨other, ?_, otherNamed⟩
    by_cases inPredicate : other.name ∈ predicateNames
    · exact List.mem_append_left _ ((compiled.mem_before other).mpr ⟨otherDeclared, inPredicate⟩)
    · exact List.mem_append_right _ ((compiled.mem_after other).mpr
        ⟨otherDeclared, otherNamed ▸ required, inPredicate⟩)

/-- No property is computed twice. -/
theorem nodup_names
    (compiled : Compiled query plan predicateNames outputNames before after) :
    ((before ++ after).map Property.name).Nodup := by
  refine List.pairwise_map.mpr (List.pairwise_append.mpr
    ⟨compiled.beforeOrdered.imp And.left, compiled.afterOrdered.imp And.left, ?_⟩)
  intro first early second late same
  have required := ((compiled.mem_before first).mp early).2
  exact ((compiled.mem_after second).mp late).2.2 (same ▸ required)

/-- No computed property reads one that is computed later. -/
theorem ordered
    (compiled : Compiled query plan predicateNames outputNames before after)
    (distinct : (plan.type.properties.map Property.name).Nodup)
    (free : ∀ property ∈ plan.type.properties, Field.isFixed property.name = false) :
    (before ++ after).Pairwise Property.Precedes := by
  refine List.pairwise_append.mpr ⟨compiled.beforeOrdered, compiled.afterOrdered, ?_⟩
  intro early earlyMember late lateMember
  obtain ⟨_, earlyNamed⟩ := (compiled.mem_before early).mp earlyMember
  obtain ⟨lateDeclared, _, lateUnnamed⟩ := (compiled.mem_after late).mp lateMember
  have apart : early.name ≠ late.name := fun same => lateUnnamed (same ▸ earlyNamed)
  refine ⟨apart, fun dependency listed same => ?_⟩
  have computed : isComputed early dependency = true := by
    unfold isComputed
    rw [same, free late lateDeclared]
    simp [Ne.symm apart]
  obtain ⟨other, otherMember, named⟩ :=
    (compiled.dependency distinct listed computed).1 earlyMember
  obtain ⟨_, otherNamed⟩ := (compiled.mem_before other).mp otherMember
  exact lateUnnamed (same ▸ named ▸ otherNamed)

/-- A query on all instances computes everything after the filter. -/
theorem before_of_isInstance
    {type : ObjectType} (compiled : Compiled { query with constraint := .isInstance type } plan
      predicateNames outputNames before after) :
    before = [] := by
  have nothing := compiled.predicates
  rw [show Predicate.references (.isInstance type) = [] from rfl, required_nil] at nothing
  obtain rfl := Except.ok.inj nothing
  refine List.eq_nil_iff_forall_not_mem.mpr fun property member => ?_
  exact absurd ((compiled.mem_before property).mp member).2 List.not_mem_nil

theorem mem_reportFields
    {output : List PropertyRef} {field : String} (reported : field ∈ reportFields output) :
    Field.isFixed field = true ∨ ∃ reference ∈ output, reference.name = field := by
  have folded : ∀ (output : List PropertyRef) (names : List String),
      field ∈ output.foldl (fun names reference =>
        if names.contains reference.name then names else names ++ [reference.name]) names →
          field ∈ names ∨ ∃ reference ∈ output, reference.name = field := by
    intro output
    induction output with
    | nil => exact fun names member => Or.inl member
    | cons reference rest inductionHypothesis =>
        intro names member
        rcases inductionHypothesis _ member with here | ⟨other, listed, named⟩
        · simp only at here
          split at here
          · exact Or.inl here
          · rcases List.mem_append.mp here with old | new
            · exact Or.inl old
            · exact Or.inr ⟨reference, List.mem_cons_self, (List.mem_singleton.mp new).symm⟩
        · exact Or.inr ⟨other, List.mem_cons_of_mem reference listed, named⟩
  unfold reportFields at reported
  simp only at reported
  split at reported
  · have fixed : ∀ name ∈ defaultFields, Field.isFixed name = true := by decide
    exact Or.inl (fixed field reported)
  · exact Or.inr ((folded output [] reported).resolve_left List.not_mem_nil)

/-- What the predicate reads has a fixed meaning or is computed before it is evaluated. -/
theorem fixed_or_mem_of_read
    (compiled : Compiled query plan predicateNames outputNames before after) {reference : PropertyRef}
    (read : reference ∈ query.constraint.references) :
    Field.isFixed reference.name = true ∨ ∃ property ∈ before, property.name = reference.name := by
  rcases (required_eq_ok compiled.predicates).2 reference read with fixed | ⟨named, known⟩
  · exact Or.inl fixed
  · obtain ⟨property, found⟩ := Option.isSome_iff_exists.mp known
    obtain ⟨declared, same⟩ := property?_eq_some found
    exact Or.inr ⟨property, (compiled.mem_before property).mpr ⟨declared, same ▸ named⟩, same⟩

/-- A reported field has a fixed meaning or is computed. -/
theorem fixed_or_mem_of_reported
    (compiled : Compiled query plan predicateNames outputNames before after) {field : String}
    (reported : field ∈ reportFields query.output) :
    Field.isFixed field = true ∨ ∃ property ∈ before ++ after, property.name = field := by
  rcases mem_reportFields reported with fixed | ⟨reference, listed, rfl⟩
  · exact Or.inl fixed
  rcases (required_eq_ok compiled.outputs).2 reference listed with fixed | ⟨named, known⟩
  · exact Or.inl fixed
  obtain ⟨property, found⟩ := Option.isSome_iff_exists.mp known
  obtain ⟨declared, same⟩ := property?_eq_some found
  refine Or.inr ⟨property, ?_, same⟩
  rw [← same] at named
  by_cases early : property.name ∈ predicateNames
  · exact List.mem_append_left _ ((compiled.mem_before property).mpr ⟨declared, early⟩)
  · exact List.mem_append_right _ ((compiled.mem_after property).mpr ⟨declared, named, early⟩)

end Compiled

end Plan

end ObjectQuery
