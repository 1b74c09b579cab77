import ObjectQuery.Plan.Basic
import ObjectQuery.Plan.Dependency
import ObjectQuery.Query
/-!
# From query to plan

A query is compiled against the one type of object that its predicate mentions. The properties that
the predicate needs, directly or through other properties, are computed before it is evaluated; what
only the output needs is computed afterwards, for the objects that are left.
-/

namespace ObjectQuery

namespace Plan

/-- The index under which the stages of a plan list objects. -/
def filterIndex : Nat := 0

/-- What is reported by a query that lists no output. -/
def defaultFields : List String := [Field.trackId, Field.box]

def singleType : List ObjectType → Except PlanError ObjectType
  | [] => .error .noType
  | [only] => .ok only
  | many => .error (.multipleTypes (many.map ObjectType.name))

/-- Every output has to be of the type of the predicate. -/
def checkOutput (type : ObjectType) : List PropertyRef → Except PlanError Unit
  | [] => .ok ()
  | reference :: rest =>
    if reference.owner.name = type.name then checkOutput type rest
    else .error (.multipleTypes [type.name, reference.owner.name])

/-- The declared properties among the given names, all of which have to be known; each where its name
first stands. -/
def resolve (type : ObjectType) : List String → Except PlanError (List Property)
  | [] => .ok []
  | name :: rest =>
    if type.knows name then do
      let properties ← resolve type rest
      return match type.property? name with
        | some property => property :: properties.filter fun later => later.name ≠ property.name
        | none => properties
    else .error (.unknownProperty type.name name)

/-! ## What a property needs -/

/-- Whether a dependency has to be computed before the property that has it. -/
def isComputed (property : Property) (dependency : Dependency) : Bool :=
  dependency.name ≠ property.name && !Field.isFixed dependency.name

/-- The declared properties that a property depends on. -/
def neededBy (type : ObjectType) (property : Property) :
    List Dependency → Except PlanError (List String)
  | [] => .ok []
  | dependency :: rest =>
    if isComputed property dependency then
      if (type.property? dependency.name).isSome then do
        let others ← neededBy type property rest
        return dependency.name :: others
      else .error (.unknownDependency property.name dependency.name)
    else neededBy type property rest

/-- The declared properties that are not among the given names. -/
def unseen (type : ObjectType) (seen : List String) : List Property :=
  type.properties.filter fun property => !seen.contains property.name

theorem unseen_cons_lt {type : ObjectType} {seen : List String} {property : Property}
    (member : property ∈ type.properties) (fresh : property.name ∉ seen) :
    (unseen type (property.name :: seen)).length < (unseen type seen).length := by
  unfold unseen
  revert member
  generalize type.properties = properties
  intro member
  have mono : ∀ items : List Property,
      (items.filter fun p => !(property.name :: seen).contains p.name).length ≤
        (items.filter fun p => !seen.contains p.name).length := by
    intro items
    induction items with
    | nil => simp
    | cons item rest ih =>
      by_cases known : item.name ∈ seen
      · simpa [known] using ih
      · by_cases own : item.name = property.name
        · simp [own, fresh] at ih ⊢
          omega
        · simpa [known, own] using ih
  induction properties with
  | nil => simp at member
  | cons item rest ih =>
    rcases List.mem_cons.mp member with here | later
    · subst here
      have := mono rest
      simp [fresh] at this ⊢
      omega
    · have := ih later
      by_cases known : item.name ∈ seen
      · simpa [known] using this
      · by_cases own : item.name = property.name
        · simp [own, fresh] at this ⊢
          omega
        · simpa [known, own] using this

/-- A property that is found by its name is declared and bears the name. -/
theorem property?_eq_some {type : ObjectType} {name : String} {property : Property}
    (found : type.property? name = some property) :
    property ∈ type.properties ∧ property.name = name :=
  ⟨List.mem_of_find?_eq_some found, by simpa using List.find?_some found⟩

/-- The names of all declared properties that are reachable from those on a stack, the top of the
stack first. -/
def reach (type : ObjectType) (seen : List String) : List String → Except PlanError (List String)
  | [] => .ok seen
  | name :: stack =>
    if known : name ∈ seen then reach type seen stack
    else
      match found : type.property? name with
      | none => reach type seen stack
      | some property =>
        have : (unseen type (name :: seen)).length < (unseen type seen).length := by
          obtain ⟨member, named⟩ := property?_eq_some found
          exact named ▸ unseen_cons_lt member (named ▸ known)
        match neededBy type property property.dependencies with
        | .ok needed => reach type (name :: seen) (needed.reverse ++ stack)
        | .error error => .error error
termination_by stack => ((unseen type seen).length, stack.length)

/-- The names of all declared properties that are reachable from the given ones. -/
def closure (type : ObjectType) (roots : List Property) : Except PlanError (List String) :=
  reach type [] (roots.map Property.name).reverse

/-- The properties of the given names, each after those it needs, ties in the order of declaration. -/
def ordered (type : ObjectType) (names : List String) : Except PlanError (List Property) := do
  let members := type.properties.filter fun property => names.contains property.name
  let order ← (DependencyGraph.ofProperties members).order
  return order.filterMap type.property?

/-! ## Compiling -/

def projection (type : ObjectType) (property : Property) : PlanStage :=
  .project
    { property := property
      className := type.className
      index := filterIndex
      historyLength := property.maxWindow
      selfDependent := property.isSelfDependent }

/-- The names that are reported, each once. -/
def reportFields (output : List PropertyRef) : List String :=
  let names := output.foldl (fun names reference =>
    if names.contains reference.name then names else names ++ [reference.name]) []
  if names.isEmpty then defaultFields else names

/-- The plan of a query, or why there is none. -/
def compile (query : Query) : Except PlanError Plan := do
  let type ← singleType query.constraint.types
  checkOutput type query.output
  let predicateRoots ← resolve type (query.constraint.references.map PropertyRef.name)
  let outputRoots ← resolve type (query.output.map PropertyRef.name)
  let predicateNames ← closure type predicateRoots
  let outputNames ← closure type outputRoots
  let before ← ordered type predicateNames
  let after ← ordered type (outputNames.filter fun name => !predicateNames.contains name)
  return {
    queryName := query.name
    type := type
    stages :=
      [.classFilter type.className filterIndex] ++ before.map (projection type) ++
        [.predicateFilter query.constraint type.className filterIndex] ++
        after.map (projection type) ++
        [.report
          { typeName := type.name
            className := type.className
            index := filterIndex
            fields := reportFields query.output }] }

end Plan

end ObjectQuery
