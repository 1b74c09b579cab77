import ObjectQuery.Proofs.Plan.Reach
import ObjectQuery.Proofs.Predicate.Mentions

/-!
# Types declared anew

`mapTypes` puts other types in place of those that a query mentions. Where a type is declared anew with
other properties, but with the same ones under the names that are reached, a query is compiled to the
same plan, or refused for the same reason (`compile_redeclared`).
-/

namespace ObjectQuery

/-! ## Other types in a query -/

def PropertyRef.mapType (f : ObjectType → ObjectType) (reference : PropertyRef) : PropertyRef :=
  ⟨f reference.owner, reference.name⟩

def Operand.mapTypes (f : ObjectType → ObjectType) : Operand → Operand
  | .property reference => .property (reference.mapType f)
  | .literal value => .literal value

namespace Predicate

def mapTypes (f : ObjectType → ObjectType) : Predicate → Predicate
  | .isInstance type => .isInstance (f type)
  | .and left right => .and (mapTypes f left) (mapTypes f right)
  | .or left right => .or (mapTypes f left) (mapTypes f right)
  | .not inner => .not (mapTypes f inner)
  | .equal left right => .equal (left.mapTypes f) (right.mapTypes f)
  | .greater left right => .greater (left.mapTypes f) (right.mapTypes f)
  | .test reference holds => .test (reference.mapType f) holds

end Predicate

def Query.mapTypes (f : ObjectType → ObjectType) (query : Query) : Query where
  name := query.name
  constraint := query.constraint.mapTypes f
  output := query.output.map (PropertyRef.mapType f)

def PlanStage.mapTypes (f : ObjectType → ObjectType) : PlanStage → PlanStage
  | .classFilter className index => .classFilter className index
  | .project spec => .project spec
  | .predicateFilter predicate className index =>
    .predicateFilter (predicate.mapTypes f) className index
  | .report spec => .report spec

def Plan.mapTypes (f : ObjectType → ObjectType) (plan : Plan) : Plan where
  queryName := plan.queryName
  type := f plan.type
  stages := plan.stages.map (PlanStage.mapTypes f)

variable {f : ObjectType → ObjectType}

theorem names_mapType (references : List PropertyRef) :
    (references.map (PropertyRef.mapType f)).map PropertyRef.name =
      references.map PropertyRef.name := by
  rw [List.map_map]
  rfl

theorem owners_mapType (references : List PropertyRef) :
    (references.map (PropertyRef.mapType f)).map PropertyRef.owner =
      (references.map PropertyRef.owner).map f := by
  rw [List.map_map, List.map_map]
  rfl

namespace Predicate

theorem operands_mapTypes (left right : Operand) :
    [left.mapTypes f, right.mapTypes f].filterMap Operand.reference? =
      ([left, right].filterMap Operand.reference?).map (PropertyRef.mapType f) := by
  cases left <;> cases right <;> rfl

theorem references_mapTypes (predicate : Predicate) :
    (predicate.mapTypes f).references =
      predicate.references.map (PropertyRef.mapType f) := by
  induction predicate with
  | isInstance type => rfl
  | and left right leftHypothesis rightHypothesis =>
      simp only [mapTypes, references, leftHypothesis, rightHypothesis, List.map_append]
  | or left right leftHypothesis rightHypothesis =>
      simp only [mapTypes, references, leftHypothesis, rightHypothesis, List.map_append]
  | not inner inductionHypothesis => exact inductionHypothesis
  | equal left right => exact operands_mapTypes left right
  | greater left right => exact operands_mapTypes left right
  | test reference holds => rfl

theorem instanceTypes_mapTypes (predicate : Predicate) :
    (predicate.mapTypes f).instanceTypes = predicate.instanceTypes.map f := by
  induction predicate with
  | and left right leftHypothesis rightHypothesis =>
      simp only [mapTypes, instanceTypes, leftHypothesis, rightHypothesis, List.map_append]
  | or left right leftHypothesis rightHypothesis =>
      simp only [mapTypes, instanceTypes, leftHypothesis, rightHypothesis, List.map_append]
  | not inner inductionHypothesis => exact inductionHypothesis
  | isInstance type => rfl
  | equal left right => rfl
  | greater left right => rfl
  | test reference holds => rfl

theorem mentions_mapTypes (predicate : Predicate) :
    (predicate.mapTypes f).mentions = predicate.mentions.map f := by
  unfold mentions
  rw [instanceTypes_mapTypes, references_mapTypes, owners_mapType, List.map_append]

section Named

variable (named : ∀ type, (f type).name = type.name)

include named

theorem addType_map (types : List ObjectType) (type : ObjectType) :
    addType (types.map f) (f type) = (addType types type).map f := by
  have present : ((types.map f).any fun other => other.name == (f type).name) =
      types.any fun other => other.name == type.name := by
    rw [List.any_map]
    congr 1
    funext other
    simp only [Function.comp_apply, named]
  unfold addType
  rw [present]
  split
  · rfl
  · rw [List.map_append]
    rfl

theorem types_mapTypes (predicate : Predicate) :
    (predicate.mapTypes f).types = predicate.types.map f := by
  have folded : ∀ mentions types : List ObjectType,
      (mentions.map f).foldl addType (types.map f) = (mentions.foldl addType types).map f := by
    intro mentions
    induction mentions with
    | nil =>
        intro types
        rfl
    | cons first rest inductionHypothesis =>
        intro types
        rw [List.map_cons, List.foldl_cons, List.foldl_cons, addType_map named]
        exact inductionHypothesis (addType types first)
  rw [types_eq_foldl, types_eq_foldl, mentions_mapTypes]
  exact folded predicate.mentions []

end Named

end Predicate

namespace Plan

/-! ## Types alike in what is reached -/

open Classical in
/-- Those of some properties whose names are reached. -/
noncomputable def reachedOf (type : ObjectType) (names : List String) (properties : List Property) :
    List Property :=
  properties.filter fun property => type.Reached names property.name

/-- Another type with the same name and class, and with the same properties in the same order as far
as they are reached from some names. -/
structure Alike (type other : ObjectType) (names : List String) : Prop where
  name : other.name = type.name
  className : other.className = type.className
  properties : reachedOf type names other.properties = reachedOf type names type.properties

theorem Alike.refl (type : ObjectType) (names : List String) : Alike type type names :=
  ⟨rfl, rfl, rfl⟩

variable {type other : ObjectType} {names : List String}

theorem Alike.property?_eq
    (alike : Alike type other names) {name : String} (reached : type.Reached names name) :
    other.property? name = type.property? name := by
  have narrowed : ∀ properties : List Property,
      properties.find? (fun property => property.name = name) =
        (reachedOf type names properties).find? fun property => property.name = name := by
    intro properties
    unfold reachedOf
    rw [List.find?_filter]
    congr 1
    funext property
    by_cases same : property.name = name
    · simp [same, reached]
    · simp [same]
  change other.properties.find? _ = type.properties.find? _
  rw [narrowed other.properties, narrowed type.properties, alike.properties]

theorem Alike.members_eq
    (alike : Alike type other names) {members : List String}
    (reached : ∀ name ∈ members, type.Reached names name) :
    (other.properties.filter fun property => members.contains property.name) =
      type.properties.filter fun property => members.contains property.name := by
  have narrowed : ∀ properties : List Property,
      (properties.filter fun property => members.contains property.name) =
        (reachedOf type names properties).filter fun property => members.contains property.name := by
    intro properties
    unfold reachedOf
    rw [List.filter_filter]
    congr 1
    funext property
    by_cases member : property.name ∈ members
    · simp [member, reached property.name member]
    · simp [member]
  rw [narrowed other.properties, narrowed type.properties, alike.properties]

theorem Alike.resolve_eq
    (alike : Alike type other names) {mentioned : List String} (inside : mentioned ⊆ names) :
    resolve other mentioned = resolve type mentioned := by
  induction mentioned with
  | nil => rfl
  | cons first rest inductionHypothesis =>
      have root : type.Reached names first :=
        ObjectType.Reached.of_mem (inside List.mem_cons_self)
      have here := alike.property?_eq root
      have later := inductionHypothesis fun name member => inside (List.mem_cons_of_mem first member)
      unfold resolve ObjectType.knows
      rw [here, later, alike.name]

theorem Alike.neededBy_eq
    (alike : Alike type other names) {property : Property} {dependencies : List Dependency}
    (reached : ∀ dependency ∈ dependencies, type.Reached names dependency.name) :
    neededBy other property dependencies = neededBy type property dependencies := by
  induction dependencies with
  | nil => rfl
  | cons first rest inductionHypothesis =>
      have here := alike.property?_eq (reached first List.mem_cons_self)
      have later := inductionHypothesis fun dependency member =>
        reached dependency (List.mem_cons_of_mem first member)
      unfold neededBy
      rw [here, later]

theorem Alike.reach_of_declared
    (alike : Alike type other names) {seen stack : List String} {name : String}
    (fresh : name ∉ seen) {property : Property} (declared : type.property? name = some property)
    (reached : type.Reached names name) :
    reach other seen (name :: stack) =
      (neededBy type property property.dependencies >>= fun needed =>
        reach other (name :: seen) (needed.reverse ++ stack)) := by
  have needs : neededBy other property property.dependencies =
      neededBy type property property.dependencies := by
    apply alike.neededBy_eq
    intro dependency listed
    exact reached.read (ObjectType.reads_of_property? declared listed)
  rw [Plan.reach_of_declared fresh ((alike.property?_eq reached).trans declared), needs]

theorem Alike.reach_eq
    (alike : Alike type other names) {seen stack : List String}
    (reached : ∀ name, type.Reached stack name → type.Reached names name) :
    reach other seen stack = reach type seen stack := by
  have top : ∀ {name : String} {rest : List String}, type.Reached (name :: rest) name :=
    ObjectType.Reached.of_mem List.mem_cons_self
  induction seen, stack using reach.induct type with
  | case1 seen => rw [reach, reach]
  | case2 seen first stack known inductionHypothesis =>
      rw [reach_of_seen known, reach_of_seen known]
      apply inductionHypothesis
      intro name later
      exact reached name (later.mono (List.subset_cons_self first stack))
  | case3 seen first stack fresh unknown inductionHypothesis =>
      have absent := (alike.property?_eq (reached first top)).trans unknown
      rw [reach_of_undeclared fresh unknown, reach_of_undeclared fresh absent]
      apply inductionHypothesis
      intro name later
      exact reached name (later.mono (List.subset_cons_self first stack))
  | case4 seen first stack fresh property declared shorter needed neededEq inductionHypothesis =>
      rw [alike.reach_of_declared fresh declared (reached first top),
        Plan.reach_of_declared fresh declared, bind_of_eq_ok neededEq, bind_of_eq_ok neededEq]
      apply inductionHypothesis
      intro name later
      exact reached name (reached_of_needed declared neededEq later)
  | case5 seen first stack fresh property declared shorter error failed =>
      rw [alike.reach_of_declared fresh declared (reached first top),
        Plan.reach_of_declared fresh declared, failed]
      rfl

theorem Alike.closure_eq
    (alike : Alike type other names) {roots : List Property}
    (inside : ∀ root ∈ roots, root.name ∈ names) :
    closure other roots = closure type roots := by
  apply alike.reach_eq
  intro name reached
  apply reached.mono
  intro root member
  obtain ⟨property, listed, rfl⟩ := List.mem_map.mp (List.mem_reverse.mp member)
  exact inside property listed

theorem name_mem_of_order
    {properties : List Property} {order : List String}
    (ordered : (DependencyGraph.ofProperties properties).order = .ok order) :
    ∀ name ∈ order, name ∈ properties.map Property.name := by
  obtain ⟨placed, rfl, perm, _⟩ := DependencyGraph.place_of_order ordered
  intro name member
  rw [← DependencyGraph.names_nodes]
  exact (perm.map DependencyNode.name).subset member

theorem bind_congr_of_ok {ε β γ : Type} {first : Except ε β} {next after : β → Except ε γ}
    (same : ∀ value, first = .ok value → next value = after value) :
    (first >>= next) = (first >>= after) := by
  cases first with
  | error error => rfl
  | ok value => exact same value rfl

theorem Alike.ordered_eq
    (alike : Alike type other names) {members : List String}
    (reached : ∀ name ∈ members, type.Reached names name) :
    ordered other members = ordered type members := by
  unfold ordered
  rw [alike.members_eq reached]
  apply bind_congr_of_ok
  intro order ordered
  have found : order.filterMap other.property? = order.filterMap type.property? := by
    apply List.filterMap_congr
    intro name member
    obtain ⟨property, listed, rfl⟩ := List.mem_map.mp (name_mem_of_order ordered name member)
    apply alike.property?_eq
    exact reached property.name (List.contains_iff_mem.mp (List.mem_filter.mp listed).2)
  rw [found]

/-! ## Compiling for another type -/

/-- The plan of a query for a type. -/
def compileFor (query : Query) (type : ObjectType) : Except PlanError Plan := do
  checkOutput type query.output
  let predicateRoots ← resolve type (query.constraint.references.map PropertyRef.name)
  let outputRoots ← resolve type (query.output.map PropertyRef.name)
  let predicateNames ← closure type predicateRoots
  let outputNames ← closure type outputRoots
  let before ← ordered type predicateNames
  let after ← ordered type (outputNames.filter fun name => !predicateNames.contains name)
  return planOf query type before after

theorem compile_eq_compileFor (query : Query) :
    compile query = singleType query.constraint.types >>= compileFor query := rfl

theorem map_bind_of_ok {ε β γ δ : Type} {first : Except ε β} {next : β → Except ε γ}
    {after : β → Except ε δ} {change : γ → δ}
    (same : ∀ value, first = .ok value → after value = (next value).map change) :
    (first >>= after) = (first >>= next).map change := by
  cases first with
  | error error => rfl
  | ok value => exact same value rfl

/-- The names that a query refers to, in its predicate and in its output. -/
def referenced (query : Query) : List String :=
  query.constraint.references.map PropertyRef.name ++ query.output.map PropertyRef.name

theorem checkOutput_mapTypes
    (named : ∀ type, (f type).name = type.name) (type : ObjectType) (output : List PropertyRef) :
    checkOutput (f type) (output.map (PropertyRef.mapType f)) = checkOutput type output := by
  induction output with
  | nil => rfl
  | cons reference rest inductionHypothesis =>
      rw [List.map_cons, checkOutput, checkOutput, inductionHypothesis]
      simp only [PropertyRef.mapType, named]

theorem reportFields_mapType (output : List PropertyRef) :
    reportFields (output.map (PropertyRef.mapType f)) = reportFields output := by
  unfold reportFields
  rw [List.foldl_map]
  rfl

theorem planOf_mapTypes
    (query : Query) (type : ObjectType) (before after : List Property)
    (named : (f type).name = type.name) (classNamed : (f type).className = type.className) :
    planOf (query.mapTypes f) (f type) before after =
      (planOf query type before after).mapTypes f := by
  have projections : ∀ properties : List Property,
      (properties.map (projection type)).map (PlanStage.mapTypes f) =
        properties.map (projection (f type)) := by
    intro properties
    rw [List.map_map]
    apply List.map_congr_left
    intro property _
    simp only [Function.comp_apply, projection, PlanStage.mapTypes, classNamed]
  simp only [planOf, Plan.mapTypes, Query.mapTypes, List.map_append, projections, List.map_cons,
    List.map_nil, PlanStage.mapTypes, reportFields_mapType, named, classNamed]

theorem compileFor_mapTypes
    {query : Query} (named : ∀ type, (f type).name = type.name)
    (alike : Alike type (f type) (referenced query)) :
    compileFor (query.mapTypes f) (f type) = (compileFor query type).map (Plan.mapTypes f) := by
  have predicateNames : (query.mapTypes f).constraint.references.map PropertyRef.name =
      query.constraint.references.map PropertyRef.name := by
    change ((query.constraint.mapTypes f).references).map PropertyRef.name = _
    rw [Predicate.references_mapTypes, names_mapType]
  have outputNames : (query.mapTypes f).output.map PropertyRef.name =
      query.output.map PropertyRef.name := names_mapType query.output
  have reached : ∀ {roots : List Property} {found : List String},
      (∀ root ∈ roots, root.name ∈ referenced query) → closure type roots = .ok found →
        ∀ name ∈ found, type.Reached (referenced query) name := by
    intro roots found inside search name member
    rcases reached_of_reach search name member with seen | ⟨⟨root, rootMember, path⟩, _⟩
    · exact absurd seen List.not_mem_nil
    · obtain ⟨property, listed, rfl⟩ := List.mem_map.mp (List.mem_reverse.mp rootMember)
      exact ⟨property.name, inside property listed, path⟩
  unfold compileFor
  rw [predicateNames, outputNames, alike.resolve_eq (List.subset_append_left _ _),
    alike.resolve_eq (List.subset_append_right _ _)]
  change (checkOutput (f type) (query.output.map (PropertyRef.mapType f)) >>= _) = _
  rw [checkOutput_mapTypes named]
  refine map_bind_of_ok fun _ _ => ?_
  refine map_bind_of_ok fun predicateRoots predicateResolved => ?_
  refine map_bind_of_ok fun outputRoots outputResolved => ?_
  have predicateInside : ∀ root ∈ predicateRoots, root.name ∈ referenced query := by
    intro root member
    exact List.mem_append_left _ (name_mem_of_resolve predicateResolved root member)
  have outputInside : ∀ root ∈ outputRoots, root.name ∈ referenced query := by
    intro root member
    exact List.mem_append_right _ (name_mem_of_resolve outputResolved root member)
  rw [alike.closure_eq predicateInside]
  refine map_bind_of_ok fun predicateNames predicateFound => ?_
  rw [alike.closure_eq outputInside]
  refine map_bind_of_ok fun outputNames outputFound => ?_
  rw [alike.ordered_eq (reached predicateInside predicateFound)]
  refine map_bind_of_ok fun before _ => ?_
  rw [alike.ordered_eq fun name member =>
    reached outputInside outputFound name (List.mem_filter.mp member).1]
  refine map_bind_of_ok fun after _ => ?_
  exact congrArg Except.ok (planOf_mapTypes query type before after (named type) alike.className)

end Plan

namespace ObjectType

/-- The type, if it bears a name, with other properties. -/
def redeclared (name : String) (properties : List Property) (type : ObjectType) : ObjectType :=
  if type.name = name then { type with properties := properties } else type

theorem name_redeclared (name : String) (properties : List Property) (type : ObjectType) :
    (redeclared name properties type).name = type.name := by
  unfold redeclared
  split <;> rfl

end ObjectType

namespace Plan

theorem singleType_map (f : ObjectType → ObjectType) (named : ∀ type, (f type).name = type.name)
    (types : List ObjectType) :
    singleType (types.map f) = (singleType types).map f := by
  match types with
  | [] => rfl
  | [only] => rfl
  | first :: second :: rest =>
      have names : ((first :: second :: rest).map f).map ObjectType.name =
          (first :: second :: rest).map ObjectType.name := by
        rw [List.map_map]
        exact List.map_congr_left fun type _ => named type
      exact congrArg (fun names => Except.error (PlanError.multipleTypes names)) names

/-- Declaring a type anew makes no difference to a query as long as the properties that it reaches are
the same in the same order. -/
theorem compile_redeclared
    {type : ObjectType} {query : Query}
    (own : ∀ mention ∈ query.constraint.mentions, mention.name = type.name → mention = type)
    {properties : List Property}
    (same : reachedOf type (referenced query) properties =
      reachedOf type (referenced query) type.properties) :
    compile (query.mapTypes (ObjectType.redeclared type.name properties)) =
      (compile query).map (Plan.mapTypes (ObjectType.redeclared type.name properties)) := by
  have named := ObjectType.name_redeclared type.name properties
  rw [compile_eq_compileFor, compile_eq_compileFor]
  change (singleType (query.constraint.mapTypes _).types >>= _) = _
  rw [Predicate.types_mapTypes named, singleType_map _ named]
  cases single : singleType query.constraint.types with
  | error error => rfl
  | ok found =>
      change compileFor _ (ObjectType.redeclared type.name properties found) =
        (compileFor query found).map _
      apply compileFor_mapTypes named
      by_cases here : found.name = type.name
      · obtain rfl := own found (mentions_of_singleType single).1 here
        rw [ObjectType.redeclared, if_pos rfl]
        exact ⟨rfl, rfl, same⟩
      · rw [ObjectType.redeclared, if_neg here]
        exact Alike.refl found (referenced query)

end Plan

end ObjectQuery
