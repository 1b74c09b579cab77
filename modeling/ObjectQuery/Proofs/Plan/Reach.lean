import ObjectQuery.Proofs.Plan.Compile
import ObjectQuery.Proofs.Plan.Cycle

/-!
# What a query reaches

A name is reached if it is referenced or if a declared property of a reached name reads it. The search
over a stack of names finds the declared ones among them, and it fails only where a name that is reached
is neither declared nor fixed (`required_isOk_iff`, `mem_required_iff`).
-/

namespace ObjectQuery

open Relation

/-- Reached from some names by way of what declared properties read. -/
def ObjectType.Reached (type : ObjectType) (names : List String) (name : String) : Prop :=
  ∃ root ∈ names, ReflTransGen (Property.Reads type.properties) root name

namespace ObjectType

variable {type : ObjectType}

theorem Reached.of_mem {names : List String} {name : String} (member : name ∈ names) :
    type.Reached names name :=
  ⟨name, member, ReflTransGen.refl⟩

theorem Reached.read
    {names : List String} {name other : String} (reached : type.Reached names name)
    (reads : Property.Reads type.properties name other) :
    type.Reached names other := by
  obtain ⟨root, member, path⟩ := reached
  exact ⟨root, member, path.tail reads⟩

/-- What holds of the names themselves and of what declared properties read holds wherever one gets. -/
theorem Reached.induction
    {names : List String} {motive : String → Prop} (roots : ∀ name ∈ names, motive name)
    (step : ∀ name other, type.Reached names name → motive name →
      Property.Reads type.properties name other → motive other)
    {name : String} (reached : type.Reached names name) : motive name := by
  obtain ⟨root, member, path⟩ := reached
  induction path with
  | refl => exact roots root member
  | tail path reads inductionHypothesis =>
      exact step _ _ ⟨root, member, path⟩ inductionHypothesis reads

theorem Reached.mono
    {names others : List String} (inside : names ⊆ others) {name : String}
    (reached : type.Reached names name) : type.Reached others name := by
  obtain ⟨root, member, path⟩ := reached
  exact ⟨root, inside member, path⟩

theorem isSome_property?_of_mem {property : Property} (member : property ∈ type.properties) :
    (type.property? property.name).isSome := by
  unfold property?
  rw [List.find?_isSome]
  exact ⟨property, member, decide_eq_true rfl⟩

theorem isSome_property?_of_reads
    {name other : String} (reads : Property.Reads type.properties name other) :
    (type.property? name).isSome := by
  obtain ⟨property, member, rfl, _⟩ := reads
  exact isSome_property?_of_mem member

theorem reads_of_property?
    {name : String} {property : Property} (found : type.property? name = some property)
    {dependency : Dependency} (listed : dependency ∈ property.dependencies) :
    Property.Reads type.properties name dependency.name := by
  obtain ⟨member, named⟩ := Plan.property?_eq_some found
  exact ⟨property, member, named, dependency, listed, rfl⟩

/-- Where no name is declared twice, what is read under a name is what its property reads. -/
theorem exists_dependency_of_reads
    (distinct : (type.properties.map Property.name).Nodup) {name other : String}
    (reads : Property.Reads type.properties name other) {property : Property}
    (found : type.property? name = some property) :
    ∃ dependency ∈ property.dependencies, dependency.name = other := by
  obtain ⟨declared, member, rfl, dependency, listed, named⟩ := reads
  rw [property?_of_mem distinct member] at found
  obtain rfl := Option.some.inj found
  exact ⟨dependency, listed, named⟩

end ObjectType

namespace Plan

variable {type : ObjectType}

/-! ## What one property needs -/

theorem isComputed_eq_false
    {property : Property} {dependency : Dependency} (given : isComputed property dependency = false) :
    dependency.name = property.name ∨ Field.isFixed dependency.name = true := by
  by_cases own : dependency.name = property.name
  · exact Or.inl own
  · right
    simpa [isComputed, own] using given

/-- What has to be computed for a property, if all of it is declared. -/
theorem neededBy_of_declared
    {property : Property} {dependencies : List Dependency}
    (declared : ∀ dependency ∈ dependencies, isComputed property dependency = true →
      (type.property? dependency.name).isSome) :
    neededBy type property dependencies =
      .ok ((dependencies.filter (isComputed property)).map Dependency.name) := by
  induction dependencies with
  | nil => rfl
  | cons first rest inductionHypothesis =>
      have later := inductionHypothesis fun dependency member =>
        declared dependency (List.mem_cons_of_mem first member)
      unfold neededBy
      by_cases computed : isComputed property first = true
      · rw [if_pos computed, if_pos (declared first List.mem_cons_self computed),
          bind_of_eq_ok later, List.filter_cons_of_pos computed]
        rfl
      · rw [if_neg computed, later, List.filter_cons_of_neg computed]

theorem eq_of_neededBy
    {property : Property} {dependencies : List Dependency} {needed : List String}
    (found : neededBy type property dependencies = .ok needed) :
    needed = (dependencies.filter (isComputed property)).map Dependency.name := by
  have all := @neededBy_of_declared type property dependencies fun dependency member computed =>
    (neededBy_eq_ok found member computed).2
  rw [found] at all
  exact Except.ok.inj all

theorem isSome_property?_of_computed
    {property : Property} {dependency : Dependency} (known : type.knows dependency.name = true)
    (computed : isComputed property dependency = true) :
    (type.property? dependency.name).isSome := by
  rcases Bool.or_eq_true_iff.mp known with fixed | declared
  · simp [isComputed, fixed] at computed
  · exact declared

/-- What is reached from what a name needs is reached from the name. -/
theorem reached_of_needed
    {first : String} {property : Property} (declared : type.property? first = some property)
    {needed : List String} (neededEq : neededBy type property property.dependencies = .ok needed)
    {stack : List String} {name : String} (reached : type.Reached (needed.reverse ++ stack) name) :
    type.Reached (first :: stack) name := by
  obtain ⟨root, member, path⟩ := reached
  rcases List.mem_append.mp member with needs | later
  · rw [List.mem_reverse, eq_of_neededBy neededEq] at needs
    obtain ⟨dependency, listed, rfl⟩ := List.mem_map.mp needs
    have reads := ObjectType.reads_of_property? declared (List.mem_filter.mp listed).1
    exact ⟨first, List.mem_cons_self, path.head reads⟩
  · exact ⟨root, List.mem_cons_of_mem first later, path⟩

/-! ## The search -/

/-- Whatever the search finds was seen before or is declared and reached from the stack. -/
theorem reached_of_reach
    {seen stack result : List String} (found : reach type seen stack = .ok result) :
    ∀ name ∈ result, name ∈ seen ∨
      type.Reached stack name ∧ (type.property? name).isSome := by
  induction seen, stack using reach.induct type with
  | case1 seen =>
      rw [reach] at found
      obtain rfl := Except.ok.inj found
      intro name member
      exact Or.inl member
  | case2 seen first stack known inductionHypothesis =>
      rw [reach_of_seen known] at found
      intro name member
      apply (inductionHypothesis found name member).imp_right
      exact And.imp_left (ObjectType.Reached.mono (List.subset_cons_self first stack))
  | case3 seen first stack fresh unknown inductionHypothesis =>
      rw [reach_of_undeclared fresh unknown] at found
      intro name member
      apply (inductionHypothesis found name member).imp_right
      exact And.imp_left (ObjectType.Reached.mono (List.subset_cons_self first stack))
  | case4 seen first stack fresh property declared shorter needed neededEq inductionHypothesis =>
      rw [reach_of_declared fresh declared, bind_of_eq_ok neededEq] at found
      intro name member
      rcases inductionHypothesis found name member with here | ⟨reached, known⟩
      · rcases List.mem_cons.mp here with rfl | earlier
        · exact Or.inr ⟨ObjectType.Reached.of_mem List.mem_cons_self, declared ▸ rfl⟩
        · exact Or.inl earlier
      · exact Or.inr ⟨reached_of_needed declared neededEq reached, known⟩
  | case5 seen first stack fresh property declared shorter error failed =>
      rw [reach_of_declared fresh declared, failed] at found
      exact absurd found (by simp [bind, Except.bind])

/-- The search succeeds if every name it can reach is known. -/
theorem exists_reach
    {seen stack : List String} (known : ∀ name, type.Reached stack name → type.knows name = true) :
    ∃ result, reach type seen stack = .ok result := by
  induction seen, stack using reach.induct type with
  | case1 seen => exact ⟨seen, by rw [reach]⟩
  | case2 seen first stack here inductionHypothesis =>
      rw [reach_of_seen here]
      apply inductionHypothesis
      intro name reached
      exact known name (reached.mono (List.subset_cons_self first stack))
  | case3 seen first stack fresh unknown inductionHypothesis =>
      rw [reach_of_undeclared fresh unknown]
      apply inductionHypothesis
      intro name reached
      exact known name (reached.mono (List.subset_cons_self first stack))
  | case4 seen first stack fresh property declared shorter needed neededEq inductionHypothesis =>
      rw [reach_of_declared fresh declared, bind_of_eq_ok neededEq]
      apply inductionHypothesis
      intro name reached
      exact known name (reached_of_needed declared neededEq reached)
  | case5 seen first stack fresh property declared shorter error failed =>
      have all : neededBy type property property.dependencies =
          .ok ((property.dependencies.filter (isComputed property)).map Dependency.name) := by
        apply neededBy_of_declared
        intro dependency listed computed
        refine isSome_property?_of_computed (known dependency.name ?_) computed
        exact (ObjectType.Reached.of_mem List.mem_cons_self).read
          (ObjectType.reads_of_property? declared listed)
      rw [all] at failed
      exact absurd failed (by simp)

/-! ## The names of a query -/

theorem name_mem_of_resolve
    {names : List String} {properties : List Property} (found : resolve type names = .ok properties) :
    ∀ property ∈ properties, property.name ∈ names := by
  induction names generalizing properties with
  | nil =>
      obtain rfl := Except.ok.inj found
      intro property member
      exact absurd member List.not_mem_nil
  | cons first rest inductionHypothesis =>
      unfold resolve at found
      split at found
      · obtain ⟨others, later, listed⟩ := exists_of_bind_eq_ok found
        obtain rfl := Except.ok.inj listed
        intro property member
        split at member
        · rename_i declared
          rcases List.mem_cons.mp member with rfl | inRest
          · rw [(property?_eq_some declared).2]
            exact List.mem_cons_self
          · exact List.mem_cons_of_mem first
              (inductionHypothesis later property (List.mem_filter.mp inRest).1)
        · exact List.mem_cons_of_mem first (inductionHypothesis later property member)
      · exact absurd found (by simp)

theorem exists_resolve {names : List String} (known : ∀ name ∈ names, type.knows name = true) :
    ∃ properties, resolve type names = .ok properties := by
  induction names with
  | nil => exact ⟨[], rfl⟩
  | cons first rest inductionHypothesis =>
      obtain ⟨properties, later⟩ := inductionHypothesis fun name member =>
        known name (List.mem_cons_of_mem first member)
      unfold resolve
      rw [if_pos (known first List.mem_cons_self), bind_of_eq_ok later]
      exact ⟨_, rfl⟩

theorem stack_subset
    {references : List PropertyRef} {roots : List Property}
    (resolved : resolve type (references.map PropertyRef.name) = .ok roots) :
    (roots.map Property.name).reverse ⊆ references.map PropertyRef.name := by
  intro name member
  obtain ⟨root, rootMember, rfl⟩ := List.mem_map.mp (List.mem_reverse.mp member)
  exact name_mem_of_resolve resolved root rootMember

section Declared

variable (distinct : (type.properties.map Property.name).Nodup)
  (free : ∀ property ∈ type.properties, Field.isFixed property.name = false)

include free in
theorem isFixed_of_isSome {name : String} (declared : (type.property? name).isSome) :
    Field.isFixed name = false := by
  obtain ⟨property, found⟩ := Option.isSome_iff_exists.mp declared
  obtain ⟨member, rfl⟩ := property?_eq_some found
  exact free property member

include distinct in
/-- In a closed list of names what a name reads is the name itself, fixed, or listed and declared. -/
theorem Closed.read
    {names : List String} (closed : Closed type names) {name other : String} (member : name ∈ names)
    (reads : Property.Reads type.properties name other) :
    other = name ∨ Field.isFixed other = true ∨
      other ∈ names ∧ (type.property? other).isSome := by
  obtain ⟨property, found⟩ :=
    Option.isSome_iff_exists.mp (ObjectType.isSome_property?_of_reads reads)
  obtain ⟨dependency, listed, rfl⟩ := ObjectType.exists_dependency_of_reads distinct reads found
  by_cases computed : isComputed property dependency = true
  · exact Or.inr (Or.inr (closed name member property found dependency listed computed))
  · rcases isComputed_eq_false (Bool.eq_false_of_not_eq_true computed) with own | fixed
    · exact Or.inl (own.trans (property?_eq_some found).2)
    · exact Or.inr (Or.inl fixed)

include distinct free in
/-- The names that have to be computed are those that are reached and declared. -/
theorem mem_required_iff
    {references : List PropertyRef} {names : List String}
    (found : required type references = .ok names) (name : String) :
    name ∈ names ↔
      type.Reached (references.map PropertyRef.name) name ∧ (type.property? name).isSome := by
  constructor
  · intro member
    obtain ⟨roots, resolved, reached⟩ := exists_of_bind_eq_ok found
    rcases reached_of_reach reached name member with seen | ⟨fromStack, declared⟩
    · exact absurd seen List.not_mem_nil
    · exact ⟨fromStack.mono (stack_subset resolved), declared⟩
  · rintro ⟨reached, declared⟩
    obtain ⟨closed, referenced⟩ := required_eq_ok found
    revert declared
    refine ObjectType.Reached.induction (motive := fun name =>
      (type.property? name).isSome → name ∈ names) ?_ ?_ reached
    · intro name member declared
      obtain ⟨reference, listed, rfl⟩ := List.mem_map.mp member
      rcases referenced reference listed with fixed | ⟨here, _⟩
      · exact absurd fixed (by simp [isFixed_of_isSome free declared])
      · exact here
    · intro name other _ listed reads declared
      have here := listed (ObjectType.isSome_property?_of_reads reads)
      rcases closed.read distinct here reads with rfl | fixed | ⟨there, _⟩
      · exact here
      · exact absurd fixed (by simp [isFixed_of_isSome free declared])
      · exact there

include distinct free in
/-- What has to be computed can be told exactly if every name that is reached is known. -/
theorem required_isOk_iff {references : List PropertyRef} :
    (∃ names, required type references = .ok names) ↔
      ∀ name, type.Reached (references.map PropertyRef.name) name → type.knows name = true := by
  constructor
  · rintro ⟨names, found⟩ name reached
    obtain ⟨closed, referenced⟩ := required_eq_ok found
    refine ObjectType.Reached.induction (motive := fun name => type.knows name = true) ?_ ?_ reached
    · intro name member
      obtain ⟨reference, listed, rfl⟩ := List.mem_map.mp member
      rcases referenced reference listed with fixed | ⟨_, declared⟩
      · exact Bool.or_eq_true_iff.mpr (Or.inl fixed)
      · exact Bool.or_eq_true_iff.mpr (Or.inr declared)
    · intro name other reached known reads
      have here := (mem_required_iff distinct free found name).mpr
        ⟨reached, ObjectType.isSome_property?_of_reads reads⟩
      rcases closed.read distinct here reads with rfl | fixed | ⟨_, declared⟩
      · exact known
      · exact Bool.or_eq_true_iff.mpr (Or.inl fixed)
      · exact Bool.or_eq_true_iff.mpr (Or.inr declared)
  · intro known
    obtain ⟨roots, resolved⟩ := @exists_resolve type (references.map PropertyRef.name)
      fun name member => known name (ObjectType.Reached.of_mem member)
    obtain ⟨names, reached⟩ := @exists_reach type [] (roots.map Property.name).reverse
      fun name reached => known name (reached.mono (stack_subset resolved))
    refine ⟨names, ?_⟩
    rw [required, bind_of_eq_ok resolved]
    exact reached

end Declared

end Plan

end ObjectQuery
