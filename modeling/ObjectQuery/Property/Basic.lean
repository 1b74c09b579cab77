import ObjectQuery.Record
import ObjectQuery.Text.Quoted
import ObjectQuery.Value.Text
/-!
# Property declarations

A property is a name, the names it depends on, each with the number of past frames it looks back on,
a function of those values, and a value that stands in for its own past where there is none.
-/

namespace ObjectQuery

/-! ## Dependencies -/

/-- A name that is read, and the number of past frames that are read with it. -/
structure Dependency where
  name : String
  window : Nat
deriving DecidableEq, Repr

namespace Dependency

/-- Add a dependency to a list. A name that is there keeps its place and the larger window. -/
def add : List Dependency → Dependency → List Dependency
  | [], new => [new]
  | present :: rest, new =>
    if present.name = new.name then ⟨present.name, max present.window new.window⟩ :: rest
    else present :: add rest new

/-- The dependencies of a list of mentions, each name once. -/
def merge (mentions : List Dependency) : List Dependency := mentions.foldl add []

theorem name_of_mem_add {dependencies : List Dependency} {new found : Dependency}
    (member : found ∈ add dependencies new) :
    found.name = new.name ∨ found ∈ dependencies := by
  induction dependencies with
  | nil =>
    simp only [add, List.mem_singleton] at member
    exact Or.inl (congrArg Dependency.name member)
  | cons present rest ih =>
    unfold add at member
    split at member
    · rename_i same
      rcases List.mem_cons.mp member with here | later
      · left
        rw [here]
        exact same
      · exact Or.inr (List.mem_cons_of_mem _ later)
    · rcases List.mem_cons.mp member with here | later
      · exact Or.inr (here ▸ List.mem_cons_self ..)
      · rcases ih later with named | old
        · exact Or.inl named
        · exact Or.inr (List.mem_cons_of_mem _ old)

/-- Adding keeps names distinct. -/
theorem nodup_add {dependencies : List Dependency} (new : Dependency)
    (distinct : (dependencies.map Dependency.name).Nodup) :
    ((add dependencies new).map Dependency.name).Nodup := by
  induction dependencies with
  | nil => simp [add]
  | cons present rest ih =>
    simp only [List.map_cons, List.nodup_cons] at distinct
    unfold add
    split
    · simpa using distinct
    · rename_i other
      simp only [List.map_cons, List.nodup_cons]
      refine ⟨fun repeated => ?_, ih distinct.2⟩
      obtain ⟨found, member, named⟩ := List.mem_map.mp repeated
      rcases name_of_mem_add member with equal | old
      · exact other (named.symm.trans equal)
      · exact distinct.1 (List.mem_map.mpr ⟨found, old, named⟩)

/-- In a merged list every name stands once. -/
theorem nodup_merge (mentions : List Dependency) :
    ((merge mentions).map Dependency.name).Nodup := by
  have step : ∀ (rest done : List Dependency), (done.map Dependency.name).Nodup →
      ((rest.foldl add done).map Dependency.name).Nodup := by
    intro rest
    induction rest with
    | nil => exact fun _ distinct => distinct
    | cons new rest ih => exact fun done distinct => ih _ (nodup_add new distinct)
  exact step mentions [] List.nodup_nil

end Dependency

/-! ## Inputs of a property function -/

/-- What a function is handed for one dependency. -/
inductive PropertyInput where
  /-- No window: the value on the current frame. -/
  | current (value : Value)
  /-- A window: past values, oldest first, then the current one, or for the property's own name its
  default. -/
  | window (values : List Value)

/-- The arguments of one call of a property function. -/
structure PropertyInputs where
  inputs : Keyed String PropertyInput
  /-- All objects of the class on the frame, as they were before the stage ran. -/
  snapshot : List ObjectRecord

namespace PropertyInputs

def start (snapshot : List ObjectRecord) : PropertyInputs := ⟨[], snapshot⟩

def insert (inputs : PropertyInputs) (name : String) (input : PropertyInput) : PropertyInputs :=
  { inputs with inputs := inputs.inputs.put name input }

def input? (inputs : PropertyInputs) (name : String) : Option PropertyInput :=
  inputs.inputs.find? name

/-- The value of a dependency on the current frame, the last one of a window. -/
def current? (inputs : PropertyInputs) (name : String) : Option Value :=
  match inputs.input? name with
  | some (.current value) => some value
  | some (.window values) => values.getLast?
  | none => none

def window? (inputs : PropertyInputs) (name : String) : Option (List Value) :=
  match inputs.input? name with
  | some (.window values) => some values
  | _ => none

def number? (inputs : PropertyInputs) (name : String) : Option Float :=
  inputs.current? name >>= Value.number?

def box? (inputs : PropertyInputs) (name : String) : Option (Box Float) :=
  inputs.current? name >>= Value.box?

end PropertyInputs

/-! ## Properties -/

/-- The declaration of a property. -/
structure Property where
  name : String
  dependencies : List Dependency
  /-- Stands in for the property's own past where there is none. -/
  default : Value
  compute : PropertyInputs → Value

namespace Property

/-- Declare a property from the dependencies in the order of their mention. -/
def declare (name : String) (mentions : List Dependency) (compute : PropertyInputs → Value)
    (default : Value := .null) : Property where
  name := name
  dependencies := Dependency.merge mentions
  default := default
  compute := compute

def window? (property : Property) (name : String) : Option Nat :=
  (property.dependencies.find? fun dependency => dependency.name = name).map Dependency.window

def isStateful (property : Property) : Bool :=
  property.dependencies.any fun dependency => decide (0 < dependency.window)

def isSelfDependent (property : Property) : Bool := (property.window? property.name).isSome

def maxWindow (property : Property) : Nat :=
  property.dependencies.foldl (fun largest dependency => max largest dependency.window) 0

def windowed (property : Property) : List Dependency :=
  property.dependencies.filter fun dependency => decide (0 < dependency.window)

/-- A description with the name, the dependencies and the default. -/
def describe (property : Property) : String :=
  let pair (dependency : Dependency) : String :=
    "(" ++ Text.quoted dependency.name ++ ", " ++ toString dependency.window ++ ")"
  "PropertyDescriptor \x7b name: " ++ Text.quoted property.name ++ ", dependencies: " ++
    Text.bracketed (property.dependencies.map pair) ++ ", default: " ++
    property.default.describe ++ ", .. \x7d"

end Property

end ObjectQuery
