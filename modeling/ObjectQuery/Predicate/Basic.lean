import ObjectQuery.ObjectType
import ObjectQuery.Value.Comparison
/-!
# Predicates

Conditions on one object. A comparison that reads a missing or invalid field has no answer, and
`and`, `or` and `not` carry that through: a false side settles `and` and a true side settles `or`
whatever the other side is. At the root, no answer counts as false.
-/

namespace ObjectQuery

/-- A side of a comparison. -/
inductive Operand where
  | property (reference : PropertyRef)
  | literal (value : Value)

/-- A condition on an object. -/
inductive Predicate where
  /-- The object carries the class of the type. -/
  | isInstance (type : ObjectType)
  | and (left right : Predicate)
  | or (left right : Predicate)
  | not (inner : Predicate)
  | equal (left right : Operand)
  | greater (left right : Operand)
  /-- A test given by the user on the value of a property. -/
  | test (reference : PropertyRef) (holds : Value → Bool)

/-! ## Evaluation -/

def ObjectRecord.valid? (record : ObjectRecord) (name : String) : Option Value :=
  (record.get? name).filter fun value => !value.isInvalid

namespace Operand

def value? (record : ObjectRecord) : Operand → Option Value
  | .property reference => record.valid? reference.name
  | .literal value => if value.isInvalid then none else some value

def describe : Operand → String
  | .property reference => reference.describe
  | .literal value => value.describe

def reference? : Operand → Option PropertyRef
  | .property reference => some reference
  | .literal _ => none

end Operand

namespace Predicate

/-- Conjunction of answers that may be missing. -/
def bothAnswers : Option Bool → Option Bool → Option Bool
  | some false, _ => some false
  | _, some false => some false
  | some true, some true => some true
  | _, _ => none

/-- Disjunction of answers that may be missing. -/
def eitherAnswer : Option Bool → Option Bool → Option Bool
  | some true, _ => some true
  | _, some true => some true
  | some false, some false => some false
  | _, _ => none

def answer? (className : String) (record : ObjectRecord) : Predicate → Option Bool
  | .isInstance type => some (type.className == className)
  | .and left right => bothAnswers (answer? className record left) (answer? className record right)
  | .or left right => eitherAnswer (answer? className record left) (answer? className record right)
  | .not inner => (answer? className record inner).map (!·)
  | .equal left right => do
    let a ← left.value? record
    let b ← right.value? record
    a.looseEq b
  | .greater left right => do
    let a ← left.value? record
    let b ← right.value? record
    (a.compare? b).map (· == .gt)
  | .test reference holds => (record.valid? reference.name).map holds

def holds (predicate : Predicate) (className : String) (record : ObjectRecord) : Bool :=
  (predicate.answer? className record).getD false

/-! ## What a predicate mentions -/

/-- The properties that are read, in the order of their mention. -/
def references : Predicate → List PropertyRef
  | .isInstance _ => []
  | .and left right | .or left right => references left ++ references right
  | .not inner => references inner
  | .equal left right | .greater left right => [left, right].filterMap Operand.reference?
  | .test reference _ => [reference]

/-- The types whose instances are asked for, in the order of their mention. -/
def instanceTypes : Predicate → List ObjectType
  | .isInstance type => [type]
  | .and left right | .or left right => instanceTypes left ++ instanceTypes right
  | .not inner => instanceTypes inner
  | .equal _ _ | .greater _ _ | .test _ _ => []

/-- Add a type unless one of its name is there. -/
def addType (types : List ObjectType) (type : ObjectType) : List ObjectType :=
  if types.any fun present => present.name == type.name then types else types ++ [type]

/-- The types that are mentioned, each name once: first those asked for as instances, then the owners
of the properties that are read. -/
def types (predicate : Predicate) : List ObjectType :=
  (predicate.instanceTypes ++ predicate.references.map PropertyRef.owner).foldl addType []

/-- A predicate as it stands in the text of a plan. -/
def describe : Predicate → String
  | .isInstance type => "IsInstance(" ++ type.name ++ ")"
  | .and left right => "(" ++ describe left ++ " & " ++ describe right ++ ")"
  | .or left right => "(" ++ describe left ++ " | " ++ describe right ++ ")"
  | .not inner => "!" ++ describe inner
  | .equal left right => left.describe ++ " == " ++ right.describe
  | .greater left right => left.describe ++ " > " ++ right.describe
  | .test reference _ => reference.describe ++ ".cmp(<fn>)"

end Predicate

/-! ## Comparisons with a property -/

namespace PropertyRef

def gt (reference : PropertyRef) (operand : Operand) : Predicate :=
  .greater (.property reference) operand

def lt (reference : PropertyRef) (operand : Operand) : Predicate :=
  .greater operand (.property reference)

def eq (reference : PropertyRef) (operand : Operand) : Predicate :=
  .equal (.property reference) operand

def ge (reference : PropertyRef) (operand : Operand) : Predicate :=
  .or (reference.eq operand) (reference.gt operand)

def le (reference : PropertyRef) (operand : Operand) : Predicate :=
  .or (reference.eq operand) (reference.lt operand)

def ne (reference : PropertyRef) (operand : Operand) : Predicate :=
  .not (reference.eq operand)

end PropertyRef

end ObjectQuery
