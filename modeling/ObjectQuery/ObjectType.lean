import ObjectQuery.Property.Basic
/-!
# Object types

A type of object binds a class of the detector to a list of properties. Types are declared step by
step; a property declared or inherited again replaces the earlier one where it stands.
-/

namespace ObjectQuery

/-- A type of object to look for. -/
structure ObjectType where
  name : String
  /-- The class that detections of this type carry. -/
  className : String
  /-- The detector that the type asks for. -/
  detector : Option String
  /-- In the order of declaration. -/
  properties : List Property

namespace ObjectType

/-! ## Declaring a type -/

/-- Replace the property of the same name, or add one at the end. -/
def putProperty : List Property → Property → List Property
  | [], new => [new]
  | present :: rest, new =>
    if present.name = new.name then new :: rest else present :: putProperty rest new

/-- One step of a declaration. -/
inductive Step where
  | detector (name : String)
  /-- Take over the properties of another type, and its detector if there is none yet. -/
  | inherit (parent : ObjectType)
  | property (property : Property)

def apply (type : ObjectType) : Step → ObjectType
  | .detector name => { type with detector := some name }
  | .inherit parent =>
    { type with
      detector := type.detector <|> parent.detector
      properties := parent.properties.foldl putProperty type.properties }
  | .property property => { type with properties := putProperty type.properties property }

def declare (name className : String) (steps : List Step) : ObjectType :=
  steps.foldl apply ⟨name, className, none, []⟩

/-! ## Looking names up -/

def property? (type : ObjectType) (name : String) : Option Property :=
  type.properties.find? fun property => property.name = name

/-- The place of a property in the order of declaration. -/
def declarationIndex? (type : ObjectType) (name : String) : Option Nat :=
  type.properties.findIdx? fun property => property.name = name

/-- Whether a name has a fixed meaning or is declared. -/
def knows (type : ObjectType) (name : String) : Bool :=
  Field.isFixed name || (type.property? name).isSome

end ObjectType

/-- A property of a certain type of object. -/
structure PropertyRef where
  owner : ObjectType
  name : String

/-- The type and the property with a point between them. -/
def PropertyRef.describe (reference : PropertyRef) : String :=
  reference.owner.name ++ "." ++ reference.name

end ObjectQuery
