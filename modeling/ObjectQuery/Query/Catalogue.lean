import ObjectQuery.Property.Continuing
import ObjectQuery.Property.Library
import ObjectQuery.Query
/-!
# The catalogue of queries

Queries that can be asked for by name.
-/

namespace ObjectQuery

/-- A query with a name and a description. -/
structure CatalogueEntry where
  name : String
  description : String
  /-- The query over the given table of class names. -/
  build : (classNames : List String) → Query

namespace CatalogueEntry

def references (type : ObjectType) (names : List String) : List PropertyRef :=
  names.map fun name => ⟨type, name⟩

/-- A speed, in object heights a second. -/
def speed (tenths : Nat) : Operand := .literal (.float (Float.nearestDecimal false tenths (-1)))

/-- All objects of the first class, persons if there is no class. -/
def allObjects : CatalogueEntry where
  name := "all_objects"
  description := "Every tracked object of the first configured class"
  build classNames :=
    let object := ObjectType.declare "Object" (classNames.head?.getD "person")
      [.property Property.center]
    ⟨"all_objects", .isInstance object,
      references object [Field.trackId, Field.box, Field.score, "center"]⟩

/-- Persons at more than one height a second. -/
def fastPerson : CatalogueEntry where
  name := "fast_person"
  description := "People moving faster than one body height per second"
  build _ :=
    let person := ObjectType.declare "Person" "person" [.property Property.bboxVelocity]
    ⟨"fast_person", PropertyRef.gt ⟨person, "bbox_velocity"⟩ (speed 10),
      references person [Field.trackId, Field.box, "bbox_velocity"]⟩

/-- Cars that move, with the direction they take. -/
def movingCar : CatalogueEntry where
  name := "moving_car"
  description := "Cars in motion, with their heading"
  build _ :=
    let car := ObjectType.declare "Car" "car"
      [.property Property.bboxVelocity, .property (Property.direction 3)]
    ⟨"moving_car", PropertyRef.gt ⟨car, "bbox_velocity"⟩ (speed 5),
      references car [Field.trackId, Field.box, "bbox_velocity", "direction"]⟩

/-- Whether a speed is that of an object at rest. -/
def isIdle (value : Value) : Bool :=
  match value.number? with
  | some x => decide (x < Float.nearestDecimal false 1 (-1))
  | none => false

/-- Persons that have been at rest for two seconds. -/
def idlePerson : CatalogueEntry where
  name := "idle_person"
  description := "People standing still for at least two seconds"
  build _ :=
    let rule : Continuing Float := ⟨Float.nearestInt 2, none⟩
    let person := ObjectType.declare "Person" "person"
      (.property Property.bboxVelocity ::
        (rule.toProperties "idle" "bbox_velocity" isIdle).map ObjectType.Step.property)
    ⟨"idle_person", PropertyRef.eq ⟨person, "idle"⟩ (.literal (.bool true)),
      references person [Field.trackId, Field.box, "idle_periods"]⟩

end CatalogueEntry

/-- The queries that can be asked for by name. -/
def Query.catalogue : List CatalogueEntry :=
  [.allObjects, .fastPerson, .movingCar, .idlePerson]

def Query.named? (name : String) : Option CatalogueEntry :=
  Query.catalogue.find? fun entry => entry.name = name

end ObjectQuery
