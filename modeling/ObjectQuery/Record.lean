import ObjectQuery.Field
import ObjectQuery.Keyed
/-!
# Object records

What is known of one object on one frame: its detection, the number of its track once it has one, and
the properties computed so far.
-/

namespace ObjectQuery

/-- A detection as a detector delivers it. -/
structure Detection where
  box : Box Float32
  score : Float32
  classId : Nat

/-- The fields of one object on one frame. -/
structure ObjectRecord where
  fields : Keyed String Value

namespace ObjectRecord

def empty : ObjectRecord := ⟨[]⟩

instance : Inhabited ObjectRecord := ⟨empty⟩

def get? (record : ObjectRecord) (name : String) : Option Value := record.fields.find? name

def contains (record : ObjectRecord) (name : String) : Bool := (record.get? name).isSome

/-- Write a field, in place of an earlier value. -/
def insert (record : ObjectRecord) (name : String) (value : Value) : ObjectRecord :=
  ⟨record.fields.put name value⟩

def ofDetection (detection : Detection) : ObjectRecord :=
  empty
    |>.insert Field.box (.box (detection.box.map Float32.widened))
    |>.insert Field.score (.ofSingle detection.score)
    |>.insert Field.classId (.ofNat detection.classId)

def box? (record : ObjectRecord) : Option (Box Float) := record.get? Field.box >>= Value.box?

def score? (record : ObjectRecord) : Option Float := record.get? Field.score >>= Value.number?

def trackId? (record : ObjectRecord) : Option Nat := record.get? Field.trackId >>= Value.nat?

def setTrackId (record : ObjectRecord) (id : Nat) : ObjectRecord :=
  record.insert Field.trackId (.ofNat id)

/-- A field reads as it was last written, and other fields are untouched. -/
theorem get?_insert (record : ObjectRecord) (name wanted : String) (value : Value) :
    (record.insert name value).get? wanted =
      if name = wanted then some value else record.get? wanted :=
  Keyed.find?_put record.fields name wanted value

end ObjectRecord

end ObjectQuery
