import ObjectQuery.Record
/-!
# Frames

One tick of the video on its way through the stages of a query: the objects found on it by class,
which of them each filter has let through, and the tracks that are lost at the moment.
-/

namespace ObjectQuery

/-- A frame as a video source delivers it. -/
structure RawFrame where
  id : Nat
  picture : Option Bitmap

/-- A frame with all that the stages have found out about it. -/
structure Frame where
  id : Nat
  picture : Option Bitmap
  metadata : VideoMetadata
  /-- The objects of each class. -/
  records : Keyed String (List ObjectRecord)
  /-- For each filter index and class, the positions of the objects that passed. -/
  listed : Keyed Nat (Keyed String (List Nat))
  /-- For each class, the tracks that are lost on this frame. -/
  lost : Keyed String (List Nat)

namespace Frame

def ofRaw (raw : RawFrame) (metadata : VideoMetadata) : Frame where
  id := raw.id
  picture := raw.picture
  metadata := metadata
  records := []
  listed := []
  lost := []

/-- The positions of the objects of a class that passed a filter. -/
def positions? (frame : Frame) (index : Nat) (className : String) : Option (List Nat) :=
  frame.listed.find? index >>= fun byClass => byClass.find? className

def recordsOf (frame : Frame) (className : String) : List ObjectRecord :=
  (frame.records.find? className).getD []

/-- The objects of a class that passed a filter. A position without an object is passed over. -/
def passing (frame : Frame) (index : Nat) (className : String) : List ObjectRecord :=
  ((frame.positions? index className).getD []).filterMap fun position =>
    (frame.recordsOf className)[position]?

def hasPassing (frame : Frame) (index : Nat) : Bool :=
  match frame.listed.find? index with
  | some byClass => byClass.values.any fun positions => !positions.isEmpty
  | none => false

def lostOf (frame : Frame) (className : String) : List Nat :=
  (frame.lost.find? className).getD []

def setRecords (frame : Frame) (className : String) (records : List ObjectRecord) : Frame :=
  { frame with records := frame.records.put className records }

/-- Replace the positions of a class under a filter index. -/
def setPositions (frame : Frame) (index : Nat) (className : String) (positions : List Nat) : Frame :=
  let byClass := (frame.listed.find? index).getD []
  { frame with listed := frame.listed.put index (byClass.put className positions) }

/-- What the frame itself knows under a name: its number or a fact of its video. -/
def fact? (frame : Frame) (name : String) : Option Value :=
  if name = Field.frameId then some (.ofNat frame.id) else frame.metadata.get? name

end Frame

end ObjectQuery
