import ObjectQuery.Keyed
import ObjectQuery.Slots
import ObjectQuery.Value.Basic
/-!
# The past of tracks

A property that looks back keeps, for every track, the values it has read on the last frames: one row
a frame, one value a column, at most `capacity` rows a track. The rows of all tracks lie in one storage,
and a track has a ring of marks that say where its rows are. A window of past values is there only when
none of its frames is missing.
-/

namespace ObjectQuery

/-- The values read for a track on one frame. -/
structure HistoryRow where
  frame : Nat
  values : List Value

/-- Where the values read for a track on one frame are stored. -/
structure RowMark where
  frame : Nat
  key : Nat
deriving DecidableEq

/-- The rows of every track. -/
structure History (σ : Type → Type := Slots) where
  /-- The names of the values in a row. -/
  columns : List String
  /-- The number of rows kept for a track; without any, nothing is stored. -/
  capacity : Nat
  /-- The marks of each track, oldest first. -/
  rings : Keyed Nat (List RowMark)
  /-- The values of all rows. -/
  cells : σ (List Value)
  /-- How many rows have been dropped. -/
  evicted : Nat

namespace History

variable {σ : Type → Type} [Storage σ]

def start (columns : List String) (capacity : Nat) : History σ :=
  ⟨columns, capacity, [], Storage.empty, 0⟩

def empty (columns : List String) (capacity : Nat) : History := start columns capacity

/-- The marks of a track, oldest first. -/
def ringOf (history : History σ) (track : Nat) : List RowMark :=
  (history.rings.find? track).getD []

def size {σ : Type → Type} [CountedStorage σ] (history : History σ) : Nat :=
  CountedStorage.size history.cells

def trackCount (history : History σ) : Nat := history.rings.length

/-- Whether a row may be added: there is room at all and the frame is later than the last one. -/
def accepts (history : History σ) (track frame : Nat) : Bool :=
  decide (0 < history.capacity) &&
    match (history.ringOf track).getLast? with
    | some last => decide (last.frame < frame)
    | none => true

/-- The history with the rings that are left when the rows of some marks are dropped. -/
def without (history : History σ) (dropped : List RowMark) (rings : Keyed Nat (List RowMark)) :
    History σ :=
  { history with
    rings := rings
    cells := Storage.eraseAll history.cells (dropped.map RowMark.key)
    evicted := history.evicted + dropped.length }

/-- A full track drops its oldest row. -/
def makeRoom (history : History σ) (track : Nat) : History σ :=
  if (history.ringOf track).length < history.capacity then history
  else
    history.without ((history.ringOf track).take 1)
      (history.rings.put track ((history.ringOf track).drop 1))

/-- Store the row of a track behind those that it has. -/
def append (history : History σ) (track frame : Nat) (values : List Value) : History σ :=
  let (key, cells) := Storage.insert history.cells values
  { history with
    rings := history.rings.put track (history.ringOf track ++ [⟨frame, key⟩])
    cells := cells }

/-- Add the row of a track on a frame. A full track drops its oldest row; a frame that is not later
than the last one is refused. -/
def push (history : History σ) (track frame : Nat) (values : List Value) : History σ :=
  if history.accepts track frame then (history.makeRoom track).append track frame values
  else history

/-- The values of a column on the `length` frames before a frame, oldest first, if the track has a
row on each of them. -/
def window? (history : History σ) (track frame column length : Nat) : Option (List Value) :=
  if length = 0 then some []
  else if frame < length then none
  else
    let inside := (history.ringOf track).filter fun mark =>
      decide (frame - length ≤ mark.frame) && decide (mark.frame < frame)
    if inside.length = length then
      inside.mapM fun mark => Storage.read? history.cells mark.key >>= fun values => values[column]?
    else none

def latest? (history : History σ) (track : Nat) : Option HistoryRow :=
  (history.ringOf track).getLast? >>= fun mark =>
    (Storage.read? history.cells mark.key).map (HistoryRow.mk mark.frame)

/-- The first frame that a window ending after the given frame can reach. -/
def cutoff (history : History σ) (frame : Nat) : Nat := frame + 1 - history.capacity

/-- Whether a row stays when the rows that no later window can reach are dropped, and all rows of the
tracks that are not kept. -/
def outlasts (history : History σ) (frame : Nat) (keep : Nat → Bool) (track : Nat) (mark : RowMark) :
    Bool :=
  keep track && decide (history.cutoff frame ≤ mark.frame)

/-- The marks of all tracks that do not stay. -/
def outlasted (history : History σ) (frame : Nat) (keep : Nat → Bool) : List RowMark :=
  history.rings.flatMap fun (track, ring) =>
    ring.filter fun mark => !history.outlasts frame keep track mark

/-- Drop the rows that no later window can reach, and all rows of the tracks that are not kept. -/
def evict (history : History σ) (frame : Nat) (keep : Nat → Bool) : History σ :=
  history.without (history.outlasted frame keep)
    ((history.rings.mapValues fun track ring => ring.filter (history.outlasts frame keep track)).filter
      fun entry => !entry.2.isEmpty)

end History

end ObjectQuery
