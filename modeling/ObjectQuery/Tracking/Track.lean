import ObjectQuery.Tracking.Kalman
/-!
# Tracks

One object followed through the frames. A track begins tentative and is confirmed by a second
detection, except that the tracks of the first frame are confirmed at once. A confirmed track without
a detection is lost until it is found again or given up.
-/

namespace ObjectQuery

/-- A detection as the tracker sees it: its place in the list of detections, its box and its score. -/
structure Sighting (α : Type) where
  index : Nat
  box : Box α
  score : α

/-- Where a track stands in its life. -/
inductive TrackState where
  | new
  | tracked
  | lost
deriving DecidableEq, Repr

/-- One object followed through the frames. -/
structure Track (α : Type) where
  id : Nat
  state : TrackState
  confirmed : Bool
  score : α
  motion : Motion α
  /-- The frame of the last detection. -/
  lastFrame : Nat
  startFrame : Nat
  /-- The place of this frame's detection in the list of detections. -/
  sighting : Option Nat

namespace Track

variable {α : Type} [Scalar α]

def start (sighting : Sighting α) (id frame : Nat) (confirmed : Bool) : Track α where
  id := id
  state := if confirmed then .tracked else .new
  confirmed := confirmed
  score := sighting.score
  motion := .initiate sighting.box.outline
  lastFrame := frame
  startFrame := frame
  sighting := some sighting.index

/-- No detection on this frame yet. -/
def unsighted (track : Track α) : Track α := { track with sighting := none }

/-- The track moved on by one frame. The height of a track that is not being tracked stays. -/
def predict (track : Track α) : Track α :=
  let motion := if track.state = .tracked then track.motion else track.motion.freezeHeight
  { track with motion := motion.predict }

/-- The track continued by a detection. A motion that cannot be corrected begins anew. -/
def observe (track : Track α) (frame : Nat) (sighting : Sighting α) : Track α :=
  let outline := sighting.box.outline
  { track with
    motion := (track.motion.update? outline).getD (.initiate outline)
    state := .tracked
    confirmed := true
    score := sighting.score
    lastFrame := frame
    sighting := some sighting.index }

def markLost (track : Track α) : Track α := { track with state := .lost, sighting := none }

def box (track : Track α) : Box α := .ofOutline track.motion.outline

def lifetime (track : Track α) : Nat := track.lastFrame - track.startFrame

end Track

end ObjectQuery
