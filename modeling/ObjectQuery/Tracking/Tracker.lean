import ObjectQuery.Keyed
import ObjectQuery.Slots
import ObjectQuery.Text.Quoted
import ObjectQuery.Tracking.Assignment
import ObjectQuery.Tracking.Duplicates
import ObjectQuery.Tracking.Track
/-!
# Following the objects of a class

On each frame the tracks are matched with the detections in three passes: first the confirmed and the
lost tracks with the confident detections, then the tracks that were left with the doubtful ones, at
last the tentative tracks with the confident detections that were left. What no track takes may begin
a new one. Tracks that stay lost too long are given up, and so is one of two tracks that have run into
each other.

The tracks stand in a storage, and the tracker holds their keys. A key without a track would leave an
update without a result.
-/

namespace ObjectQuery

/-- How detections are matched with tracks. -/
structure TrackerSettings (α : Type) where
  /-- Detections above this score are confident. -/
  trackThreshold : α
  /-- The largest distance in the first pass. -/
  matchThreshold : α
  /-- A detection above this score may begin a track. -/
  newTrackThreshold : α
  /-- Detections above this score that are not confident are doubtful. -/
  lowScoreFloor : α
  /-- The largest distance in the second pass. -/
  lowMatchThreshold : α
  /-- The largest distance in the third pass. -/
  tentativeMatchThreshold : α
  /-- A tracked and a lost box closer than this are one object. -/
  duplicateDistance : α
  /-- A track is given up on this many frames after its last detection. -/
  maxTimeLost : Nat
  solve : AssignmentSolver α

/-- The tracks of one class. -/
structure Tracker (α : Type) (σ : Type → Type := Slots) where
  className : String
  settings : TrackerSettings α
  /-- The tracks that are alive. -/
  tracks : σ (Track α)
  /-- The keys of the tracks seen on the last frame, confirmed or tentative, in the order of their
  numbers. -/
  tracked : List Nat
  /-- The keys of the lost tracks, in the order of their numbers. -/
  lost : List Nat
  frameCount : Nat
  nextId : Nat

/-- A track as it is reported. -/
structure TrackReport (α : Type) where
  id : Nat
  state : TrackState
  box : Box α
  score : α
  sighting : Option Nat

/-- What an update has led to. -/
structure TrackerReport (α : Type) where
  tracked : List (TrackReport α)
  lost : List (TrackReport α)
  /-- The tracks that have ended, in the order in which they were given up. -/
  removed : List Nat
  /-- The number of malformed detections. -/
  dropped : Nat

/-- The matches of the three passes over one frame. -/
structure Associations (ρ α : Type) where
  first : Pairing ρ (Sighting α)
  second : Pairing ρ (Sighting α)
  third : Pairing ρ (Sighting α)

/-- A box with its score. -/
structure Observation (α : Type) where
  box : Box α
  score : α

namespace Observation

variable {α : Type} [Scalar α]

/-- Whether all numbers are finite and both sides are positive. -/
def isWellFormed (observation : Observation α) : Bool :=
  observation.box.all Scalar.isFinite && Scalar.isFinite observation.score &&
    decide (observation.box.left < observation.box.right) &&
    decide (observation.box.top < observation.box.bottom)

end Observation

namespace Tracker

variable {α : Type} [Scalar α] {σ : Type → Type} [Storage σ]

def start (className : String) (settings : TrackerSettings α) : Tracker α σ where
  className := className
  settings := settings
  tracks := Storage.empty
  tracked := []
  lost := []
  frameCount := 0
  nextId := 1

/-! ## Detections by confidence -/

/-- The well-formed detections with their places in the list. -/
def sightings (observations : List (Observation α)) : List (Sighting α) :=
  (observations.zipIdx.filter fun entry => entry.1.isWellFormed).map fun (observation, index) =>
    ⟨index, observation.box, observation.score⟩

def isConfident (settings : TrackerSettings α) (sighting : Sighting α) : Bool :=
  decide (settings.trackThreshold < sighting.score)

def isDoubtful (settings : TrackerSettings α) (sighting : Sighting α) : Bool :=
  !isConfident settings sighting && decide (settings.lowScoreFloor < sighting.score)

/-! ## The three passes -/

def plainCost (track : Track α) (sighting : Sighting α) : α := track.box.distance sighting.box

/-- The distance weighed by the score of the detection. -/
def weighedCost (track : Track α) (sighting : Sighting α) : α :=
  Box.weighed (plainCost track sighting) sighting.score

def pair? (solve : AssignmentSolver α) (cost : Track α → Sighting α → α) (threshold : α)
    (tracks : σ (Track α)) (keys : List Nat) (sightings : List (Sighting α)) :
    Option (Pairing Nat (Sighting α)) :=
  (Storage.readAll? tracks keys).map fun values =>
    (Pairing.find solve (fun row => cost row.2) threshold (keys.zip values) sightings).mapRows Prod.fst

/-- Tracks continued by the detections they are matched with. -/
def observeAll? (tracks : σ (Track α)) (frame : Nat) (matched : List (Nat × Sighting α)) :
    Option (σ (Track α)) :=
  Storage.change? tracks (matched.map fun (key, sighting) => (key, fun track =>
    track.observe frame sighting))

/-- The tracks moved on to a frame, as far as they are confirmed or lost, and the keys of those and of
the tentative ones. -/
def advance? (tracker : Tracker α σ) : Option (σ (Track α) × List Nat × List Nat) := do
  let tracks ← Storage.changeAll? tracker.tracks (tracker.tracked ++ tracker.lost) Track.unsighted
  let tentative ← Storage.select? tracks (fun track => !track.confirmed) tracker.tracked
  let confirmed ← Storage.select? tracks (fun track => track.confirmed) tracker.tracked
  let pool := confirmed ++ tracker.lost
  let tracks ← Storage.changeAll? tracks pool Track.predict
  return (tracks, pool, tentative)

/-- The matches on a frame, and the tracks after them. -/
def associate? (tracker : Tracker α σ) (frame : Nat) (sightings : List (Sighting α)) :
    Option (σ (Track α) × Associations Nat α) := do
  let settings := tracker.settings
  let (tracks, pool, tentative) ← tracker.advance?
  let first ← pair? settings.solve weighedCost settings.matchThreshold tracks pool
    (sightings.filter (isConfident settings))
  let tracks ← observeAll? tracks frame first.matched
  let remaining ← Storage.select? tracks (fun track => track.state = .tracked) first.leftRows
  let second ← pair? settings.solve plainCost settings.lowMatchThreshold tracks remaining
    (sightings.filter (isDoubtful settings))
  let tracks ← observeAll? tracks frame second.matched
  let tracks ← Storage.changeAll? tracks second.leftRows Track.markLost
  let third ← pair? settings.solve weighedCost settings.tentativeMatchThreshold tracks tentative
    first.leftColumns
  let tracks ← observeAll? tracks frame third.matched
  return (tracks, ⟨first, second, third⟩)

/-! ## What becomes of the tracks -/

/-- The tracks that were continued, in the order of the passes. -/
def continued {ρ : Type} (associations : Associations ρ α) : List (ρ × Sighting α) :=
  associations.first.matched ++ associations.second.matched ++ associations.third.matched

def seeds {ρ : Type} (settings : TrackerSettings α) (associations : Associations ρ α) :
    List (Sighting α) :=
  associations.third.leftColumns.filter fun sighting =>
    !decide (sighting.score ≤ settings.newTrackThreshold)

/-- Tracks that begin on a frame, numbered on from the given number. -/
def begun (sightings : List (Sighting α)) (nextId frame : Nat) (confirmed : Bool) :
    List (Track α) :=
  sightings.zipIdx.map fun (sighting, k) => .start sighting (nextId + k) frame confirmed

def isExpired (settings : TrackerSettings α) (frame : Nat) (track : Track α) : Bool :=
  decide (settings.maxTimeLost ≤ frame - track.lastFrame)

def lifespan (track : Track α) : Lifespan α := ⟨track.box, track.lifetime⟩

/-- The members of a list that are kept, and those that are not. -/
def separate {β : Type} (items : List β) (kept : List Bool) : List β × List β :=
  (((items.zip kept).filter fun entry => entry.2).map Prod.fst,
    ((items.zip kept).filter fun entry => !entry.2).map Prod.fst)

/-- Keys in the order of the numbers of their tracks. -/
def byId? (tracks : σ (Track α)) (keys : List Nat) : Option (List Nat) :=
  (Storage.readAll? tracks keys).map fun values =>
    ((keys.zip values).mergeSort fun a b => decide (a.2.id ≤ b.2.id)).map Prod.fst

def reportOf (track : Track α) : TrackReport α :=
  ⟨track.id, track.state, track.box, track.score, track.sighting⟩

/-! ## One frame -/

/-- The tracks after those that stay lost too long are given up: the keys of the lost ones that
remain, and what was given up. -/
def expire? (settings : TrackerSettings α) (frame : Nat) (tracks : σ (Track α)) (absent : List Nat) :
    Option (σ (Track α) × List Nat × List (Track α)) := do
  let waiting ← Storage.select? tracks (fun track => !isExpired settings frame track) absent
  let expired ← Storage.select? tracks (isExpired settings frame) absent
  let (ended, tracks) ← Storage.takeAll? tracks expired
  return (tracks, waiting, ended)

/-- The tracks without duplicates: the keys of the active and of the lost ones that are kept, and what
was given up. -/
def deduplicate? (settings : TrackerSettings α) (tracks : σ (Track α))
    (active waiting : List Nat) :
    Option (σ (Track α) × (List Nat × List Nat) × List (Track α)) := do
  let activeTracks ← Storage.readAll? tracks active
  let waitingTracks ← Storage.readAll? tracks waiting
  let kept := Lifespan.deduplicate (activeTracks.map lifespan) (waitingTracks.map lifespan)
    settings.duplicateDistance
  let (tracked, yielded) := separate active kept.1
  let (lost, outlived) := separate waiting kept.2
  let (endedActive, tracks) ← Storage.takeAll? tracks yielded
  let (endedLost, tracks) ← Storage.takeAll? tracks outlived
  return (tracks, (tracked, lost), endedActive ++ endedLost)

/-- The tracker after the detections of a frame, and what they have led to. There is no result if a
key has no track. -/
def update? (tracker : Tracker α σ) (frame : Nat) (observations : List (Observation α)) :
    Option (Tracker α σ × TrackerReport α) := do
  let settings := tracker.settings
  let (tracks, associations) ← tracker.associate? frame (sightings observations)
  let (unconfirmed, tracks) ← Storage.takeAll? tracks associations.third.leftRows
  let begun := begun (seeds settings associations) tracker.nextId frame (tracker.frameCount = 0)
  let (seeded, tracks) := Storage.insertAll tracks begun
  let stillLost ← Storage.select? tracks (fun track => track.state = .lost) tracker.lost
  let (tracks, waiting, expired) ←
    expire? settings frame tracks (stillLost ++ associations.second.leftRows)
  let (tracks, (tracked, lost), duplicates) ←
    deduplicate? settings tracks ((continued associations).map Prod.fst ++ seeded) waiting
  let tracked ← byId? tracks tracked
  let lost ← byId? tracks lost
  let trackedNow ← Storage.readAll? tracks tracked
  let lostNow ← Storage.readAll? tracks lost
  return (
    { tracker with
      tracks := tracks
      tracked := tracked
      lost := lost
      frameCount := tracker.frameCount + 1
      nextId := tracker.nextId + begun.length },
    { tracked := trackedNow.map reportOf
      lost := lostNow.map reportOf
      removed := (unconfirmed ++ expired ++ duplicates).map fun track => track.id
      dropped := (observations.filter fun observation => !observation.isWellFormed).length })

/-- The tracker after the detections of a frame, and what they have led to. A tracker that holds a key
without a track stays as it is and has nothing to report. -/
def update (tracker : Tracker α σ) (frame : Nat) (observations : List (Observation α)) :
    Tracker α σ × TrackerReport α :=
  (tracker.update? frame observations).getD (tracker, ⟨[], [], [], 0⟩)

def describe (tracker : Tracker α σ) : String :=
  "ByteTracker \x7b class_name: " ++ Text.quoted tracker.className ++ ", tracked: " ++
    toString tracker.tracked.length ++ ", lost: " ++ toString tracker.lost.length ++
    ", frame_count: " ++ toString tracker.frameCount ++ ", next_id: " ++
    toString tracker.nextId ++ " \x7d"

end Tracker

/-! ## One tracker a class -/

/-- A tracker for each class, each with numbers of its own. -/
structure ClassTrackers (α : Type) (σ : Type → Type := Slots) where
  trackers : Keyed String (Tracker α σ)

namespace ClassTrackers

variable {α : Type} [Scalar α] {σ : Type → Type} [Storage σ]

def start (classNames : List String) (settings : TrackerSettings α) : ClassTrackers α σ where
  trackers := classNames.foldl (fun trackers className =>
    trackers.put className (.start className settings)) []

def get? (trackers : ClassTrackers α σ) (className : String) : Option (Tracker α σ) :=
  trackers.trackers.find? className

/-- Every tracker updated; a class without detections has an empty frame. -/
def update (trackers : ClassTrackers α σ) (frame : Nat)
    (observations : Keyed String (List (Observation α))) :
    ClassTrackers α σ × Keyed String (TrackerReport α) :=
  let updated := trackers.trackers.mapValues fun className tracker =>
    tracker.update frame ((observations.find? className).getD [])
  (⟨updated.mapValues fun _ result => result.1⟩, updated.mapValues fun _ result => result.2)

end ClassTrackers

end ObjectQuery
