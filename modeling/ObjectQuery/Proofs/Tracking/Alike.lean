import ObjectQuery.Proofs.Related
import ObjectQuery.Proofs.Tracking.Duplicates

/-!
# Frames that show the same

What an update does with the detections of a frame depends on their boxes and scores; their places in the
list only come back in the report. So pools that differ in nothing but the places of earlier detections
(`TrackPools.Alike`) and are given detections which are alike (`Observation.Alike`) do the same and are alike
again (`TrackPools.Alike.after`).
-/

namespace ObjectQuery

variable {α : Type} [Scalar α]

/-! ## Pairings -/

namespace Pairing

variable {ρ κ ι : Type} {S : κ → ι → Prop}

/-- Pairings of the same rows with related columns. -/
structure Alike (S : κ → ι → Prop) (one : Pairing ρ κ) (other : Pairing ρ ι) : Prop where
  matched : List.Forall₂ (fun pair pair' => pair.1 = pair'.1 ∧ S pair.2 pair'.2) one.matched other.matched
  leftRows : one.leftRows = other.leftRows
  leftColumns : List.Forall₂ S one.leftColumns other.leftColumns

theorem alike_ofIndexed {n m m' : Nat}
    (solve : AssignmentSolver α) (cost : ρ → κ → α) (cost' : ρ → ι → α) (threshold : α)
    (rowAt : Fin n → ρ) {columnAt : Fin m → κ} {columnAt' : Fin m' → ι} (same : m = m')
    (alike : ∀ j, S (columnAt j) (columnAt' (j.cast same)))
    (costs : ∀ row column column', S column column' → cost row column = cost' row column') :
    (ofIndexed solve cost threshold rowAt columnAt).Alike S
      (ofIndexed solve cost' threshold rowAt columnAt') := by
  subst same
  have grids : (fun i j => cost (rowAt i) (columnAt j)) = fun i j => cost' (rowAt i) (columnAt' j) :=
    funext fun i => funext fun j => costs (rowAt i) _ _ (alike j)
  unfold ofIndexed
  rw [grids]
  refine ⟨?_, rfl, ?_⟩
  · rw [related_map_iff, List.forall₂_same]
    exact fun pair _ => ⟨rfl, alike pair.2⟩
  · rw [related_map_iff, List.forall₂_same]
    exact fun column _ => alike column

theorem alike_find
    (solve : AssignmentSolver α) (cost : ρ → κ → α) (cost' : ρ → ι → α) (threshold : α)
    {rows rows' : List ρ} (same : rows = rows')
    {columns : List κ} {columns' : List ι} (alike : List.Forall₂ S columns columns')
    (costs : ∀ row column column', S column column' → cost row column = cost' row column') :
    (find solve cost threshold rows columns).Alike S (find solve cost' threshold rows' columns') := by
  subst same
  exact alike_ofIndexed solve cost cost' threshold rows.get alike.length_eq (fun j => alike.get j.isLt _) costs

end Pairing

/-! ## Detections -/

/-- Detections of one box with one score, at places that belong together. -/
structure Sighting.Alike (places : Nat → Nat → Prop) (one other : Sighting α) : Prop where
  box : one.box = other.box
  score : one.score = other.score
  place : places one.index other.index

/-- Tracks that differ at most in the places of the detections that they have taken. -/
structure Track.Alike (places : Nat → Nat → Prop) (one other : Track α) : Prop where
  forgotten : one.unsighted = other.unsighted
  place : ∃ index index', one.sighting = some index ∧ other.sighting = some index' ∧ places index index'

namespace Track.Alike

variable {places : Nat → Nat → Prop} {one other : Track α}

omit [Scalar α] in
theorem id (alike : one.Alike places other) : one.id = other.id := by
  have kept := congrArg Track.id alike.forgotten
  exact kept

theorem lifespan (alike : one.Alike places other) : Tracker.lifespan one = Tracker.lifespan other := by
  have kept := congrArg Tracker.lifespan alike.forgotten
  exact kept

end Track.Alike

/-- The confident and the doubtful detections of two frames belong together. -/
structure Observation.Alike (settings : TrackerSettings α) (places : Nat → Nat → Prop)
    (observations others : List (Observation α)) : Prop where
  confident : List.Forall₂ (Sighting.Alike places)
    ((Tracker.sightings observations).filter (Tracker.isConfident settings))
    ((Tracker.sightings others).filter (Tracker.isConfident settings))
  doubtful : List.Forall₂ (Sighting.Alike places)
    ((Tracker.sightings observations).filter (Tracker.isDoubtful settings))
    ((Tracker.sightings others).filter (Tracker.isDoubtful settings))

/-! ## Passes -/

namespace Tracker

variable {places : Nat → Nat → Prop}

theorem plainCost_congr {track : Track α} {sighting other : Sighting α}
    (alike : sighting.Alike places other) : plainCost track sighting = plainCost track other :=
  congrArg track.box.distance alike.box

theorem weighedCost_congr {track : Track α} {sighting other : Sighting α}
    (alike : sighting.Alike places other) : weighedCost track sighting = weighedCost track other := by
  rw [weighedCost, weighedCost, plainCost_congr alike, alike.score]

variable {ρ : Type}

structure AlikePasses (places : Nat → Nat → Prop) (one other : Associations ρ α) : Prop where
  first : one.first.Alike (Sighting.Alike places) other.first
  second : one.second.Alike (Sighting.Alike places) other.second
  third : one.third.Alike (Sighting.Alike places) other.third

theorem alike_passes (trackOf : ρ → Track α) {settings : TrackerSettings α} (pool tentative : List ρ)
    {observations others : List (Observation α)}
    (alike : Observation.Alike settings places observations others) :
    AlikePasses places (passes trackOf settings pool tentative (sightings observations))
      (passes trackOf settings pool tentative (sightings others)) := by
  let weighed (row : ρ) := weighedCost (trackOf row)
  let plain (row : ρ) := plainCost (trackOf row)
  have weighs (row : ρ) (sighting other : Sighting α) (same : sighting.Alike places other) :
      weighed row sighting = weighed row other := weighedCost_congr same
  have first := Pairing.alike_find settings.solve weighed weighed settings.matchThreshold
    (Eq.refl pool) alike.confident weighs
  have second := Pairing.alike_find settings.solve plain plain settings.lowMatchThreshold
    (congrArg (List.filter fun row => (trackOf row).state = .tracked) first.leftRows) alike.doubtful
    fun row _ _ => plainCost_congr
  have third := Pairing.alike_find settings.solve weighed weighed settings.tentativeMatchThreshold
    (Eq.refl tentative) first.leftColumns weighs
  exact ⟨first, second, third⟩

namespace AlikePasses

variable {one other : Associations ρ α}

omit [Scalar α] in
theorem continued (alike : AlikePasses places one other) :
    List.Forall₂ (fun pair pair' => pair.1 = pair'.1 ∧ pair.2.Alike places pair'.2)
      (continued one) (continued other) :=
  List.rel_append (List.rel_append alike.first.matched alike.second.matched) alike.third.matched

theorem seeds (alike : AlikePasses places one other) (settings : TrackerSettings α) :
    List.Forall₂ (Sighting.Alike places) (seeds settings one) (seeds settings other) :=
  related_filter alike.third.leftColumns fun _ _ same => by rw [same.score]

end AlikePasses

theorem alike_begun {found others : List (Sighting α)}
    (alike : List.Forall₂ (Sighting.Alike places) found others) (nextId frame : Nat) (confirmed : Bool) :
    List.Forall₂ (Track.Alike places) (begun found nextId frame confirmed)
      (begun others nextId frame confirmed) := by
  rw [begun, begun, related_map_iff]
  refine (related_zipIdx alike 0).imp ?_
  rintro ⟨sighting, k⟩ ⟨other, k'⟩ ⟨same, rfl⟩
  obtain ⟨box, score, place⟩ := same
  refine ⟨?_, sighting.index, other.index, rfl, rfl, place⟩
  simp only [Track.unsighted, Track.start] at box score ⊢
  rw [box, score]

end Tracker

theorem Track.alike_observe {places : Nat → Nat → Prop} (track : Track α) (frame : Nat)
    {sighting other : Sighting α} (alike : sighting.Alike places other) :
    (track.observe frame sighting).Alike places (track.observe frame other) := by
  refine ⟨?_, sighting.index, other.index, rfl, rfl, alike.place⟩
  simp only [Track.unsighted, Track.observe, alike.box, alike.score]

/-! ## Pools -/

namespace TrackPools

open Tracker

/-- Pools that differ at most in the places of the detections that their tracks have taken. -/
structure Alike (pools other : TrackPools α) : Prop where
  settings : pools.settings = other.settings
  tracked : pools.tracked.map Track.unsighted = other.tracked.map Track.unsighted
  lost : pools.lost = other.lost
  frameCount : pools.frameCount = other.frameCount
  nextId : pools.nextId = other.nextId

namespace Alike

variable {pools other : TrackPools α} {places : Nat → Nat → Prop} {frame : Nat}
  {observations others : List (Observation α)}

theorem pool_eq (same : pools.Alike other) : pools.pool = other.pool := by
  have forgets (pools : TrackPools α) : pools.pool =
      (((pools.tracked.map Track.unsighted).filter fun track => track.confirmed) ++ pools.lost).map
        fun track => track.unsighted.predict := by
    simp only [pool, List.filter_map, List.map_append, List.map_map]
    rfl
  rw [forgets, forgets, same.tracked, same.lost]

omit [Scalar α] in
theorem tentative_eq (same : pools.Alike other) : pools.tentative = other.tentative := by
  have forgets (pools : TrackPools α) : pools.tentative =
      (pools.tracked.map Track.unsighted).filter fun track => !track.confirmed := by
    simp only [tentative, List.filter_map]
    rfl
  rw [forgets, forgets, same.tracked]

section Step

variable (same : pools.Alike other)
  (alike : Observation.Alike pools.settings places observations others)

include same alike

theorem associations :
    AlikePasses places (pools.associations observations) (other.associations others) := by
  rw [TrackPools.associations, TrackPools.associations, ← same.pool_eq, ← same.tentative_eq,
    ← same.settings]
  exact alike_passes id pools.pool pools.tentative alike

theorem started :
    List.Forall₂ (Track.Alike places) (pools.started frame observations) (other.started frame others) := by
  rw [TrackPools.started, TrackPools.started, ← same.settings, ← same.nextId, ← same.frameCount]
  exact alike_begun ((same.associations alike).seeds pools.settings) ..

theorem active :
    List.Forall₂ (Track.Alike places) (pools.active frame observations) (other.active frame others) := by
  refine List.rel_append (related_map_iff.mpr ?_) (same.started alike)
  refine (same.associations alike).continued.imp ?_
  rintro ⟨track, sighting⟩ ⟨_, sighting'⟩ ⟨rfl, link⟩
  exact track.alike_observe frame link

theorem absent_eq : pools.absent observations = other.absent others := by
  have passed := same.associations alike
  rw [absent, absent, passed.first.leftRows, passed.second.leftRows]

theorem waiting_eq : pools.waiting frame observations = other.waiting frame others := by
  rw [waiting, waiting, same.absent_eq alike, same.settings]

theorem expired_eq : pools.expired frame observations = other.expired frame others := by
  rw [expired, expired, same.absent_eq alike, same.settings]

theorem keepsActive_eq (track track' : Track α) (link : track.Alike places track') :
    pools.keepsActive frame observations track = other.keepsActive frame others track' := by
  rw [keepsActive, keepsActive, same.waiting_eq alike, same.settings, link.lifespan]

theorem keepsWaiting_eq : pools.keepsWaiting frame observations = other.keepsWaiting frame others := by
  funext track
  have lifespans : (pools.active frame observations).map lifespan = (other.active frame others).map lifespan :=
    map_eq_of_related (same.active alike) fun _ _ link => link.lifespan
  rw [keepsWaiting, keepsWaiting, lifespans, same.settings]

theorem tracked_after :
    List.Forall₂ (Track.Alike places) (pools.after frame observations).tracked
      (other.after frame others).tracked := by
  rw [TrackPools.tracked_after, TrackPools.tracked_after]
  exact related_mergeSort (related_filter (same.active alike) (same.keepsActive_eq alike))
    fun _ _ link => link.id

theorem lost_after : (pools.after frame observations).lost = (other.after frame others).lost := by
  rw [TrackPools.lost_after, TrackPools.lost_after, same.waiting_eq alike, same.keepsWaiting_eq alike]

/-- After alike detections alike pools are alike again. -/
theorem after : (pools.after frame observations).Alike (other.after frame others) where
  settings := same.settings
  tracked := map_eq_of_related (same.tracked_after alike) fun _ _ link => link.forgotten
  lost := same.lost_after alike
  frameCount := congrArg (· + 1) same.frameCount
  nextId := congrArg₂ (· + ·) same.nextId (same.started alike).length_eq

theorem ids_ended : ids (pools.ended frame observations) = ids (other.ended frame others) := by
  have yielded :
      ids ((pools.active frame observations).filter fun track => !pools.keepsActive frame observations track) =
        ids ((other.active frame others).filter fun track => !other.keepsActive frame others track) := by
    refine map_eq_of_related (related_filter (same.active alike) ?_) fun _ _ link => link.id
    exact fun track track' link => congrArg (!·) (same.keepsActive_eq alike track track' link)
  rw [ended_eq, ended_eq, ← (same.associations alike).third.leftRows, ← same.expired_eq alike,
    ← same.waiting_eq alike, ← same.keepsWaiting_eq alike]
  simp only [ids, List.map_append] at yielded ⊢
  rw [yielded]

end Step

end Alike

end TrackPools

end ObjectQuery
