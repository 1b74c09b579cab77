import ObjectQuery.Proofs.Number.Single
import ObjectQuery.Proofs.Tracking.Turns

/-!
# Who owns a detection

The detections of a frame go through three pairings. The first two have the confident and the doubtful
ones as their columns, the third what the first has left, so that every confident or doubtful detection
is taken by one track, begins one, or is left at the end (`perm_continued`). `Turn.Owns` says this of the
tracks: no two of them have the same detection, and a detection above both thresholds has one.
-/

namespace ObjectQuery

variable {α : Type} [Scalar α]

namespace Tracker

variable {observations : List (Observation α)} {sighting : Sighting α}

/-! ## Detections with their places -/

theorem mem_sightings :
    sighting ∈ sightings observations ↔
      ∃ observation, observations[sighting.index]? = some observation ∧
        observation.isWellFormed = true ∧ sighting.box = observation.box ∧
          sighting.score = observation.score := by
  unfold sightings
  rw [List.mem_map]
  constructor
  · rintro ⟨⟨observation, index⟩, member, rfl⟩
    obtain ⟨listed, wellFormed⟩ := List.mem_filter.mp member
    exact ⟨observation, List.mk_mem_zipIdx_iff_getElem?.mp listed, wellFormed, rfl, rfl⟩
  · rintro ⟨observation, here, wellFormed, box, score⟩
    obtain ⟨index, _, _⟩ := sighting
    subst box score
    exact ⟨(observation, index),
      List.mem_filter.mpr ⟨List.mk_mem_zipIdx_iff_getElem?.mpr here, wellFormed⟩, rfl⟩

theorem nodup_index_sightings (observations : List (Observation α)) :
    ((sightings observations).map Sighting.index).Nodup := by
  have places : ((sightings observations).map Sighting.index).Sublist
      (observations.zipIdx.map Prod.snd) := by
    unfold sightings
    rw [List.map_map]
    exact List.filter_sublist.map Prod.snd
  rw [List.zipIdx_map_snd] at places
  exact List.Nodup.sublist places List.nodup_range'

/-- No detection is confident and doubtful. -/
theorem nodup_index_columns (settings : TrackerSettings α) (observations : List (Observation α)) :
    (((sightings observations).filter (isConfident settings) ++
      (sightings observations).filter (isDoubtful settings)).map Sighting.index).Nodup := by
  have doubtful : ((sightings observations).filter (isDoubtful settings)).Sublist
      ((sightings observations).filter fun sighting => !isConfident settings sighting) :=
    List.monotone_filter_right _ fun sighting doubtful => (Bool.and_eq_true_iff.mp doubtful).1
  have divided := List.filter_append_perm (isConfident settings) (sightings observations)
  have distinct := ((divided.map Sighting.index).nodup_iff).mpr (nodup_index_sightings observations)
  exact distinct.sublist ((doubtful.append_left _).map Sighting.index)

/-! ## What the passes do with them -/

variable {ρ : Type}

section Passes

variable (trackOf : ρ → Track α) (settings : TrackerSettings α) (pool tentative : List ρ)
  (found : List (Sighting α))

/-- Every confident or doubtful detection is taken by a track or left by the last two passes. -/
theorem perm_continued :
    ((continued (passes trackOf settings pool tentative found)).map Prod.snd ++
      (passes trackOf settings pool tentative found).third.leftColumns ++
        (passes trackOf settings pool tentative found).second.leftColumns).Perm
      (found.filter (isConfident settings) ++ found.filter (isDoubtful settings)) := by
  let passed := passes trackOf settings pool tentative found
  have first : (passed.first.matched.map Prod.snd ++ passed.first.leftColumns).Perm
      (found.filter (isConfident settings)) :=
    Pairing.perm_columns settings.solve (fun row => weighedCost (trackOf row)) _ _ _
  have second : (passed.second.matched.map Prod.snd ++ passed.second.leftColumns).Perm
      (found.filter (isDoubtful settings)) :=
    Pairing.perm_columns settings.solve (fun row => plainCost (trackOf row)) _ _ _
  have third : (passed.third.matched.map Prod.snd ++ passed.third.leftColumns).Perm
      passed.first.leftColumns :=
    Pairing.perm_columns settings.solve (fun row => weighedCost (trackOf row)) _ _ _
  -- the columns of the third pass are those that the first has left
  have together := (((third.append_left _).trans first).append_right _).trans (second.append_left _)
  change ((passed.first.matched ++ passed.second.matched ++ passed.third.matched).map Prod.snd ++
    passed.third.leftColumns ++ passed.second.leftColumns).Perm _
  refine List.Perm.trans ?_ together
  have moved := List.perm_append_comm_assoc (passed.second.matched.map Prod.snd)
    (passed.third.matched.map Prod.snd ++ passed.third.leftColumns) passed.second.leftColumns
  simp only [List.map_append, List.append_assoc] at moved ⊢
  exact moved.append_left _

/-- The detections that a track takes or that begin one. -/
def owned (settings : TrackerSettings α) (associations : Associations ρ α) : List (Sighting α) :=
  (continued associations).map Prod.snd ++ seeds settings associations

theorem sublist_owned :
    (owned settings (passes trackOf settings pool tentative found)).Sublist
      ((continued (passes trackOf settings pool tentative found)).map Prod.snd ++
        (passes trackOf settings pool tentative found).third.leftColumns ++
          (passes trackOf settings pool tentative found).second.leftColumns) :=
  (List.filter_sublist.append_left _).trans (List.sublist_append_left _ _)

/-- A confident detection that may begin a track is taken or begins one. -/
theorem mem_owned
    {sighting : Sighting α} (member : sighting ∈ found) (confident : isConfident settings sighting)
    (seeds : ¬ sighting.score ≤ settings.newTrackThreshold) :
    sighting ∈ owned settings (passes trackOf settings pool tentative found) := by
  have column := List.mem_append_left (found.filter (isDoubtful settings))
    (List.mem_filter.mpr ⟨member, confident⟩)
  have divided := (perm_continued trackOf settings pool tentative found).symm.subset column
  rcases List.mem_append.mp divided with taken | doubtful
  · rcases List.mem_append.mp taken with continued | left
    · exact List.mem_append_left _ continued
    · exact List.mem_append_right _ (List.mem_filter.mpr ⟨left, by simpa using seeds⟩)
  · have second := Pairing.perm_columns settings.solve (fun row => plainCost (trackOf row))
    have column := (second _ _ _).subset (List.mem_append_right _ doubtful)
    have doubtful := (List.mem_filter.mp column).2
    rw [isDoubtful, confident] at doubtful
    exact absurd doubtful (by simp)

end Passes

theorem nodup_index_owned (trackOf : ρ → Track α) (settings : TrackerSettings α)
    (pool tentative : List ρ) (observations : List (Observation α)) :
    ((owned settings
      (passes trackOf settings pool tentative (sightings observations))).map
        Sighting.index).Nodup := by
  have all := (perm_continued trackOf settings pool tentative (sightings observations)).map
    Sighting.index
  have distinct := all.nodup_iff.mpr (nodup_index_columns settings observations)
  exact distinct.sublist ((sublist_owned ..).map Sighting.index)

theorem mem_sightings_of_mem_owned {trackOf : ρ → Track α} {settings : TrackerSettings α}
    {pool tentative : List ρ}
    (member : sighting ∈ owned settings
      (passes trackOf settings pool tentative (sightings observations))) :
    sighting ∈ sightings observations := by
  have column := (perm_continued trackOf settings pool tentative (sightings observations)).subset
    ((sublist_owned ..).subset member)
  rcases List.mem_append.mp column with confident | doubtful
  · exact (List.mem_filter.mp confident).1
  · exact (List.mem_filter.mp doubtful).1

end Tracker

namespace Turn

open TrackPools

/-- The tracks that a detection continues or begins. -/
def seen (turn : Turn α) : List (Track α) := turn.pools.active turn.frame turn.observations

/-- The detections that they have. -/
def owned (turn : Turn α) : List (Sighting α) :=
  Tracker.owned turn.pools.settings (turn.pools.associations turn.observations)

variable {turn : Turn α} {track : Track α}

/-- Each of the tracks has the place and the score of its detection. -/
theorem map_sighting_seen (turn : Turn α) :
    turn.seen.map (fun track => (track.sighting, track.score)) =
      turn.owned.map fun sighting => (some sighting.index, sighting.score) := by
  have started (found : List (Sighting α)) (nextId : Nat) (confirmed : Bool) :
      (Tracker.begun found nextId turn.frame confirmed).map
          (fun track => (track.sighting, track.score)) =
        found.map fun sighting => (some sighting.index, sighting.score) := by
    have firsts := List.zipIdx_map_fst 0 found
    unfold Tracker.begun
    rw [List.map_map]
    nth_rewrite 2 [← firsts]
    rw [List.map_map]
    rfl
  unfold seen active owned Tracker.owned
  rw [List.map_append, List.map_append, List.map_map, List.map_map]
  exact congrArg _ (started ..)

/-- A well-formed detection of a frame that is at a place and has a score. -/
def Detects (turn : Turn α) (index : Nat) (score : α) : Prop :=
  ∃ observation, turn.observations[index]? = some observation ∧
    observation.isWellFormed = true ∧ score = observation.score

theorem exists_detection (member : track ∈ turn.seen) :
    ∃ index, track.sighting = some index ∧ turn.Detects index track.score := by
  have entry := List.mem_map_of_mem (f := fun track : Track α => (track.sighting, track.score)) member
  rw [map_sighting_seen] at entry
  obtain ⟨sighting, inside, same⟩ := List.mem_map.mp entry
  obtain ⟨place, score⟩ := Prod.mk.inj same
  obtain ⟨observation, here, wellFormed, _, scored⟩ :=
    Tracker.mem_sightings.mp (Tracker.mem_sightings_of_mem_owned inside)
  exact ⟨sighting.index, place.symm, observation, here, wellFormed, score.symm.trans scored⟩

theorem nodup_sighting_seen (turn : Turn α) : (turn.seen.map Track.sighting).Nodup := by
  have places := congrArg (List.map Prod.fst) (map_sighting_seen turn)
  rw [List.map_map, List.map_map] at places
  have distinct := (Tracker.nodup_index_owned id turn.pools.settings turn.pools.pool
    turn.pools.tentative turn.observations).map (Option.some_injective Nat)
  rw [List.map_map] at distinct
  exact places ▸ distinct

theorem nodup_sighting_tracked (turn : Turn α) :
    (turn.report.tracked.map TrackReport.sighting).Nodup := by
  have divided := (perm_tracked_after turn.pools turn.frame turn.observations).map Track.sighting
  rw [List.map_append] at divided
  have distinct := divided.nodup_iff.mpr (nodup_sighting_seen turn)
  have reported : turn.report.tracked.map TrackReport.sighting =
      turn.after.tracked.map Track.sighting := by
    rw [report, TrackPools.report, List.map_map]
    rfl
  rw [reported]
  exact (List.nodup_append.mp distinct).1

theorem exists_detection_of_tracked {object : TrackReport α}
    (member : object ∈ turn.report.tracked) :
    ∃ index, object.sighting = some index ∧ turn.Detects index object.score := by
  obtain ⟨track, inside, rfl⟩ := List.mem_map.mp member
  exact exists_detection ((perm_tracked_after turn.pools turn.frame turn.observations).subset
    (List.mem_append_left _ inside))

/-- A track has a detection, and no other track of the turn has it. -/
structure IsOwner (turn : Turn α) (track : Track α) (index : Nat) : Prop where
  seen : track ∈ turn.seen
  sighting : track.sighting = some index
  only : ∀ other ∈ turn.seen, other.sighting = some index → other = track

theorem exists_owner {index : Nat} {score : α} (detects : turn.Detects index score)
    (confident : turn.pools.settings.trackThreshold < score)
    (seeds : ¬ score ≤ turn.pools.settings.newTrackThreshold) :
    ∃ track, turn.IsOwner track index := by
  obtain ⟨observation, here, wellFormed, rfl⟩ := detects
  let sighting : Sighting α := ⟨index, observation.box, observation.score⟩
  have found : sighting ∈ Tracker.sightings turn.observations :=
    Tracker.mem_sightings.mpr ⟨observation, here, wellFormed, rfl, rfl⟩
  have owned : sighting ∈ turn.owned :=
    Tracker.mem_owned id turn.pools.settings turn.pools.pool turn.pools.tentative _ found
      (decide_eq_true confident) seeds
  have entry := List.mem_map_of_mem
    (f := fun sighting : Sighting α => (some sighting.index, sighting.score)) owned
  rw [← map_sighting_seen] at entry
  obtain ⟨track, seen, same⟩ := List.mem_map.mp entry
  have place : track.sighting = some index := congrArg Prod.fst same
  refine ⟨track, seen, place, fun other member otherPlace => ?_⟩
  exact List.inj_on_of_nodup_map (nodup_sighting_seen turn) member seen (otherPlace.trans place.symm)

/-- The tracks of a turn and the detections of its frame. -/
structure Owns (settings : TrackerSettings α) (turn : Turn α) : Prop where
  /-- No detection is shared. -/
  apart : (turn.seen.map Track.sighting).Nodup
  /-- The reported tracks have different detections. -/
  distinct : (turn.report.tracked.map TrackReport.sighting).Nodup
  detected : ∀ object ∈ turn.report.tracked, ∃ index,
    object.sighting = some index ∧ turn.Detects index object.score
  /-- A detection above both thresholds has an owner, which is reported unless it is a duplicate. -/
  owner : ∀ index score, turn.Detects index score → settings.trackThreshold < score →
    settings.newTrackThreshold < score →
      ∃ track, turn.IsOwner track index ∧
        (Tracker.reportOf track ∈ turn.report.tracked ∨ track.id ∈ turn.duplicates)
  /-- Duplicates are given up. -/
  removed : ∀ id ∈ turn.duplicates, id ∈ turn.report.removed

/-- Where a number above another one is not at most that one, the detections of a turn are owned. -/
theorem owns (apart : ∀ low high : α, low < high → ¬ high ≤ low) (turn : Turn α) :
    Owns turn.pools.settings turn where
  apart := nodup_sighting_seen turn
  distinct := nodup_sighting_tracked turn
  detected _ := exists_detection_of_tracked
  owner index score detects confident seeds := by
    obtain ⟨track, owner⟩ := exists_owner detects confident (apart _ _ seeds)
    refine ⟨track, owner, ?_⟩
    rcases reported_or_duplicate owner.seen with kept | duplicate
    · exact Or.inl (List.mem_map_of_mem kept)
    · exact Or.inr duplicate
  removed id duplicate := by
    rw [removed_report]
    exact List.mem_append_right _ duplicate

theorem settings_of_mem_turns {pools : TrackPools α} {inputs : List (Nat × List (Observation α))}
    (member : turn ∈ pools.turns inputs) : turn.pools.settings = pools.settings := by
  have preserved (before : TrackPools α) (frame : Nat) (observations : List (Observation α))
      (same : before.settings = pools.settings) :
      (before.after frame observations).settings = pools.settings :=
    same
  exact invariant_of_mem_turns preserved rfl member

end Turn

end ObjectQuery
