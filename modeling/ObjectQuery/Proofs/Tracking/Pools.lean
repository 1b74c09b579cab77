import Mathlib.Data.List.Count
import Mathlib.Data.List.Range
import ObjectQuery.Proofs.Tracking.Pairing
import ObjectQuery.Tracking.Tracker

/-!
# Trackers by value

`TrackPools` is a tracker that holds its tracks instead of their keys, and `TrackPools.update` is what
an update does to them. `perm_ids_after` is the conservation of track numbers in one update: the numbers
before it and the new ones are those after it and the ones it gives up, none twice. `Staged` says in
which states the tracks of the two pools are, `Dated` when they were last seen.
-/

namespace ObjectQuery

variable {α : Type} [Scalar α]

/-- The rows of the three passes under other names. -/
def Associations.mapRows {ρ π : Type} (rename : ρ → π) (passes : Associations ρ α) :
    Associations π α :=
  ⟨passes.first.mapRows rename, passes.second.mapRows rename, passes.third.mapRows rename⟩

namespace Tracker

variable {ρ π : Type}

/-- The matches of the three passes over rows that carry tracks. -/
def passes (trackOf : ρ → Track α) (settings : TrackerSettings α) (pool tentative : List ρ)
    (found : List (Sighting α)) : Associations ρ α :=
  let first := Pairing.find settings.solve (fun row => weighedCost (trackOf row))
    settings.matchThreshold pool (found.filter (isConfident settings))
  let second := Pairing.find settings.solve (fun row => plainCost (trackOf row))
    settings.lowMatchThreshold
    (first.leftRows.filter fun row => (trackOf row).state = .tracked)
    (found.filter (isDoubtful settings))
  let third := Pairing.find settings.solve (fun row => weighedCost (trackOf row))
    settings.tentativeMatchThreshold tentative first.leftColumns
  ⟨first, second, third⟩

/-- The passes see of a row only its track. -/
theorem passes_map
    (trackOf : π → Track α) (rename : ρ → π) (settings : TrackerSettings α)
    (pool tentative : List ρ) (found : List (Sighting α)) :
    passes trackOf settings (pool.map rename) (tentative.map rename) found =
      (passes (fun row => trackOf (rename row)) settings pool tentative found).mapRows rename := by
  simp only [passes, Associations.mapRows, Pairing.find_map, Pairing.mapRows, List.filter_map,
    Function.comp_def]

end Tracker

/-- A tracker that holds its tracks by value. -/
structure TrackPools (α : Type) where
  settings : TrackerSettings α
  tracked : List (Track α)
  lost : List (Track α)
  frameCount : Nat
  nextId : Nat

namespace TrackPools

open Tracker

/-- The confirmed and the lost tracks, moved on to the frame. -/
def pool (pools : TrackPools α) : List (Track α) :=
  ((pools.tracked.filter fun track => track.confirmed) ++ pools.lost).map fun track =>
    track.unsighted.predict

/-- The tracks that have yet to be confirmed. -/
def tentative (pools : TrackPools α) : List (Track α) :=
  (pools.tracked.filter fun track => !track.confirmed).map Track.unsighted

/-- The matches on a frame. -/
def associations (pools : TrackPools α) (observations : List (Observation α)) :
    Associations (Track α) α :=
  passes id pools.settings pools.pool pools.tentative (sightings observations)

/-- The tracks that begin on a frame. -/
def started (pools : TrackPools α) (frame : Nat) (observations : List (Observation α)) :
    List (Track α) :=
  begun (seeds pools.settings (pools.associations observations)) pools.nextId frame
    (pools.frameCount = 0)

/-- The tracks seen on a frame: those continued, then those that begin. -/
def active (pools : TrackPools α) (frame : Nat) (observations : List (Observation α)) :
    List (Track α) :=
  (continued (pools.associations observations)).map (fun (track, sighting) =>
    track.observe frame sighting) ++ pools.started frame observations

/-- The tracks that are lost: those lost before and not found again, then those lost now. -/
def absent (pools : TrackPools α) (observations : List (Observation α)) : List (Track α) :=
  ((pools.associations observations).first.leftRows.filter fun track => track.state = .lost) ++
    (pools.associations observations).second.leftRows.map Track.markLost

/-- The lost tracks that are not given up for their age. -/
def waiting (pools : TrackPools α) (frame : Nat) (observations : List (Observation α)) :
    List (Track α) :=
  (pools.absent observations).filter fun track => !isExpired pools.settings frame track

/-- The lost tracks that are given up for their age. -/
def expired (pools : TrackPools α) (frame : Nat) (observations : List (Observation α)) :
    List (Track α) :=
  (pools.absent observations).filter fun track => isExpired pools.settings frame track

/-- Which of the active and of the waiting tracks are kept. -/
def kept (pools : TrackPools α) (frame : Nat) (observations : List (Observation α)) :
    List Bool × List Bool :=
  Lifespan.deduplicate ((pools.active frame observations).map lifespan)
    ((pools.waiting frame observations).map lifespan) pools.settings.duplicateDistance

/-- Tracks in the order of their numbers. -/
def byId (tracks : List (Track α)) : List (Track α) :=
  tracks.mergeSort fun a b => decide (a.id ≤ b.id)

/-- The pools after the detections of a frame. -/
def after (pools : TrackPools α) (frame : Nat) (observations : List (Observation α)) :
    TrackPools α :=
  { pools with
    tracked := byId (separate (pools.active frame observations) (pools.kept frame observations).1).1
    lost := byId (separate (pools.waiting frame observations) (pools.kept frame observations).2).1
    frameCount := pools.frameCount + 1
    nextId := pools.nextId + (pools.started frame observations).length }

/-- The tracks that end on a frame, in the order in which they are given up. -/
def ended (pools : TrackPools α) (frame : Nat) (observations : List (Observation α)) :
    List (Track α) :=
  (pools.associations observations).third.leftRows ++ pools.expired frame observations ++
    ((separate (pools.active frame observations) (pools.kept frame observations).1).2 ++
      (separate (pools.waiting frame observations) (pools.kept frame observations).2).2)

/-- What an update leads to. -/
def report (pools : TrackPools α) (frame : Nat) (observations : List (Observation α)) :
    TrackerReport α where
  tracked := (pools.after frame observations).tracked.map reportOf
  lost := (pools.after frame observations).lost.map reportOf
  removed := (pools.ended frame observations).map fun track => track.id
  dropped := (observations.filter fun observation => !observation.isWellFormed).length

/-! ## What an update keeps -/

section Separate

variable {β γ : Type}

theorem perm_separate (items : List β) (flags : List Bool) (full : flags.length = items.length) :
    ((separate items flags).1 ++ (separate items flags).2).Perm items := by
  have split := (List.filter_append_perm (fun entry : β × Bool => entry.2)
    (items.zip flags)).map Prod.fst
  rw [List.map_append, List.map_fst_zip (Nat.le_of_eq full.symm)] at split
  exact split

theorem separate_map (rename : β → γ) (items : List β) (flags : List Bool) :
    separate (items.map rename) flags =
      ((separate items flags).1.map rename, (separate items flags).2.map rename) := by
  simp [separate, List.zip_map_left, List.filter_map, Function.comp_def]

end Separate

theorem length_deduplicate (front back : List (Track α)) (distance : α) :
    (Lifespan.deduplicate (front.map lifespan) (back.map lifespan) distance).1.length =
        front.length ∧
      (Lifespan.deduplicate (front.map lifespan) (back.map lifespan) distance).2.length =
        back.length := by
  simp [Lifespan.deduplicate]

omit [Scalar α] in
theorem perm_byId (tracks : List (Track α)) : (byId tracks).Perm tracks :=
  List.mergeSort_perm tracks _

theorem perm_tracked_after
    (pools : TrackPools α) (frame : Nat) (observations : List (Observation α)) :
    ((pools.after frame observations).tracked ++
      (separate (pools.active frame observations) (pools.kept frame observations).1).2).Perm
        (pools.active frame observations) :=
  ((perm_byId _).append_right _).trans
    (perm_separate _ _ (length_deduplicate _ _ _).1)

theorem perm_lost_after
    (pools : TrackPools α) (frame : Nat) (observations : List (Observation α)) :
    ((pools.after frame observations).lost ++
      (separate (pools.waiting frame observations) (pools.kept frame observations).2).2).Perm
        (pools.waiting frame observations) :=
  ((perm_byId _).append_right _).trans
    (perm_separate _ _ (length_deduplicate _ _ _).2)

theorem perm_waiting_expired
    (pools : TrackPools α) (frame : Nat) (observations : List (Observation α)) :
    (pools.waiting frame observations ++ pools.expired frame observations).Perm
      (pools.absent observations) := by
  have split := List.filter_append_perm (isExpired pools.settings frame)
    (pools.absent observations)
  exact List.perm_append_comm.trans split

/-! ## Where the tracks of a frame come from -/

theorem pool_or_tentative_of_continued
    {pools : TrackPools α} {observations : List (Observation α)} {pair : Track α × Sighting α}
    (member : pair ∈ continued (pools.associations observations)) :
    pair.1 ∈ pools.pool ∨ pair.1 ∈ pools.tentative := by
  rcases List.mem_append.mp member with confirmed | third
  · rcases List.mem_append.mp confirmed with first | second
    · exact Or.inl (Pairing.mem_of_matched first)
    · have remaining := (List.mem_filter.mp (Pairing.mem_of_matched second)).1
      exact Or.inl (Pairing.mem_of_leftRows remaining)
  · exact Or.inr (Pairing.mem_of_matched third)

/-- A track without a detection has been lost before or is lost now. -/
theorem lost_or_marked_of_absent
    {pools : TrackPools α} {observations : List (Observation α)} {track : Track α}
    (member : track ∈ pools.absent observations) :
    (track ∈ pools.pool ∧ track.state = .lost) ∨ ∃ row ∈ pools.pool, row.markLost = track := by
  rcases List.mem_append.mp member with old | new
  · obtain ⟨left, state⟩ := List.mem_filter.mp old
    exact Or.inl ⟨Pairing.mem_of_leftRows left, of_decide_eq_true state⟩
  · obtain ⟨row, left, marked⟩ := List.mem_map.mp new
    have remaining := (List.mem_filter.mp (Pairing.mem_of_leftRows left)).1
    exact Or.inr ⟨row, Pairing.mem_of_leftRows remaining, marked⟩

theorem absent_of_mem_lost_after
    {pools : TrackPools α} {frame : Nat} {observations : List (Observation α)} {track : Track α}
    (member : track ∈ (pools.after frame observations).lost) : track ∈ pools.absent observations := by
  have waiting := (perm_lost_after pools frame observations).subset (List.mem_append_left _ member)
  exact (List.mem_filter.mp waiting).1

/-! ## States -/

/-- Whether a track may stand among the tracked ones. -/
def IsFollowed (track : Track α) : Prop :=
  (track.state = .new ∧ track.confirmed = false) ∨
    (track.state = .tracked ∧ track.confirmed = true)

/-- Whether a track may stand among the lost ones. -/
def IsMissing (track : Track α) : Prop := track.state = .lost ∧ track.confirmed = true

/-- The tracks of each pool are in the states of that pool. -/
structure Staged (pools : TrackPools α) : Prop where
  tracked : ∀ track ∈ pools.tracked, IsFollowed track
  lost : ∀ track ∈ pools.lost, IsMissing track

theorem confirmed_of_mem_pool
    {pools : TrackPools α} (staged : pools.Staged) {track : Track α}
    (member : track ∈ pools.pool) :
    track.confirmed = true ∧ (track.state = .tracked ∨ track.state = .lost) := by
  obtain ⟨before, inside, rfl⟩ := List.mem_map.mp member
  rcases List.mem_append.mp inside with tracked | lost
  · obtain ⟨inside, confirmed⟩ := List.mem_filter.mp tracked
    rcases staged.tracked before inside with ⟨_, unconfirmed⟩ | ⟨state, _⟩
    · rw [unconfirmed] at confirmed
      exact absurd confirmed (by simp)
    · exact ⟨confirmed, Or.inl state⟩
  · obtain ⟨state, confirmed⟩ := staged.lost before lost
    exact ⟨confirmed, Or.inr state⟩

theorem isFollowed_observe (track : Track α) (frame : Nat) (sighting : Sighting α) :
    IsFollowed (track.observe frame sighting) :=
  Or.inr ⟨rfl, rfl⟩

theorem isFollowed_start (sighting : Sighting α) (id frame : Nat) (confirmed : Bool) :
    IsFollowed (Track.start sighting id frame confirmed) := by
  cases confirmed
  · exact Or.inl ⟨rfl, rfl⟩
  · exact Or.inr ⟨rfl, rfl⟩

theorem staged_after
    {pools : TrackPools α} (staged : pools.Staged) (frame : Nat)
    (observations : List (Observation α)) :
    (pools.after frame observations).Staged where
  tracked := by
    intro track member
    have active := (perm_tracked_after pools frame observations).subset
      (List.mem_append_left _ member)
    rcases List.mem_append.mp active with continued | started
    · obtain ⟨pair, _, rfl⟩ := List.mem_map.mp continued
      exact isFollowed_observe pair.1 frame pair.2
    · obtain ⟨entry, _, rfl⟩ := List.mem_map.mp started
      exact isFollowed_start entry.1 (pools.nextId + entry.2) frame _
  lost := by
    intro track member
    rcases lost_or_marked_of_absent (absent_of_mem_lost_after member) with ⟨inPool, state⟩ | ⟨row, inPool, rfl⟩
    · exact ⟨state, (confirmed_of_mem_pool staged inPool).1⟩
    · exact ⟨rfl, (confirmed_of_mem_pool staged inPool).1⟩

/-! ## Dates -/

/-- Every track was last seen before a frame. -/
def SeenBefore (pools : TrackPools α) (frame : Nat) : Prop :=
  ∀ track ∈ pools.tracked ++ pools.lost, track.lastFrame < frame

/-- When the tracks of the two pools were last seen, for pools as they are after a frame. -/
structure Dated (pools : TrackPools α) (frame : Nat) : Prop where
  tracked : ∀ track ∈ pools.tracked, track.lastFrame = frame ∧ track.sighting.isSome
  lost : ∀ track ∈ pools.lost, track.lastFrame < frame ∧ track.sighting = none

theorem seen_of_mem_tracked_after
    {pools : TrackPools α} {frame : Nat} {observations : List (Observation α)} {track : Track α}
    (member : track ∈ (pools.after frame observations).tracked) :
    track.lastFrame = frame ∧ track.sighting.isSome := by
  have active := (perm_tracked_after pools frame observations).subset
    (List.mem_append_left _ member)
  rcases List.mem_append.mp active with continued | started
  · obtain ⟨pair, _, rfl⟩ := List.mem_map.mp continued
    exact ⟨rfl, rfl⟩
  · obtain ⟨entry, _, rfl⟩ := List.mem_map.mp started
    exact ⟨rfl, rfl⟩

theorem unseen_of_mem_pool
    {pools : TrackPools α} {frame : Nat} (before : pools.SeenBefore frame) {track : Track α}
    (member : track ∈ pools.pool) :
    track.lastFrame < frame ∧ track.sighting = none := by
  obtain ⟨earlier, inside, rfl⟩ := List.mem_map.mp member
  refine ⟨before earlier ?_, rfl⟩
  exact (List.filter_sublist.append_right pools.lost).subset inside

theorem unseen_of_mem_lost_after
    {pools : TrackPools α} {frame bound : Nat} (before : pools.SeenBefore bound)
    {observations : List (Observation α)} {track : Track α}
    (member : track ∈ (pools.after frame observations).lost) :
    track.lastFrame < bound ∧ track.sighting = none := by
  rcases lost_or_marked_of_absent (absent_of_mem_lost_after member) with ⟨inPool, _⟩ | ⟨row, inPool, rfl⟩
  · exact unseen_of_mem_pool before inPool
  · exact ⟨(unseen_of_mem_pool before inPool).1, rfl⟩

/-- On a frame after all earlier ones the tracked ones are seen and the lost ones are not. -/
theorem dated_after
    {pools : TrackPools α} {frame : Nat} (before : pools.SeenBefore frame)
    (observations : List (Observation α)) :
    (pools.after frame observations).Dated frame where
  tracked := fun _ => seen_of_mem_tracked_after
  lost := fun _ => unseen_of_mem_lost_after before

theorem seenBefore_after
    {pools : TrackPools α} {frame bound : Nat} (before : pools.SeenBefore bound)
    (earlier : frame < bound) (observations : List (Observation α)) :
    (pools.after frame observations).SeenBefore bound := by
  intro track member
  rcases List.mem_append.mp member with tracked | lost
  · exact Nat.lt_of_le_of_lt (Nat.le_of_eq (seen_of_mem_tracked_after tracked).1) earlier
  · exact (unseen_of_mem_lost_after before lost).1

/-! ## Numbers -/

/-- The numbers of tracks. -/
def ids (tracks : List (Track α)) : List Nat := tracks.map fun track => track.id

omit [Scalar α] in
theorem count_ids_append (id : Nat) (front back : List (Track α)) :
    (ids (front ++ back)).count id = (ids front).count id + (ids back).count id := by
  rw [ids, List.map_append, List.count_append]
  rfl

omit [Scalar α] in
theorem count_ids_of_perm (id : Nat) {front back : List (Track α)} (same : front.Perm back) :
    (ids front).count id = (ids back).count id :=
  (same.map _).count_eq id

theorem ids_pool (pools : TrackPools α) :
    ids pools.pool = ids ((pools.tracked.filter fun track => track.confirmed) ++ pools.lost) := by
  simp [ids, pool, Function.comp_def, Track.unsighted, Track.predict]

omit [Scalar α] in
theorem ids_tentative (pools : TrackPools α) :
    ids pools.tentative = ids (pools.tracked.filter fun track => !track.confirmed) := by
  simp [ids, tentative, Function.comp_def, Track.unsighted]

/-- Every track of the pool and every tentative one is continued, left by the first pass although it
was lost, left by the second pass, or left by the third. -/
theorem count_ids_associations
    {pools : TrackPools α} (staged : pools.Staged) (observations : List (Observation α)) (id : Nat) :
    (ids ((continued (pools.associations observations)).map Prod.fst)).count id +
        (ids ((pools.associations observations).first.leftRows.filter fun track =>
          track.state = .lost)).count id +
        (ids (pools.associations observations).second.leftRows).count id +
        (ids (pools.associations observations).third.leftRows).count id =
      (ids pools.tracked).count id + (ids pools.lost).count id := by
  let passed := pools.associations observations
  have first : (passed.first.matched.map Prod.fst ++ passed.first.leftRows).Perm pools.pool :=
    Pairing.perm_rows ..
  have second : (passed.second.matched.map Prod.fst ++ passed.second.leftRows).Perm
      (passed.first.leftRows.filter fun track => track.state = .tracked) :=
    Pairing.perm_rows ..
  have third : (passed.third.matched.map Prod.fst ++ passed.third.leftRows).Perm pools.tentative :=
    Pairing.perm_rows ..
  -- in the pool a track that is not tracked is lost
  have unseen : (passed.first.leftRows.filter fun track => track.state = .lost) =
      passed.first.leftRows.filter fun track => !decide (track.state = .tracked) := by
    refine List.filter_congr fun track member => ?_
    rcases (confirmed_of_mem_pool staged (Pairing.mem_of_leftRows member)).2 with state | state <;>
      simp [state]
  have divided := List.filter_append_perm
    (fun track : Track α => decide (track.state = .tracked)) passed.first.leftRows
  have confirmed := List.filter_append_perm (fun track : Track α => track.confirmed) pools.tracked
  have firstCount := count_ids_of_perm id first
  have secondCount := count_ids_of_perm id second
  have thirdCount := count_ids_of_perm id third
  have dividedCount := count_ids_of_perm id divided
  have confirmedCount := count_ids_of_perm id confirmed
  rw [ids_pool] at firstCount
  rw [ids_tentative] at thirdCount
  change (ids ((continued passed).map Prod.fst)).count id +
    (ids (passed.first.leftRows.filter fun track => track.state = .lost)).count id +
    (ids passed.second.leftRows).count id + (ids passed.third.leftRows).count id = _
  rw [unseen]
  simp only [continued, List.map_append, count_ids_append] at *
  omega

/-- New tracks are numbered in order. -/
theorem ids_begun (found : List (Sighting α)) (nextId frame : Nat) (confirmed : Bool) :
    ids (begun found nextId frame confirmed) = List.range' nextId found.length := by
  have numbered : ∀ first,
      (found.zipIdx first).map (fun entry =>
        (Track.start entry.1 (nextId + entry.2) frame confirmed).id) =
          List.range' (nextId + first) found.length := by
    induction found with
    | nil => exact fun _ => rfl
    | cons sighting found inductionHypothesis =>
        intro first
        rw [List.zipIdx_cons, List.map_cons, inductionHypothesis, List.length_cons,
          List.range'_succ]
        rfl
  rw [ids, begun, List.map_map]
  exact numbered 0

theorem ids_active
    (pools : TrackPools α) (frame : Nat) (observations : List (Observation α)) :
    ids (pools.active frame observations) =
      ids ((continued (pools.associations observations)).map Prod.fst) ++
        List.range' pools.nextId (pools.started frame observations).length := by
  have numbered := ids_begun (seeds pools.settings (pools.associations observations)) pools.nextId
    frame (decide (pools.frameCount = 0))
  have length : (pools.started frame observations).length =
      (seeds pools.settings (pools.associations observations)).length := by
    simp [started, begun]
  rw [length, ← numbered]
  simp [ids, active, started, Function.comp_def, Track.observe]

/-- Every new track has a detection of its own. -/
theorem length_started_le
    (pools : TrackPools α) (frame : Nat) (observations : List (Observation α)) :
    (pools.started frame observations).length ≤ observations.length := by
  have numbered : (pools.started frame observations).length =
      (seeds pools.settings (pools.associations observations)).length := by
    simp [started, begun]
  have seen : (sightings observations).length ≤ observations.length := by
    rw [sightings, List.length_map]
    exact Nat.le_trans (List.length_filter_le _ _) (Nat.le_of_eq List.length_zipIdx)
  calc (pools.started frame observations).length
      ≤ (pools.associations observations).third.leftColumns.length := by
        rw [numbered]
        exact List.length_filter_le _ _
    _ ≤ (pools.associations observations).first.leftColumns.length :=
        Pairing.length_leftColumns_le ..
    _ ≤ ((sightings observations).filter (isConfident pools.settings)).length :=
        Pairing.length_leftColumns_le ..
    _ ≤ observations.length := Nat.le_trans (List.length_filter_le _ _) seen

theorem count_ids_absent
    (pools : TrackPools α) (observations : List (Observation α)) (id : Nat) :
    (ids (pools.absent observations)).count id =
      (ids ((pools.associations observations).first.leftRows.filter fun track =>
        track.state = .lost)).count id +
        (ids (pools.associations observations).second.leftRows).count id := by
  rw [absent, count_ids_append]
  congr 2
  simp [ids, Function.comp_def, Track.markLost]

/-- The numbers before an update and the new ones are those seen, those lost and those of tentative
tracks that are not seen again. -/
theorem perm_ids_active
    {pools : TrackPools α} (staged : pools.Staged) (frame : Nat)
    (observations : List (Observation α)) :
    (ids (pools.active frame observations) ++ ids (pools.absent observations) ++
        ids (pools.associations observations).third.leftRows).Perm
      (ids pools.tracked ++ ids pools.lost ++
        List.range' pools.nextId (pools.started frame observations).length) := by
  refine List.perm_iff_count.mpr fun id => ?_
  have passedCount := count_ids_associations staged observations id
  have absentCount := count_ids_absent pools observations id
  rw [ids_active]
  simp only [List.count_append] at *
  omega

/-- The numbers before an update and the new ones are those after it and those it gives up. -/
theorem perm_ids_after
    {pools : TrackPools α} (staged : pools.Staged) (frame : Nat)
    (observations : List (Observation α)) :
    (ids (pools.after frame observations).tracked ++ ids (pools.after frame observations).lost ++
        ids (pools.ended frame observations)).Perm
      (ids pools.tracked ++ ids pools.lost ++
        List.range' pools.nextId (pools.started frame observations).length) := by
  refine (List.perm_iff_count.mpr fun id => ?_).trans (perm_ids_active staged frame observations)
  have trackedCount := count_ids_of_perm id (perm_tracked_after pools frame observations)
  have lostCount := count_ids_of_perm id (perm_lost_after pools frame observations)
  have waitingCount := count_ids_of_perm id (perm_waiting_expired pools frame observations)
  simp only [ended, count_ids_append, List.count_append] at *
  omega

/-! ## Order -/

omit [Scalar α] in
theorem pairwise_byId (tracks : List (Track α)) :
    (byId tracks).Pairwise fun a b => a.id ≤ b.id := by
  have transitive : ∀ a b c : Track α,
      decide (a.id ≤ b.id) → decide (b.id ≤ c.id) → decide (a.id ≤ c.id) := by
    intro a b c first second
    exact decide_eq_true (Nat.le_trans (of_decide_eq_true first) (of_decide_eq_true second))
  have total : ∀ a b : Track α, (decide (a.id ≤ b.id) || decide (b.id ≤ a.id)) = true := by
    intro a b
    simpa using Nat.le_total a.id b.id
  exact (List.pairwise_mergeSort transitive total tracks).imp of_decide_eq_true

omit [Scalar α] in
/-- Sorted tracks with different numbers stand in strictly ascending order. -/
theorem pairwise_lt_byId {tracks : List (Track α)} (distinct : (ids (byId tracks)).Nodup) :
    (ids (byId tracks)).Pairwise (· < ·) := by
  have sorted : (ids (byId tracks)).Pairwise (· ≤ ·) := List.pairwise_map.mpr (pairwise_byId tracks)
  exact (sorted.and distinct).imp fun both => Nat.lt_of_le_of_ne both.1 both.2

end TrackPools

end ObjectQuery
