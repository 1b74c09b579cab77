import ObjectQuery.Proofs.Tracking.Representation
import ObjectQuery.Tracking.Config

/-!
# Runs of a tracker

A run gives a tracker one frame of detections after another. `exists_run` is the invariant that every
run from the start keeps: it has a result, which stands for pools in which each track is in the state
of its pool and in which the numbers given out so far are those of the tracks that live and those that
were reported as removed. `pooled_of_run` and `numbers_of_run` read the two main results off it.
-/

namespace ObjectQuery

open Storage

variable {α : Type} [Scalar α] {σ : Type → Type} [Storage σ]

namespace Tracker

/-- The tracker after the detections of frame after frame, and what each of them has led to. -/
def run? (tracker : Tracker α σ) :
    List (Nat × List (Observation α)) → Option (Tracker α σ × List (TrackerReport α))
  | [] => some (tracker, [])
  | (frame, observations) :: rest => do
    let (after, report) ← tracker.update? frame observations
    let (last, reports) ← after.run? rest
    return (last, report :: reports)

/-- One more frame at the end of a run. -/
theorem run?_concat
    {tracker last after : Tracker α σ} {inputs : List (Nat × List (Observation α))}
    {reports : List (TrackerReport α)} {frame : Nat} {observations : List (Observation α)}
    {report : TrackerReport α} (ran : tracker.run? inputs = some (last, reports))
    (updated : last.update? frame observations = some (after, report)) :
    tracker.run? (inputs ++ [(frame, observations)]) = some (after, reports ++ [report]) := by
  induction inputs generalizing tracker reports with
  | nil =>
      obtain ⟨rfl, rfl⟩ := Prod.mk.inj (Option.some.inj ran)
      simp [run?, updated]
  | cons input rest inductionHypothesis =>
      obtain ⟨⟨next, first⟩, firstEq, ran⟩ := Option.bind_eq_some_iff.mp ran
      obtain ⟨⟨final, later⟩, laterEq, ran⟩ := Option.bind_eq_some_iff.mp ran
      obtain ⟨rfl, rfl⟩ := Prod.mk.inj (Option.some.inj ran)
      simp [run?, firstEq, inductionHypothesis laterEq]

end Tracker

namespace TrackPools

/-- No tracks, and nothing given out. -/
def start (settings : TrackerSettings α) : TrackPools α := ⟨settings, [], [], 0, 1⟩

/-- What holds of the pools of a tracker that has reported some numbers as removed: every track is in
the state of its pool, and the numbers given out are those of the tracks and the removed ones. -/
structure Standing (pools : TrackPools α) (removed : List Nat) : Prop where
  staged : pools.Staged
  positive : 1 ≤ pools.nextId
  conserved : (ids pools.tracked ++ ids pools.lost ++ removed).Perm
    (List.range' 1 (pools.nextId - 1))

omit [Scalar α] in
theorem standing_start (settings : TrackerSettings α) : (start settings).Standing [] where
  staged := ⟨by simp [start], by simp [start]⟩
  positive := Nat.le_refl 1
  conserved := List.Perm.refl []

theorem standing_after
    {pools : TrackPools α} {removed : List Nat} (standing : pools.Standing removed) (frame : Nat)
    (observations : List (Observation α)) :
    (pools.after frame observations).Standing
      (removed ++ (pools.report frame observations).removed) where
  staged := staged_after standing.staged frame observations
  positive := Nat.le_add_right_of_le standing.positive
  conserved := by
    have positive := standing.positive
    have numbers : List.range' 1 ((pools.after frame observations).nextId - 1) =
        List.range' 1 (pools.nextId - 1) ++
          List.range' pools.nextId (pools.started frame observations).length := by
      have place : 1 + (pools.nextId - 1) = pools.nextId := by omega
      have total : (pools.after frame observations).nextId - 1 =
          (pools.nextId - 1) + (pools.started frame observations).length :=
        Nat.sub_add_comm positive
      rw [total, ← List.range'_append_1, place]
    have updated := perm_ids_after standing.staged frame observations
    have conserved := standing.conserved
    rw [numbers]
    change (_ ++ (removed ++ ids (pools.ended frame observations))).Perm _
    refine List.perm_iff_count.mpr fun id => ?_
    have updatedCount := updated.count_eq id
    have conservedCount := conserved.count_eq id
    simp only [List.count_append] at *
    omega

omit [Scalar α] in
theorem Standing.nodup
    {pools : TrackPools α} {removed : List Nat} (standing : pools.Standing removed) :
    (ids pools.tracked ++ ids pools.lost ++ removed).Nodup :=
  standing.conserved.nodup_iff.mpr List.nodup_range'

omit [Scalar α] in
/-- The tracks have numbers that have been given out. -/
theorem Standing.lt_nextId
    {pools : TrackPools α} {removed : List Nat} (standing : pools.Standing removed) {id : Nat}
    (member : id ∈ ids pools.tracked ++ ids pools.lost) :
    id < pools.nextId := by
  have given := standing.conserved.subset (List.mem_append_left _ member)
  have positive := standing.positive
  have bound := (List.mem_range'_1.mp given).2
  omega

theorem tracked_report (pools : TrackPools α) (frame : Nat) (observations : List (Observation α)) :
    (pools.report frame observations).tracked.map TrackReport.id =
      ids (pools.after frame observations).tracked := by
  rw [report, List.map_map]
  rfl

theorem lost_report (pools : TrackPools α) (frame : Nat) (observations : List (Observation α)) :
    (pools.report frame observations).lost.map TrackReport.id =
      ids (pools.after frame observations).lost := by
  rw [report, List.map_map]
  rfl

/-- The reported tracks stand in strictly ascending order. -/
theorem ascending_report
    {pools : TrackPools α} {removed : List Nat} (standing : pools.Standing removed) (frame : Nat)
    (observations : List (Observation α)) :
    ((pools.report frame observations).tracked.map TrackReport.id).Pairwise (· < ·) ∧
      ((pools.report frame observations).lost.map TrackReport.id).Pairwise (· < ·) := by
  have distinct := (standing_after standing frame observations).nodup
  obtain ⟨trackedDistinct, lostDistinct, _⟩ :=
    List.nodup_append.mp (List.nodup_append.mp distinct).1
  rw [tracked_report, lost_report]
  exact ⟨pairwise_lt_byId trackedDistinct, pairwise_lt_byId lostDistinct⟩

end TrackPools

namespace Tracker

/-! ## Every run -/

variable [LawfulStorage σ]

omit [Scalar α] in
theorem represents_start (className : String) (settings : TrackerSettings α) :
    (start className settings : Tracker α σ).Represents (TrackPools.start settings) [] [] where
  holds := holds_empty
  trackedKeys := rfl
  lostKeys := rfl
  trackedTracks := rfl
  lostTracks := rfl
  settings := rfl
  frameCount := rfl
  nextId := rfl

/-- The numbers that reports list as removed. -/
def removedBy (reports : List (TrackerReport α)) : List Nat :=
  reports.flatMap TrackerReport.removed

/-- What an earlier report lists as removed is nowhere in a later one. -/
def NeverAgain (earlier later : TrackerReport α) : Prop :=
  ∀ id ∈ earlier.removed,
    id ∉ later.tracked.map TrackReport.id ∧ id ∉ later.lost.map TrackReport.id ∧
      id ∉ later.removed

/-- What holds of a tracker and its reports after a run over given frames. -/
structure Followed (tracker : Tracker α σ) (reports : List (TrackerReport α))
    (frames : List Nat) (pools : TrackPools α) (tracked lost : List (Nat × Track α)) : Prop where
  represents : tracker.Represents pools tracked lost
  standing : pools.Standing (removedBy reports)
  apart : reports.Pairwise NeverAgain
  before : ∀ bound, (∀ frame ∈ frames, frame < bound) → pools.SeenBefore bound

theorem followed_update
    {tracker : Tracker α σ} {reports : List (TrackerReport α)} {frames : List Nat}
    {pools : TrackPools α} {tracked lost : List (Nat × Track α)}
    (followed : tracker.Followed reports frames pools tracked lost) (frame : Nat)
    (observations : List (Observation α)) :
    ∃ after tracked' lost',
      tracker.update? frame observations = some (after, pools.report frame observations) ∧
        after.Followed (reports ++ [pools.report frame observations]) (frames ++ [frame])
          (pools.after frame observations) tracked' lost' := by
  obtain ⟨after, tracked', lost', updated, represents⟩ :=
    update?_represents followed.represents followed.standing.staged frame observations
  have standing := TrackPools.standing_after followed.standing frame observations
  refine ⟨after, tracked', lost', updated, represents, ?_, ?_, ?_⟩
  · have removed : removedBy (reports ++ [pools.report frame observations]) =
        removedBy reports ++ (pools.report frame observations).removed := by
      simp [removedBy]
    rw [removed]
    exact standing
  · refine List.pairwise_append.mpr ⟨followed.apart, List.pairwise_singleton _ _, ?_⟩
    intro earlier member later here id gone
    rw [List.mem_singleton.mp here, TrackPools.tracked_report, TrackPools.lost_report]
    have listed : id ∈ removedBy reports := List.mem_flatMap.mpr ⟨earlier, member, gone⟩
    obtain ⟨_, removedApart, fresh⟩ := List.nodup_append.mp standing.nodup
    have absent := fun live => fresh id live id (List.mem_append_left _ listed) rfl
    refine ⟨fun live => absent (List.mem_append_left _ live),
      fun live => absent (List.mem_append_right _ live), fun again => ?_⟩
    exact (List.nodup_append.mp removedApart).2.2 id listed id again rfl
  · intro bound earlier
    refine TrackPools.seenBefore_after (followed.before bound fun other member => ?_) ?_
      observations
    · exact earlier other (List.mem_append_left _ member)
    · exact earlier frame (by simp)

omit [Scalar α] in
theorem followed_start (className : String) (settings : TrackerSettings α) :
    (start className settings : Tracker α σ).Followed [] [] (TrackPools.start settings) [] [] where
  represents := represents_start className settings
  standing := TrackPools.standing_start settings
  apart := List.Pairwise.nil
  before := fun _ _ _ member => absurd member List.not_mem_nil

/-- Every run from the start has a result, and what it leads to is as it should be. -/
theorem exists_run
    (className : String) (settings : TrackerSettings α)
    (inputs : List (Nat × List (Observation α))) :
    ∃ (tracker : Tracker α σ) (reports : List (TrackerReport α)) (pools : TrackPools α)
      (tracked lost : List (Nat × Track α)),
      (start className settings : Tracker α σ).run? inputs = some (tracker, reports) ∧
        tracker.Followed reports (inputs.map Prod.fst) pools tracked lost := by
  induction inputs using List.reverseRecOn with
  | nil =>
      exact ⟨start className settings, [], TrackPools.start settings, [], [], rfl,
        followed_start className settings⟩
  | append_singleton inputs input inductionHypothesis =>
      obtain ⟨frame, observations⟩ := input
      obtain ⟨tracker, reports, pools, tracked, lost, ran, followed⟩ := inductionHypothesis
      obtain ⟨after, tracked', lost', updated, followed⟩ :=
        followed_update followed frame observations
      refine ⟨after, _, pools.after frame observations, tracked', lost', run?_concat ran updated, ?_⟩
      rw [List.map_append]
      exact followed

omit [Scalar α] [LawfulStorage σ] in
theorem Represents.keys_eq {tracker : Tracker α σ} {pools : TrackPools α}
    {tracked lost : List (Nat × Track α)} (represents : tracker.Represents pools tracked lost) :
    tracker.tracked ++ tracker.lost = (tracked ++ lost).map Prod.fst := by
  rw [List.map_append, represents.trackedKeys, represents.lostKeys]

omit [Scalar α] [LawfulStorage σ] in
theorem Represents.numbers_eq {tracker : Tracker α σ} {pools : TrackPools α}
    {tracked lost : List (Nat × Track α)} (represents : tracker.Represents pools tracked lost) :
    (tracked ++ lost).map (fun row => row.2.id) =
      TrackPools.ids pools.tracked ++ TrackPools.ids pools.lost := by
  rw [List.map_append, ← represents.trackedTracks, ← represents.lostTracks, TrackPools.ids,
    TrackPools.ids, List.map_map, List.map_map]
  rfl

/-! ## A tracker in use -/

/-- A tracker as a run leaves it. -/
def IsReached (tracker : Tracker α σ) : Prop :=
  ∃ reports frames pools tracked lost, tracker.Followed reports frames pools tracked lost

omit [Scalar α] in
theorem isReached_start (className : String) (settings : TrackerSettings α) :
    (start className settings : Tracker α σ).IsReached :=
  ⟨[], [], TrackPools.start settings, [], [], followed_start className settings⟩

/-- The numbers in a report are all different, and given out. -/
structure Numbered (report : TrackerReport α) (nextId : Nat) : Prop where
  distinct : (report.tracked.map TrackReport.id ++ report.lost.map TrackReport.id).Nodup
  given : ∀ id ∈ report.tracked.map TrackReport.id ++ report.lost.map TrackReport.id, id < nextId

/-- An update of a tracker as a run leaves it. -/
theorem IsReached.update
    {tracker : Tracker α σ} (reached : tracker.IsReached) (frame : Nat)
    (observations : List (Observation α)) :
    (tracker.update frame observations).1.IsReached ∧
      Numbered (tracker.update frame observations).2
        (tracker.update frame observations).1.nextId ∧
        (tracker.update frame observations).1.nextId ≤ tracker.nextId + observations.length := by
  obtain ⟨reports, frames, pools, tracked, lost, followed⟩ := reached
  obtain ⟨after, tracked', lost', updated, followedAfter⟩ :=
    followed_update followed frame observations
  have result : tracker.update frame observations = (after, pools.report frame observations) := by
    rw [Tracker.update, updated, Option.getD_some]
  have nextId := followedAfter.represents.nextId
  rw [result]
  refine ⟨⟨_, _, _, tracked', lost', followedAfter⟩, ⟨?_, fun id member => ?_⟩, ?_⟩
  · rw [TrackPools.tracked_report, TrackPools.lost_report]
    exact (List.nodup_append.mp followedAfter.standing.nodup).1
  · rw [TrackPools.tracked_report, TrackPools.lost_report] at member
    rw [nextId]
    exact followedAfter.standing.lt_nextId member
  · rw [nextId, followed.represents.nextId]
    exact Nat.add_le_add_left (TrackPools.length_started_le pools frame observations) _

/-- A tracker as a run leaves it that has given up a track. -/
def HasRemoved (tracker : Tracker α σ) (id : Nat) : Prop :=
  ∃ reports frames pools tracked lost,
    tracker.Followed reports frames pools tracked lost ∧ id ∈ removedBy reports

/-- A track that is given up in a report or has been given up before. -/
structure GivenUp (tracker : Tracker α σ) (report : TrackerReport α) (id : Nat) : Prop where
  removed : tracker.HasRemoved id
  untracked : id ∉ report.tracked.map TrackReport.id
  unsought : id ∉ report.lost.map TrackReport.id

theorem Followed.givenUp
    {tracker : Tracker α σ} {reports : List (TrackerReport α)} {frames : List Nat}
    {pools : TrackPools α} {tracked lost : List (Nat × Track α)}
    (followed : tracker.Followed reports frames pools tracked lost) {frame : Nat}
    {observations : List (Observation α)} {id : Nat}
    (listed : id ∈ removedBy reports ∨ id ∈ (tracker.update frame observations).2.removed) :
    GivenUp (tracker.update frame observations).1 (tracker.update frame observations).2 id := by
  obtain ⟨after, tracked', lost', updated, followedAfter⟩ :=
    followed_update followed frame observations
  have result : tracker.update frame observations = (after, pools.report frame observations) := by
    rw [Tracker.update, updated, Option.getD_some]
  rw [result] at listed ⊢
  have removed : id ∈ removedBy (reports ++ [pools.report frame observations]) := by
    unfold removedBy
    rw [List.flatMap_append, List.flatMap_singleton]
    exact List.mem_append.mpr listed
  have fresh := (List.nodup_append.mp followedAfter.standing.nodup).2.2
  refine ⟨⟨_, _, _, tracked', lost', followedAfter, removed⟩, fun live => ?_, fun live => ?_⟩
  · rw [TrackPools.tracked_report] at live
    exact fresh id (List.mem_append_left _ live) id removed rfl
  · rw [TrackPools.lost_report] at live
    exact fresh id (List.mem_append_right _ live) id removed rfl

theorem IsReached.givenUp
    {tracker : Tracker α σ} (reached : tracker.IsReached) {frame : Nat}
    {observations : List (Observation α)} {id : Nat}
    (removed : id ∈ (tracker.update frame observations).2.removed) :
    GivenUp (tracker.update frame observations).1 (tracker.update frame observations).2 id := by
  obtain ⟨reports, frames, pools, tracked, lost, followed⟩ := reached
  exact followed.givenUp (Or.inr removed)

theorem HasRemoved.givenUp
    {tracker : Tracker α σ} {id : Nat} (removed : tracker.HasRemoved id) (frame : Nat)
    (observations : List (Observation α)) :
    GivenUp (tracker.update frame observations).1 (tracker.update frame observations).2 id := by
  obtain ⟨reports, frames, pools, tracked, lost, followed, listed⟩ := removed
  exact followed.givenUp (Or.inl listed)

/-- A tracker has a track among those it follows or those it has lost. -/
def HoldsTrack (tracker : Tracker α σ) (id : Nat) : Prop :=
  ∃ key ∈ tracker.tracked ++ tracker.lost, ∃ track,
    read? tracker.tracks key = some track ∧ track.id = id

omit [Scalar α] [LawfulStorage σ] in
theorem Represents.holdsTrack_iff {tracker : Tracker α σ} {pools : TrackPools α}
    {tracked lost : List (Nat × Track α)} (represents : tracker.Represents pools tracked lost)
    {id : Nat} :
    tracker.HoldsTrack id ↔ id ∈ TrackPools.ids pools.tracked ++ TrackPools.ids pools.lost := by
  unfold HoldsTrack
  rw [represents.keys_eq, ← represents.numbers_eq, List.mem_map]
  constructor
  · rintro ⟨key, _, track, found, named⟩
    exact ⟨(key, track), (represents.holds.reads key track).mp found, named⟩
  · rintro ⟨row, member, named⟩
    exact ⟨row.1, List.mem_map_of_mem member, row.2,
      (represents.holds.reads row.1 row.2).mpr member, named⟩

/-- A tracker has the tracks that it reports as tracked or lost, and no others. -/
theorem IsReached.holdsTrack_iff {tracker : Tracker α σ} (reached : tracker.IsReached) {frame : Nat}
    {observations : List (Observation α)} {id : Nat} :
    (tracker.update frame observations).1.HoldsTrack id ↔
      id ∈ (tracker.update frame observations).2.tracked.map TrackReport.id ++
        (tracker.update frame observations).2.lost.map TrackReport.id := by
  obtain ⟨reports, frames, pools, tracked, lost, followed⟩ := reached
  obtain ⟨after, tracked', lost', updated, followedAfter⟩ :=
    followed_update followed frame observations
  have result : tracker.update frame observations = (after, pools.report frame observations) := by
    rw [Tracker.update, updated, Option.getD_some]
  rw [result, TrackPools.tracked_report, TrackPools.lost_report]
  exact followedAfter.represents.holdsTrack_iff

/-! ## The pools after a run -/

/-- The two key lists of a tracker after a frame. -/
structure Pooled (tracker : Tracker α σ) (frame : Nat) : Prop where
  /-- No key is listed twice, neither in one list nor in both. -/
  distinct : (tracker.tracked ++ tracker.lost).Nodup
  /-- The listed keys are those in use. -/
  listed : ∀ key, (read? tracker.tracks key).isSome ↔ key ∈ tracker.tracked ++ tracker.lost
  tracked : ∀ key ∈ tracker.tracked, ∀ track, read? tracker.tracks key = some track →
    TrackPools.IsFollowed track ∧ track.lastFrame = frame ∧ track.sighting.isSome
  lost : ∀ key ∈ tracker.lost, ∀ track, read? tracker.tracks key = some track →
    TrackPools.IsMissing track ∧ track.lastFrame < frame ∧ track.sighting = none
  numbered : ∀ key track, read? tracker.tracks key = some track → track.id < tracker.nextId
  /-- Tracks under different keys have different numbers. -/
  identified : ∀ key other track another, read? tracker.tracks key = some track →
    read? tracker.tracks other = some another → track.id = another.id → key = other

section Pooled

variable {tracker : Tracker α σ} {pools : TrackPools α} {tracked lost : List (Nat × Track α)}

omit [Scalar α] [LawfulStorage σ] in
/-- What is read under a key of one of two lists is an entry of that list. -/
theorem mem_of_read?
    {tracks : σ (Track α)} {part rest : List (Nat × Track α)} (holds : Holds tracks (part ++ rest))
    {key : Nat} {track : Track α} (listed : key ∈ part.map Prod.fst)
    (found : read? tracks key = some track) :
    (key, track) ∈ part := by
  have distinct := holds.distinct
  rw [List.map_append] at distinct
  rcases List.mem_append.mp ((holds.reads key track).mp found) with here | there
  · exact here
  · exact absurd rfl ((List.nodup_append.mp distinct).2.2 key listed key
      (List.mem_map_of_mem there))

omit [Scalar α] [LawfulStorage σ] in
theorem Represents.pooled
    (represents : tracker.Represents pools tracked lost) {removed : List Nat}
    (standing : pools.Standing removed) {frame : Nat} (dated : pools.Dated frame) :
    tracker.Pooled frame := by
  have keys := represents.keys_eq
  have numbers := represents.numbers_eq
  have reads := represents.holds.reads
  refine
    { distinct := keys ▸ represents.holds.distinct
      listed := fun key => ?_
      tracked := fun key member track found => ?_
      lost := fun key member track found => ?_
      numbered := fun key track found => ?_
      identified := fun key other track another found foundOther same => ?_ }
  · rw [keys, Option.isSome_iff_exists, List.mem_map]
    constructor
    · rintro ⟨track, found⟩
      exact ⟨(key, track), (reads key track).mp found, rfl⟩
    · rintro ⟨row, member, rfl⟩
      exact ⟨row.2, (reads row.1 row.2).mpr member⟩
  · rw [represents.trackedKeys] at member
    have entry := mem_of_read? represents.holds member found
    have inside : track ∈ pools.tracked :=
      represents.trackedTracks ▸ List.mem_map_of_mem entry
    exact ⟨standing.staged.tracked track inside, dated.tracked track inside⟩
  · rw [represents.lostKeys] at member
    have entry := mem_of_read? (represents.holds.perm List.perm_append_comm) member found
    have inside : track ∈ pools.lost := represents.lostTracks ▸ List.mem_map_of_mem entry
    exact ⟨standing.staged.lost track inside, dated.lost track inside⟩
  · have entry := (reads key track).mp found
    rw [represents.nextId]
    apply standing.lt_nextId
    rw [← numbers]
    exact List.mem_map_of_mem entry
  · have distinct := (List.nodup_append.mp standing.nodup).1
    rw [← numbers] at distinct
    have equal := List.inj_on_of_nodup_map distinct ((reads key track).mp found)
      ((reads other another).mp foundOther) same
    exact congrArg Prod.fst equal

end Pooled

/-- After every frame of a run the key lists are in order, and what is reported is sorted. -/
theorem pooled_of_run
    (className : String) (settings : TrackerSettings α)
    (inputs : List (Nat × List (Observation α))) (frame : Nat)
    (observations : List (Observation α))
    (ascending : (inputs.map Prod.fst ++ [frame]).Pairwise (· < ·)) :
    ∃ (tracker : Tracker α σ) (reports : List (TrackerReport α)) (report : TrackerReport α),
      (start className settings : Tracker α σ).run? (inputs ++ [(frame, observations)]) =
          some (tracker, reports ++ [report]) ∧
        tracker.Pooled frame ∧
          (report.tracked.map TrackReport.id).Pairwise (· < ·) ∧
            (report.lost.map TrackReport.id).Pairwise (· < ·) := by
  obtain ⟨tracker, reports, pools, tracked, lost, ran, followed⟩ :=
    exists_run (σ := σ) className settings inputs
  obtain ⟨after, tracked', lost', updated, followedAfter⟩ :=
    followed_update followed frame observations
  have earlier : ∀ other ∈ inputs.map Prod.fst, other < frame := by
    intro other member
    exact (List.pairwise_append.mp ascending).2.2 other member frame (List.mem_singleton_self frame)
  have dated := TrackPools.dated_after (followed.before frame earlier) observations
  exact ⟨after, reports, pools.report frame observations, run?_concat ran updated,
    followedAfter.represents.pooled followedAfter.standing dated,
    TrackPools.ascending_report followed.standing frame observations⟩

/-- A confident detection. -/
def seenOnce : Observation Float32 := ⟨⟨10, 100, 50, 200⟩, .ofScientific 8 true 1⟩

/-- An object that is seen on one frame and not on the next one. -/
theorem pooled_of_run_seenOnce :
    ([(1, [seenOnce])].map Prod.fst ++ [2]).Pairwise (· < ·) ∧
      ∃ (tracker : Tracker Float32) (reports : List (TrackerReport Float32))
        (report : TrackerReport Float32),
        (start "person" (TrackerConfig.settings {} 10) : Tracker Float32).run?
            ([(1, [seenOnce])] ++ [(2, [])]) = some (tracker, reports ++ [report]) ∧
          tracker.Pooled 2 ∧
            (report.tracked.map TrackReport.id).Pairwise (· < ·) ∧
              (report.lost.map TrackReport.id).Pairwise (· < ·) :=
  ⟨by decide, pooled_of_run "person" (TrackerConfig.settings {} 10) [(1, [seenOnce])] 2 []
    (by decide)⟩

/-! ## The numbers of a run -/

/-- After every frame of a run the numbers given out so far are, each once, those reported as tracked,
those reported as lost and those that the reports up to now list as removed. What has been removed does
not come back. -/
theorem numbers_of_run
    (className : String) (settings : TrackerSettings α)
    (inputs : List (Nat × List (Observation α))) (frame : Nat)
    (observations : List (Observation α)) :
    ∃ (tracker : Tracker α σ) (reports : List (TrackerReport α)) (report : TrackerReport α),
      (start className settings : Tracker α σ).run? (inputs ++ [(frame, observations)]) =
          some (tracker, reports ++ [report]) ∧
        (report.tracked.map TrackReport.id ++ report.lost.map TrackReport.id ++
            removedBy (reports ++ [report])).Perm (List.range' 1 (tracker.nextId - 1)) ∧
          (reports ++ [report]).Pairwise NeverAgain := by
  obtain ⟨tracker, reports, pools, tracked, lost, ran, followed⟩ :=
    exists_run (σ := σ) className settings inputs
  obtain ⟨after, tracked', lost', updated, followedAfter⟩ :=
    followed_update followed frame observations
  refine ⟨after, reports, pools.report frame observations, run?_concat ran updated, ?_,
    followedAfter.apart⟩
  rw [TrackPools.tracked_report, TrackPools.lost_report, followedAfter.represents.nextId]
  exact followedAfter.standing.conserved

theorem numbers_of_run_seenOnce :
    ∃ (tracker : Tracker Float32) (reports : List (TrackerReport Float32))
      (report : TrackerReport Float32),
      (start "person" (TrackerConfig.settings {} 10) : Tracker Float32).run?
          ([(1, [seenOnce])] ++ [(2, [])]) = some (tracker, reports ++ [report]) ∧
        (report.tracked.map TrackReport.id ++ report.lost.map TrackReport.id ++
            removedBy (reports ++ [report])).Perm (List.range' 1 (tracker.nextId - 1)) ∧
          (reports ++ [report]).Pairwise NeverAgain :=
  numbers_of_run "person" (TrackerConfig.settings {} 10) [(1, [seenOnce])] 2 []

example :
    ((start "person" (TrackerConfig.settings {} 10) : Tracker Float32).run?
      [(1, [seenOnce]), (2, [])]).map (fun result =>
        result.2.map fun report =>
          (report.tracked.map TrackReport.id, report.lost.map TrackReport.id)) =
      some [([1], []), ([], [1])] := by
  decide +kernel

end Tracker

end ObjectQuery
