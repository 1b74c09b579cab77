import ObjectQuery.Proofs.Run.Ground
import ObjectQuery.Proofs.Tracking.Sightings

/-!
# The tracking stage on one frame

Every class has a tracker of its own, so that the stage is told class by class: `ClassTrackers.apply_eq`
is what it does to the objects of one class, and `Marks` that each tracked object has a record of its own
to write its number on.
-/

namespace ObjectQuery

namespace ClassTrackers

/-! ## Publishing reports -/

theorem recordsOf_publish
    (frame : Frame) (className other : String) (report : TrackerReport Float32) :
    (publish frame className report).recordsOf other =
      if className = other then numbered (frame.recordsOf other) report
      else frame.recordsOf other := by
  cases found : frame.records.find? className with
  | none =>
      have same : (publish frame className report).recordsOf other = frame.recordsOf other := by
        simp [publish, found, Frame.recordsOf]
      have empty : frame.recordsOf className = [] := by simp [Frame.recordsOf, found]
      rw [same]
      split
      · rename_i here
        have none : (numbered [] report).length = 0 := length_numbered report.tracked []
        rw [← here, empty, List.eq_nil_of_length_eq_zero none]
      · rfl
  | some records =>
      have written : (publish frame className report).recordsOf other =
          (frame.setRecords className (numbered records report)).recordsOf other := by
        simp [publish, found, Frame.recordsOf]
      rw [written, Frame.recordsOf_setRecords]
      split
      · rename_i here
        rw [← here, Frame.recordsOf, found, Option.getD_some]
      · rfl

theorem lostOf_publish
    (frame : Frame) (className other : String) (report : TrackerReport Float32) :
    (publish frame className report).lostOf other =
      if className = other then report.lost.map TrackReport.id else frame.lostOf other := by
  unfold publish Frame.lostOf
  rw [Keyed.find?_put]
  split
  · rfl
  · cases frame.records.find? className <;> rfl

/-- A frame with the reports on some classes. -/
def published (frame : Frame) (reports : Keyed String (TrackerReport Float32)) : Frame :=
  reports.foldl (fun frame entry => publish frame entry.1 entry.2) frame

theorem id_publish (frame : Frame) (className : String) (report : TrackerReport Float32) :
    (publish frame className report).id = frame.id := by
  unfold publish
  cases frame.records.find? className <;> rfl

theorem id_published (frame : Frame) (reports : Keyed String (TrackerReport Float32)) :
    (published frame reports).id = frame.id := by
  induction reports generalizing frame with
  | nil => rfl
  | cons entry rest inductionHypothesis =>
      exact (inductionHypothesis _).trans (id_publish ..)

variable {frame : Frame} {reports : Keyed String (TrackerReport Float32)} {className : String}

theorem published_of_not_mem (absent : className ∉ reports.keys) :
    (published frame reports).recordsOf className = frame.recordsOf className ∧
      (published frame reports).lostOf className = frame.lostOf className := by
  induction reports generalizing frame with
  | nil => exact ⟨rfl, rfl⟩
  | cons entry rest inductionHypothesis =>
      have other : entry.1 ≠ className := fun same => absent (same ▸ List.mem_cons_self)
      obtain ⟨records, lost⟩ := @inductionHypothesis (publish frame entry.1 entry.2)
        fun member => absent (List.mem_cons_of_mem _ member)
      rw [recordsOf_publish, if_neg other] at records
      rw [lostOf_publish, if_neg other] at lost
      exact ⟨records, lost⟩

/-- The report on a class is published once. -/
theorem published_of_find? (distinct : reports.keys.Nodup) {report : TrackerReport Float32}
    (found : reports.find? className = some report) :
    (published frame reports).recordsOf className = numbered (frame.recordsOf className) report ∧
      (published frame reports).lostOf className = report.lost.map TrackReport.id := by
  induction reports generalizing frame with
  | nil => exact absurd found (by simp)
  | cons entry rest inductionHypothesis =>
      obtain ⟨other, first⟩ := entry
      obtain ⟨absent, distinct⟩ := List.nodup_cons.mp distinct
      by_cases here : other = className
      · subst here
        simp only [Keyed.find?, if_true, Option.some.injEq] at found
        subst found
        obtain ⟨records, lost⟩ := @published_of_not_mem (publish frame other first) rest other absent
        rw [recordsOf_publish, if_pos rfl] at records
        rw [lostOf_publish, if_pos rfl] at lost
        exact ⟨records, lost⟩
      · simp only [Keyed.find?, here, if_false] at found
        obtain ⟨records, lost⟩ := @inductionHypothesis (publish frame other first) distinct found
        rw [recordsOf_publish, if_neg here] at records
        exact ⟨records, lost⟩

/-! ## One frame -/

/-- What the tracker of a class makes of the objects on a frame. -/
def updated (tracker : Tracker Float32) (frame : Frame) (className : String) :
    Tracker Float32 × TrackerReport Float32 :=
  tracker.update frame.id ((frame.recordsOf className).map ObjectRecord.observation)

variable {trackers : ClassTrackers Float32} {tracker : Tracker Float32}

theorem apply_eq (distinct : trackers.trackers.keys.Nodup)
    (found : trackers.get? className = some tracker) :
    (trackers.apply frame).1.get? className = some (updated tracker frame className).1 ∧
      (trackers.apply frame).2.recordsOf className =
        numbered (frame.recordsOf className) (updated tracker frame className).2 ∧
        (trackers.apply frame).2.lostOf className =
          (updated tracker frame className).2.lost.map TrackReport.id := by
  let observations : Keyed String (List (Observation Float32)) :=
    trackers.trackers.keys.map fun className =>
      (className, (frame.recordsOf className).map ObjectRecord.observation)
  let results := trackers.trackers.mapValues fun className tracker =>
    tracker.update frame.id ((observations.find? className).getD [])
  have observed : observations.find? className =
      some ((frame.recordsOf className).map ObjectRecord.observation) :=
    Keyed.find?_map_pair _ (List.mem_map_of_mem (Keyed.mem_of_find? found))
  have result : results.find? className = some (updated tracker frame className) := by
    rw [Keyed.find?_mapValues]
    change (trackers.get? className).map _ = _
    rw [found, Option.map_some, observed]
    rfl
  have once : (results.mapValues fun _ result => result.2).keys.Nodup := by
    rw [Keyed.keys_mapValues, Keyed.keys_mapValues]
    exact distinct
  have reported : (results.mapValues fun _ result => result.2).find? className =
      some (updated tracker frame className).2 := by
    rw [Keyed.find?_mapValues, result, Option.map_some]
  refine ⟨?_, published_of_find? once reported⟩
  change (results.mapValues fun _ result => result.1).find? className = _
  rw [Keyed.find?_mapValues, result, Option.map_some]

theorem keys_apply (trackers : ClassTrackers Float32) (frame : Frame) :
    (trackers.apply frame).1.trackers.keys = trackers.trackers.keys := by
  simp only [apply, update, Keyed.keys_mapValues]

theorem id_apply (trackers : ClassTrackers Float32) (frame : Frame) :
    (trackers.apply frame).2.id = frame.id :=
  id_published frame _

/-! ## Frame after frame -/

/-- The trackers after some frames. -/
def afterAll (trackers : ClassTrackers Float32) (frames : List Frame) : ClassTrackers Float32 :=
  frames.foldl (fun trackers frame => (trackers.apply frame).1) trackers

/-- One tracker for each class, as a run leaves it. -/
structure InUse (trackers : ClassTrackers Float32) (classNames : List String) : Prop where
  distinct : trackers.trackers.keys.Nodup
  reached : ∀ className ∈ classNames, ∃ tracker,
    trackers.get? className = some tracker ∧ tracker.IsReached

theorem inUse_start (classNames : List String) (settings : TrackerSettings Float32) :
    (start classNames settings : ClassTrackers Float32).InUse classNames := by
  induction classNames using List.reverseRecOn with
  | nil => exact ⟨List.nodup_nil, fun _ member => absurd member List.not_mem_nil⟩
  | append_singleton classNames added inductionHypothesis =>
      have entries : (start (classNames ++ [added]) settings : ClassTrackers Float32).trackers =
          (start classNames settings : ClassTrackers Float32).trackers.put added
            (.start added settings) := by
        simp [start]
      refine ⟨?_, fun className member => ?_⟩
      · rw [entries, Keyed.keys_put]
        split
        · exact inductionHypothesis.distinct
        · rename_i fresh
          exact List.nodup_append.mpr ⟨inductionHypothesis.distinct, List.nodup_singleton added,
            fun key known other here same => fresh (List.mem_singleton.mp here ▸ same ▸ known)⟩
      · unfold get?
        rw [entries, Keyed.find?_put]
        split
        · exact ⟨_, rfl, Tracker.isReached_start added settings⟩
        · rename_i other
          rcases List.mem_append.mp member with known | here
          · exact inductionHypothesis.reached className known
          · exact absurd (List.mem_singleton.mp here).symm other

theorem InUse.apply {classNames : List String} (inUse : trackers.InUse classNames)
    (frame : Frame) :
    (trackers.apply frame).1.InUse classNames := by
  refine ⟨(keys_apply trackers frame).symm ▸ inUse.distinct, fun className member => ?_⟩
  obtain ⟨tracker, found, reached⟩ := inUse.reached className member
  exact ⟨_, (apply_eq inUse.distinct found).1, (reached.update ..).1⟩

theorem InUse.afterAll {classNames : List String} (inUse : trackers.InUse classNames)
    (frames : List Frame) :
    (trackers.afterAll frames).InUse classNames := by
  induction frames generalizing trackers with
  | nil => exact inUse
  | cons frame rest inductionHypothesis => exact inductionHypothesis (inUse.apply frame)

/-! ## Numbers on records -/

theorem numbered_eq_foldl
    {report : TrackerReport Float32} (seen : ∀ object ∈ report.tracked, object.sighting.isSome)
    (records : List ObjectRecord) :
    numbered records report =
      report.tracked.foldl (fun records object =>
        records.modify (object.sighting.getD 0) fun record => record.setTrackId object.id)
        records := by
  refine List.foldl_ext _ _ _ fun records object member => ?_
  obtain ⟨position, here⟩ := Option.isSome_iff_exists.mp (seen object member)
  simp [here]

/-- What a frame has of a class before and after the class is tracked on it. -/
structure Marks (before after : Frame) (className : String) (report : TrackerReport Float32) :
    Prop where
  /-- The number of each tracked object is written onto its record. -/
  written : ∀ object ∈ report.tracked, ∃ position record, object.sighting = some position ∧
    (before.recordsOf className)[position]? = some record ∧
      (after.recordsOf className)[position]? = some (record.setTrackId object.id)
  /-- No two tracked objects have the same record. -/
  apart : (report.tracked.map TrackReport.sighting).Nodup
  /-- No other record is changed. -/
  others : ∀ position : Nat, (∀ object ∈ report.tracked, object.sighting ≠ some position) →
    (after.recordsOf className)[position]? = (before.recordsOf className)[position]?
  /-- The written and the lost numbers are all different. -/
  distinct : (report.tracked.map TrackReport.id ++ after.lostOf className).Nodup

/-- An update by a tracker as a run leaves it is a turn. -/
theorem exists_turn (reached : tracker.IsReached) (frame : Frame) (className : String) :
    ∃ turn : Turn Float32, turn.report = (updated tracker frame className).2 ∧
      turn.observations = (frame.recordsOf className).map ObjectRecord.observation := by
  obtain ⟨reports, frames, pools, tracked, lost, followed⟩ := reached
  obtain ⟨after, _, _, result, _⟩ := Tracker.followed_update followed frame.id
    ((frame.recordsOf className).map ObjectRecord.observation)
  refine ⟨⟨pools, frame.id, _⟩, ?_, rfl⟩
  rw [updated, Tracker.update, result, Option.getD_some]
  rfl

theorem marks_of_reached (distinct : trackers.trackers.keys.Nodup)
    (found : trackers.get? className = some tracker) (reached : tracker.IsReached) :
    Marks frame (trackers.apply frame).2 className (updated tracker frame className).2 := by
  obtain ⟨turn, report, observed⟩ := exists_turn reached frame className
  obtain ⟨_, records, lost⟩ := @apply_eq frame className trackers tracker distinct found
  rw [← report] at records lost ⊢
  have seen : ∀ object ∈ turn.report.tracked, object.sighting.isSome := by
    intro object member
    obtain ⟨_, place, _⟩ := Turn.exists_detection_of_tracked member
    exact place ▸ rfl
  have apart := Turn.nodup_sighting_tracked turn
  have places : (turn.report.tracked.map fun object => object.sighting.getD 0).Nodup := by
    refine List.Nodup.map_on (fun object member other otherMember same => ?_)
      (List.Nodup.of_map _ apart)
    obtain ⟨place, here⟩ := Option.isSome_iff_exists.mp (seen object member)
    obtain ⟨otherPlace, there⟩ := Option.isSome_iff_exists.mp (seen other otherMember)
    apply List.inj_on_of_nodup_map apart member otherMember
    rw [here, there] at same ⊢
    exact congrArg some same
  rw [numbered_eq_foldl seen] at records
  constructor
  · intro object member
    obtain ⟨position, place, observation, here, _⟩ := Turn.exists_detection_of_tracked member
    rw [observed, List.getElem?_map] at here
    obtain ⟨record, present, _⟩ := Option.map_eq_some_iff.mp here
    refine ⟨position, record, place, present, ?_⟩
    have written := Projector.getElem?_foldl_modify_of_mem
      (fun object : TrackReport Float32 => object.sighting.getD 0)
      (fun object record => record.setTrackId object.id) places member (frame.recordsOf className)
    rw [place, Option.getD_some, present] at written
    rw [records]
    exact written
  · exact apart
  · intro position unseen
    rw [records]
    apply Projector.getElem?_foldl_modify_of_not_mem
      (fun object : TrackReport Float32 => object.sighting.getD 0)
    intro member
    obtain ⟨object, inside, same⟩ := List.mem_map.mp member
    obtain ⟨place, here⟩ := Option.isSome_iff_exists.mp (seen object inside)
    rw [here, Option.getD_some] at same
    exact unseen object inside (same ▸ here)
  · have numbers := (reached.update frame.id
      ((frame.recordsOf className).map ObjectRecord.observation)).2.1.distinct
    rw [lost]
    change ((updated tracker frame className).2.tracked.map _ ++
      (updated tracker frame className).2.lost.map _).Nodup at numbers
    rwa [← report] at numbers

end ClassTrackers

namespace Tracker

/-- On every frame of every run the detections are owned, none by two tracks, and the tracking stage
writes the number of each tracked object onto a record of its own. -/
theorem owned_of_run (settings : TrackerSettings Float32) :
    (∀ (className : String) (inputs : List (Nat × List (Observation Float32))),
      ∃ last : Tracker Float32,
        (start className settings : Tracker Float32).run? inputs =
            some (last, ((TrackPools.start settings).turns inputs).map Turn.report) ∧
          ∀ turn ∈ (TrackPools.start settings).turns inputs, turn.Owns settings) ∧
      ∀ (classNames : List String) (frames : List Frame) (frame : Frame),
        ∀ className ∈ classNames, ∃ tracker : Tracker Float32,
          let trackers := ClassTrackers.afterAll (.start classNames settings) frames
          trackers.get? className = some tracker ∧
            ClassTrackers.Marks frame (trackers.apply frame).2 className
              (ClassTrackers.updated tracker frame className).2 := by
  constructor
  · intro className inputs
    obtain ⟨last, ran⟩ := (followed_start (σ := Slots) className settings).run?_eq inputs
    refine ⟨last, ran, fun turn member => ?_⟩
    have kept : turn.pools.settings = settings := Turn.settings_of_mem_turns member
    exact kept ▸ turn.owns not_le_of_lt_single
  · intro classNames frames frame className member
    have inUse := (ClassTrackers.inUse_start classNames settings).afterAll frames
    obtain ⟨tracker, found, reached⟩ := inUse.reached className member
    exact ⟨tracker, found, ClassTrackers.marks_of_reached inUse.distinct found reached⟩

/-- A frame with one person on it. -/
def onePerson : Frame :=
  (Frame.ofRaw ⟨3, none⟩ ⟨10, 640, 480, 3⟩).setRecords "person"
    [.ofDetection ⟨⟨10, 100, 50, 200⟩, .ofScientific 8 true 1, 0⟩]

theorem owned_of_run_seenOnce :
    let settings := TrackerConfig.settings {} 10
    let turns := (TrackPools.start settings).turns [(1, [seenOnce]), (2, [seenOnce])]
    let trackers := ClassTrackers.afterAll (.start ["car", "person"] settings) [onePerson]
    (settings.trackThreshold < seenOnce.score ∧ settings.newTrackThreshold < seenOnce.score ∧
        ∀ turn ∈ turns, turn.Detects 0 seenOnce.score ∧ ∃ track, turn.IsOwner track 0 ∧
          (reportOf track ∈ turn.report.tracked ∨ track.id ∈ turn.duplicates)) ∧
      "person" ∈ ["car", "person"] ∧ ∃ tracker : Tracker Float32,
        trackers.get? "person" = some tracker ∧
          ClassTrackers.Marks onePerson (trackers.apply onePerson).2 "person"
            (ClassTrackers.updated tracker onePerson "person").2 := by
  intro settings turns trackers
  have confident : settings.trackThreshold < seenOnce.score := by decide +kernel
  have seeds : settings.newTrackThreshold < seenOnce.score := by decide +kernel
  have wellFormed : seenOnce.isWellFormed = true := by decide +kernel
  obtain ⟨_, _, owns⟩ :=
    (owned_of_run settings).1 "person" [(1, [seenOnce]), (2, [seenOnce])]
  refine ⟨⟨confident, seeds, fun turn member => ?_⟩, by decide,
    (owned_of_run settings).2 ["car", "person"] [onePerson] onePerson "person" (by decide)⟩
  have detects : turn.Detects 0 seenOnce.score := by
    rcases List.mem_cons.mp member with rfl | later
    · exact ⟨seenOnce, rfl, wellFormed, rfl⟩
    · rw [List.mem_singleton.mp later]
      exact ⟨seenOnce, rfl, wellFormed, rfl⟩
  exact ⟨detects, (owns turn member).owner 0 _ detects confident seeds⟩

example :
    ((((ClassTrackers.start ["car", "person"] (TrackerConfig.settings {} 10)).apply
      onePerson).2).recordsOf "person").map ObjectRecord.trackId? = [some 1] := by
  decide +kernel

end Tracker

end ObjectQuery
