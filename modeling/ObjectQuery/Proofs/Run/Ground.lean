import ObjectQuery.Proofs.Stage.Chain
import ObjectQuery.Proofs.Tracking.Runs
import ObjectQuery.Run

/-!
# Frames before anything is computed

What the detector, the tracker and the class filter make of a frame of the video: the objects of the
class carry their detection and, if they have one, the number of their track; no two of them are of the
same track; all of them are listed. Track numbers are told apart as long as they fit into a word.
-/

namespace ObjectQuery

/-- Numbers that fit into a word are told apart. -/
theorem Value.eq_of_nat?_ofNat
    {n read : Nat} (fits : n < 2 ^ 64) (found : (Value.ofNat n).nat? = some read) :
    read = n := by
  have size : Int64.size = 2 ^ 64 := rfl
  unfold Value.ofNat Value.nat? at found
  simp only [Int64.toInt_ofNat'] at found
  split at found
  · rename_i positive
    have equal := Option.some.inj found
    rw [size, Int.bmod_def] at positive equal
    split at positive <;> omega
  · exact absurd found (by simp)

namespace ClassTrackers

/-! ## Numbered objects -/

/-- An object is as it was but for the number of a track that was seen in its place. -/
theorem getElem?_numbered
    {tracks : List (TrackReport Float32)} {records : List ObjectRecord} {position : Nat}
    {record : ObjectRecord}
    (here : (tracks.foldl (fun records track =>
      match track.sighting with
      | some position => records.modify position fun record => record.setTrackId track.id
      | none => records) records)[position]? = some record) :
    ∃ old, records[position]? = some old ∧
      (∀ name, name ≠ Field.trackId → record.get? name = old.get? name) ∧
        (record.get? Field.trackId = old.get? Field.trackId ∨
          ∃ track ∈ tracks, track.sighting = some position ∧
            record.get? Field.trackId = some (.ofNat track.id)) := by
  induction tracks generalizing records with
  | nil => exact ⟨record, here, fun _ _ => rfl, Or.inl rfl⟩
  | cons track rest inductionHypothesis =>
      rw [List.foldl_cons] at here
      obtain ⟨middle, middleHere, same, numbered⟩ := inductionHypothesis here
      cases seen : track.sighting with
      | none =>
          rw [seen] at middleHere
          refine ⟨middle, middleHere, same, ?_⟩
          rcases numbered with unchanged | ⟨other, member, place, number⟩
          · exact Or.inl unchanged
          · exact Or.inr ⟨other, List.mem_cons_of_mem track member, place, number⟩
      | some place =>
          simp only [seen, List.getElem?_modify] at middleHere
          obtain ⟨old, oldHere, changed⟩ := Option.map_eq_some_iff.mp middleHere
          by_cases mine : place = position
          · rw [if_pos mine] at changed
            subst changed
            refine ⟨old, oldHere, fun name other => ?_, Or.inr ?_⟩
            · rw [same name other, ObjectRecord.setTrackId, ObjectRecord.get?_insert,
                if_neg (Ne.symm other)]
            · rcases numbered with unchanged | ⟨another, member, there, number⟩
              · refine ⟨track, List.mem_cons_self, mine ▸ seen, ?_⟩
                rw [unchanged, ObjectRecord.setTrackId, ObjectRecord.get?_insert, if_pos rfl]
              · exact ⟨another, List.mem_cons_of_mem track member, there, number⟩
          · rw [if_neg mine] at changed
            subst changed
            refine ⟨old, oldHere, same, ?_⟩
            rcases numbered with unchanged | ⟨another, member, there, number⟩
            · exact Or.inl unchanged
            · exact Or.inr ⟨another, List.mem_cons_of_mem track member, there, number⟩

theorem length_numbered (tracks : List (TrackReport Float32)) (records : List ObjectRecord) :
    (tracks.foldl (fun records track =>
      match track.sighting with
      | some position => records.modify position fun record => record.setTrackId track.id
      | none => records) records).length = records.length := by
  induction tracks generalizing records with
  | nil => rfl
  | cons track rest inductionHypothesis =>
      rw [List.foldl_cons, inductionHypothesis]
      cases track.sighting with
      | none => rfl
      | some place => exact List.length_modify ..

/-- The track of a numbered object has been seen in its place. -/
theorem exists_tracked_of_numbered
    {report : TrackerReport Float32} {records : List ObjectRecord} {nextId : Nat}
    (numbers : Tracker.Numbered report nextId) (fits : nextId ≤ 2 ^ 64)
    (fresh : ∀ record ∈ records, record.get? Field.trackId = none) {position number : Nat}
    {record : ObjectRecord} (here : (numbered records report)[position]? = some record)
    (named : record.trackId? = some number) :
    ∃ track ∈ report.tracked, track.sighting = some position ∧ track.id = number := by
  obtain ⟨old, oldHere, _, unchanged | ⟨track, member, place, number⟩⟩ :=
    getElem?_numbered here
  · rw [ObjectRecord.trackId?, unchanged, fresh old (List.mem_of_getElem? oldHere)] at named
    exact absurd named (by simp)
  · rw [ObjectRecord.trackId?, number] at named
    have given := numbers.given track.id
      (List.mem_append_left _ (List.mem_map_of_mem member))
    exact ⟨track, member, place,
      (Value.eq_of_nat?_ofNat (Nat.lt_of_lt_of_le given fits) named).symm⟩

/-- Objects without tracks are given different ones. -/
theorem distinctTracks_numbered
    {report : TrackerReport Float32} {records : List ObjectRecord} {nextId : Nat}
    (numbers : Tracker.Numbered report nextId) (fits : nextId ≤ 2 ^ 64)
    (fresh : ∀ record ∈ records, record.get? Field.trackId = none) :
    DistinctTracks (numbered records report) := by
  intro i j first second number firstHere secondHere firstNamed secondNamed
  obtain ⟨track, member, place, named⟩ :=
    exists_tracked_of_numbered numbers fits fresh firstHere firstNamed
  obtain ⟨other, otherMember, otherPlace, otherNamed⟩ :=
    exists_tracked_of_numbered numbers fits fresh secondHere secondNamed
  have same := List.inj_on_of_nodup_map (List.nodup_append.mp numbers.distinct).1 member
    otherMember (named.trans otherNamed.symm)
  subst same
  exact Option.some.inj (place.symm.trans otherPlace)

end ClassTrackers

/-! ## The first three stages -/

/-- A frame with its objects and their tracks, all objects listed. -/
def groundFrame (raw : RawFrame) (metadata : VideoMetadata) (className : String) (index : Nat)
    (records : List ObjectRecord) (report : TrackerReport Float32) : Frame where
  id := raw.id
  picture := raw.picture
  metadata := metadata
  records := [(className, ClassTrackers.numbered records report)]
  listed := [(index, [(className, List.range records.length)])]
  lost := [(className, report.lost.map TrackReport.id)]

/-- The stages before anything is computed. -/
def groundStages (detection : DetectionStage) (tracker : Tracker Float32) (className : String)
    (index : Nat) : List Stage :=
  [.detect detection, .track ⟨[(className, tracker)]⟩, .selectClass className index]

theorem recordsOf_groundFrame
    (raw : RawFrame) (metadata : VideoMetadata) (className : String) (index : Nat)
    (records : List ObjectRecord) (report : TrackerReport Float32) :
    (groundFrame raw metadata className index records report).recordsOf className =
      ClassTrackers.numbered records report := by
  simp [groundFrame, Frame.recordsOf, Keyed.find?]

theorem length_recordsOf_groundFrame
    (raw : RawFrame) (metadata : VideoMetadata) (className : String) (index : Nat)
    (records : List ObjectRecord) (report : TrackerReport Float32) :
    ((groundFrame raw metadata className index records report).recordsOf className).length =
      records.length := by
  rw [recordsOf_groundFrame]
  exact ClassTrackers.length_numbered report.tracked records

theorem lostOf_groundFrame
    (raw : RawFrame) (metadata : VideoMetadata) (className : String) (index : Nat)
    (records : List ObjectRecord) (report : TrackerReport Float32) :
    (groundFrame raw metadata className index records report).lostOf className =
      report.lost.map TrackReport.id := by
  simp [groundFrame, Frame.lostOf, Keyed.find?]

theorem positions_groundFrame
    (raw : RawFrame) (metadata : VideoMetadata) (className : String) (index : Nat)
    (records : List ObjectRecord) (report : TrackerReport Float32) :
    (groundFrame raw metadata className index records report).positions? index className =
      some (List.range records.length) := by
  simp [groundFrame, Frame.positions?, Keyed.find?]

/-- A fresh detection has its box, its score and its class. -/
theorem get?_ofDetection
    (detection : Detection) {name : String} (box : name ≠ Field.box) (score : name ≠ Field.score)
    (classId : name ≠ Field.classId) :
    (ObjectRecord.ofDetection detection).get? name = none := by
  unfold ObjectRecord.ofDetection
  rw [ObjectRecord.get?_insert, if_neg (Ne.symm classId), ObjectRecord.get?_insert,
    if_neg (Ne.symm score), ObjectRecord.get?_insert, if_neg (Ne.symm box)]
  rfl

theorem fresh_groundFrame
    (raw : RawFrame) (metadata : VideoMetadata) {className : String} (index : Nat)
    {stage : DetectionStage} {detections : List Detection} (report : TrackerReport Float32)
    {name : String} (computed : Field.isBuiltin name = false) {record : ObjectRecord}
    (member : record ∈ (groundFrame raw metadata className index
      (stage.recordsFor detections className) report).recordsOf className) :
    record.get? name = none := by
  have apart (other : String) (builtin : Field.isBuiltin other = true) : name ≠ other := by
    rintro rfl
    exact absurd (builtin.symm.trans computed) (by simp)
  rw [recordsOf_groundFrame] at member
  obtain ⟨position, here⟩ := List.mem_iff_getElem?.mp member
  obtain ⟨old, oldHere, same, _⟩ := ClassTrackers.getElem?_numbered here
  obtain ⟨detection, _, rfl⟩ := List.mem_map.mp (List.mem_of_getElem? oldHere)
  rw [same name (apart _ (by decide))]
  exact get?_ofDetection detection (apart _ (by decide)) (apart _ (by decide))
    (apart _ (by decide))

theorem untracked_recordsFor
    (stage : DetectionStage) (detections : List Detection) (className : String) :
    ∀ record ∈ stage.recordsFor detections className, record.get? Field.trackId = none := by
  intro record member
  obtain ⟨detection, _, rfl⟩ := List.mem_map.mp member
  exact get?_ofDetection detection (by decide) (by decide) (by decide)

theorem distinct_groundFrame
    (raw : RawFrame) (metadata : VideoMetadata) {className : String} (index : Nat)
    {stage : DetectionStage} {detections : List Detection} {report : TrackerReport Float32}
    {nextId : Nat} (numbers : Tracker.Numbered report nextId) (fits : nextId ≤ 2 ^ 64) :
    DistinctTracks ((groundFrame raw metadata className index
      (stage.recordsFor detections className) report).recordsOf className) := by
  rw [recordsOf_groundFrame]
  exact ClassTrackers.distinctTracks_numbered numbers fits (untracked_recordsFor stage detections _)

/-- The tracks of the objects have been reported. -/
theorem tracked_of_groundFrame
    (raw : RawFrame) (metadata : VideoMetadata) {className : String} (index : Nat)
    {stage : DetectionStage} {detections : List Detection} {report : TrackerReport Float32}
    {nextId : Nat} (numbers : Tracker.Numbered report nextId) (fits : nextId ≤ 2 ^ 64)
    {record : ObjectRecord} (member : record ∈ (groundFrame raw metadata className index
      (stage.recordsFor detections className) report).recordsOf className) {track : Nat}
    (named : record.trackId? = some track) :
    track ∈ report.tracked.map TrackReport.id := by
  rw [recordsOf_groundFrame] at member
  obtain ⟨position, here⟩ := List.mem_iff_getElem?.mp member
  obtain ⟨report, reported, _, rfl⟩ := ClassTrackers.exists_tracked_of_numbered numbers fits
    (untracked_recordsFor stage detections _) here named
  exact List.mem_map_of_mem reported

section GroundStages

variable {detection : DetectionStage} {tracker : Tracker Float32} {className : String} {index : Nat}
  {raw : RawFrame} {metadata : VideoMetadata}

theorem applyAll_ground_error
    (only : detection.classNames = [className]) {error : ServiceError}
    (failed : detection.detector.infer raw.id raw.picture = .error error) (rest : List Stage) :
    Stage.applyAll 0 (groundStages detection tracker className index ++ rest)
        (.ofRaw raw metadata) =
      ⟨groundStages detection tracker className index ++ rest, .error (.service error), []⟩ := by
  have detected : detection.apply (.ofRaw raw metadata) = .error (.service error) := by
    simp [DetectionStage.apply, only, Frame.ofRaw, Keyed.has, failed]
  simp [groundStages, Stage.applyAll, Stage.apply, detected]

theorem apply_detection
    (only : detection.classNames = [className]) {detections : List Detection}
    (found : detection.detector.infer raw.id raw.picture = .ok detections) :
    detection.apply (.ofRaw raw metadata) =
      .ok { Frame.ofRaw raw metadata with
        records := [(className, detection.recordsFor detections className)] } := by
  simp [DetectionStage.apply, only, Frame.ofRaw, Keyed.has, found, Frame.setRecords, Keyed.put]

theorem applyAll_ground
    (only : detection.classNames = [className]) {detections : List Detection}
    (found : detection.detector.infer raw.id raw.picture = .ok detections) (rest : List Stage) :
    let records := detection.recordsFor detections className
    let updated := tracker.update raw.id (records.map ObjectRecord.observation)
    let later := Stage.applyAll 3 rest (groundFrame raw metadata className index records updated.2)
    Stage.applyAll 0 (groundStages detection tracker className index ++ rest)
        (.ofRaw raw metadata) =
      ⟨groundStages detection updated.1 className index ++ later.state, later.frame,
        later.calls⟩ := by
  intro records updated later
  let detected : Frame := { Frame.ofRaw raw metadata with records := [(className, records)] }
  have detectedEq : detection.apply (.ofRaw raw metadata) = .ok detected :=
    apply_detection only found
  let tracked : Frame :=
    { detected with
      records := [(className, ClassTrackers.numbered records updated.2)]
      lost := [(className, updated.2.lost.map TrackReport.id)] }
  have trackedEq : ClassTrackers.apply ⟨[(className, tracker)]⟩ detected =
      (⟨[(className, updated.1)]⟩, tracked) := by
    simp [ClassTrackers.apply, ClassTrackers.update, ClassTrackers.publish, Keyed.keys,
      Keyed.mapValues, Keyed.find?, Keyed.put, Frame.recordsOf, Frame.setRecords, Frame.ofRaw,
      detected, tracked, updated]
  have length : (ClassTrackers.numbered records updated.2).length = records.length :=
    ClassTrackers.length_numbered updated.2.tracked records
  have selectedEq : tracked.selectClass className index =
      .ok (groundFrame raw metadata className index records updated.2) := by
    simp [Frame.selectClass, Frame.positions?, Frame.setPositions, Frame.recordsOf, Keyed.find?,
      Keyed.put, Frame.ofRaw, groundFrame, detected, tracked, length]
  simp [groundStages, Stage.applyAll, Stage.apply, detectedEq, trackedEq, selectedEq, later]

end GroundStages

end ObjectQuery
