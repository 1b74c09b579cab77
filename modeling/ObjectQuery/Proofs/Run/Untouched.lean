import ObjectQuery.Proofs.Plan.Referenced
import ObjectQuery.Proofs.Run.Failures
import ObjectQuery.Proofs.Run.Stored

/-!
# What is left as it was written

The detector writes the box, the score and the class of an object, the tracker its number. On every frame of
every run the objects have under each name that no projector computes what these two have written, and
nothing under other names (`Run.leaves_written`). A built-in field is computed anew only if the type declares
a property of that name and the query refers to it, which the planner does not refuse (`Rescored`).
-/

namespace ObjectQuery

/-! ## Detected and tracked -/

/-- What an object has under a name that is detected and, if there is a number, tracked. -/
def Detection.written? (detection : Detection) (number : Option Nat) (name : String) : Option Value :=
  if name = Field.box then some (.box (detection.box.map Float32.widened))
  else if name = Field.score then some (.ofSingle detection.score)
  else if name = Field.classId then some (.ofNat detection.classId)
  else if name = Field.trackId then number.map Value.ofNat
  else none

/-- The number of the track that has been seen at a position. -/
def TrackerReport.numberAt? (report : TrackerReport Float32) (position : Nat) : Option Nat :=
  (report.tracked.find? fun track => track.sighting = some position).map TrackReport.id

/-- An object with the number of its track, if it is tracked. -/
def ObjectRecord.marked (record : ObjectRecord) (number : Option Nat) : ObjectRecord :=
  number.elim record record.setTrackId

theorem Detection.written?_eq (detection : Detection) (number : Option Nat) (name : String) :
    ((ObjectRecord.ofDetection detection).marked number).get? name =
      detection.written? number name := by
  unfold written?
  by_cases box : name = Field.box
  · subst box
    cases number <;> rfl
  · by_cases score : name = Field.score
    · subst score
      cases number <;> rfl
    · by_cases classId : name = Field.classId
      · subst classId
        cases number <;> rfl
      · have unwritten := get?_ofDetection detection box score classId
        rw [if_neg box, if_neg score, if_neg classId]
        cases number with
        | none =>
            rw [Option.map_none, ite_self]
            exact unwritten
        | some id =>
            refine (ObjectRecord.get?_insert _ Field.trackId name _).trans ?_
            rw [unwritten]
            simp only [eq_comm, Option.map_some]

namespace ClassTrackers

/-- Each object is given the number of the track that has been seen in its place. -/
theorem getElem?_numbered_update {tracker : Tracker Float32} (reached : tracker.IsReached) (raw : RawFrame)
    (metadata : VideoMetadata) (className : String) (records : List ObjectRecord) (position : Nat) :
    let report := (tracker.update raw.id (records.map ObjectRecord.observation)).2
    (numbered records report)[position]? =
      records[position]?.map fun record => record.marked (report.numberAt? position) := by
  intro report
  -- a frame with nothing but these objects, so that the tracking stage can be asked
  let trackers : ClassTrackers Float32 := ⟨[(className, tracker)]⟩
  let frame : Frame := { Frame.ofRaw raw metadata with records := [(className, records)] }
  have single : trackers.trackers.keys.Nodup := List.nodup_singleton className
  have own : trackers.get? className = some tracker := if_pos rfl
  have here : frame.recordsOf className = records := by simp [frame, Frame.recordsOf, Keyed.find?]
  have told : (updated tracker frame className).2 = report := by
    rw [updated, here]
    rfl
  have marks : Marks frame (trackers.apply frame).2 className (updated tracker frame className).2 :=
    marks_of_reached single own reached
  have after : (trackers.apply frame).2.recordsOf className =
      numbered (frame.recordsOf className) (updated tracker frame className).2 :=
    (apply_eq single own).2.1
  rw [told] at marks after
  rw [here] at after
  rw [← after, ← here]
  unfold TrackerReport.numberAt?
  cases seen : report.tracked.find? fun track => track.sighting = some position with
  | none =>
      have unseen : ∀ track ∈ report.tracked, track.sighting ≠ some position :=
        fun track member => by simpa using List.find?_eq_none.mp seen track member
      rw [marks.others position unseen]
      exact Option.map_id'.symm
  | some track =>
      have place : track.sighting = some position := by simpa using List.find?_some seen
      obtain ⟨other, record, placed, before, written⟩ :=
        marks.written track (List.mem_of_find?_eq_some seen)
      obtain rfl := Option.some.inj (placed.symm.trans place)
      rw [written, before]
      rfl

end ClassTrackers

/-- Before anything is computed. -/
theorem fields_groundFrame {tracker : Tracker Float32} (reached : tracker.IsReached) (raw : RawFrame)
    (metadata : VideoMetadata) (className : String) (index : Nat) (stage : DetectionStage)
    (detections : List Detection) (name : String) :
    let objects := detections.filter fun detection =>
      stage.detector.className? detection.classId = some className
    let records := objects.map ObjectRecord.ofDetection
    let report := (tracker.update raw.id (records.map ObjectRecord.observation)).2
    ((groundFrame raw metadata className index (stage.recordsFor detections className)
        report).recordsOf className).map (fun record => record.get? name) =
      objects.mapIdx fun position detection =>
        detection.written? (report.numberAt? position) name := by
  intro objects records report
  rw [recordsOf_groundFrame]
  refine List.ext_getElem? fun position => ?_
  have numbered : (ClassTrackers.numbered records report)[position]? =
      records[position]?.map fun record => record.marked (report.numberAt? position) :=
    ClassTrackers.getElem?_numbered_update reached raw metadata className records position
  change ((ClassTrackers.numbered records report).map _)[position]? = _
  rw [List.getElem?_map, numbered, List.getElem?_mapIdx, List.getElem?_map]
  cases objects[position]? with
  | none => rfl
  | some detection => exact congrArg some (detection.written?_eq _ name)

/-! ## Through the stages of a plan -/

namespace Stage

variable {className name : String} {index place : Nat} {frame final : Frame}

/-- A stage leaves the fields of all names but the one that it computes. -/
theorem Reads.fields {stage : Stage} (reads : stage.Reads className index)
    (applied : (stage.apply place frame).frame = .ok final) (other : stage.computed? ≠ some name)
    (wanted : String) :
    (final.recordsOf wanted).map (fun record => record.get? name) =
      (frame.recordsOf wanted).map fun record => record.get? name := by
  cases stage with
  | project projector =>
      rw [Stage.apply] at applied
      cases outcome : projector.apply frame with
      | error error =>
          rw [outcome] at applied
          exact absurd applied (by simp)
      | ok projection =>
          rw [outcome] at applied
          obtain ⟨positions, _, _, written, _⟩ := Projector.exists_positions_of_apply outcome
          rw [← Except.ok.inj applied, written]
          exact Projector.fields_written (fun same => other (congrArg some same)) frame _ wanted
  | keep predicate className' index' =>
      change frame.keepSatisfying predicate className' index' = .ok final at applied
      unfold Frame.keepSatisfying at applied
      split at applied
      · exact absurd applied (by simp)
      · rw [← Except.ok.inj applied]
        rfl
  | detect | track | selectClass => exact absurd reads not_false

theorem fields_applyAll {stages : List Stage} (reads : ∀ stage ∈ stages, stage.Reads className index)
    (through : (applyAll place stages frame).frame = .ok final) (other : name ∉ computed stages)
    (wanted : String) :
    (final.recordsOf wanted).map (fun record => record.get? name) =
      (frame.recordsOf wanted).map fun record => record.get? name := by
  induction stages generalizing place frame with
  | nil => rw [← Except.ok.inj through]
  | cons stage rest inductionHypothesis =>
      obtain ⟨next, applied, through⟩ := exists_applied through
      have later := inductionHypothesis (fun stage member => reads stage (List.mem_cons_of_mem _ member))
        through fun member => other (((List.sublist_cons_self stage rest).filterMap _).subset member)
      refine later.trans ((reads stage List.mem_cons_self).fields applied (fun here => ?_) wanted)
      exact other (List.mem_filterMap.mpr ⟨stage, List.mem_cons_self, here⟩)

end Stage

/-! ## Frame after frame -/

/-- Under the names that are not given, the objects of the next frame have what the detector finds on it and
the tracker makes of that. -/
def Pipeline.LeavesWritten (pipeline : Pipeline) (source : VideoSource) (detector : Detector)
    (className : String) (names : List String) (frame : Frame) : Prop :=
  ∃ raw detections tracker, source.frameAt pipeline.playback.position = .ok raw ∧
    detector.infer raw.id raw.picture = .ok detections ∧ pipeline.tracker? className = some tracker ∧
      let objects := detections.filter fun detection =>
        detector.className? detection.classId = some className
      let records := objects.map ObjectRecord.ofDetection
      let report := (tracker.update raw.id (records.map ObjectRecord.observation)).2
      ∀ name ∉ names,
        (frame.recordsOf className).map (fun record => record.get? name) =
          objects.mapIdx fun position detection =>
            detection.written? (report.numberAt? position) name

/-- The pipeline of a plan for a class, with the names of what it computes. -/
structure Pipeline.Serves (source : VideoSource) (detector : Detector) (className : String)
    (names : List String) (pipeline : Pipeline) : Prop where
  stream : pipeline.playback.stream = .ofVideo source
  stages : ∃ (detection : DetectionStage) (tracker : Tracker Float32) (index : Nat) (rest : List Stage),
    detection.detector = detector ∧ detection.classNames = [className] ∧ tracker.IsReached ∧
      pipeline.stages = groundStages detection tracker className index ++ rest ∧
        (∀ stage ∈ rest, stage.Reads className index) ∧ Stage.computed rest = names

section Delivered

variable {source : VideoSource} {className : String} {pipeline : Pipeline} {frame : Frame}

theorem Pipeline.position_lt_of_ok (stream : pipeline.playback.stream = .ofVideo source)
    (pulled : pipeline.pull.frame = .ok frame) :
    pipeline.playback.position < source.length := by
  obtain ⟨⟨_, position⟩, stages⟩ := pipeline
  obtain rfl : _ = FrameStream.ofVideo source := stream
  by_contra full
  rw [Pipeline.pull, Playback.pull_exhausted full] at pulled
  exact absurd pulled (by simp)

/-- A frame that comes through has been delivered, detected and tracked. -/
theorem Pipeline.exists_detections_of_ok {detection : DetectionStage} {tracker : Tracker Float32}
    {index : Nat} {rest : List Stage} (stream : pipeline.playback.stream = .ofVideo source)
    (only : detection.classNames = [className])
    (stages : pipeline.stages = groundStages detection tracker className index ++ rest)
    (pulled : pipeline.pull.frame = .ok frame) :
    ∃ raw detections, source.frameAt pipeline.playback.position = .ok raw ∧
      detection.detector.infer raw.id raw.picture = .ok detections ∧
        let records := detection.recordsFor detections className
        let updated := tracker.update raw.id (records.map ObjectRecord.observation)
        let later := Stage.applyAll 3 rest
          (groundFrame raw source.metadata className index records updated.2)
        later.frame = .ok frame ∧ pipeline.pull.state.playback.stream = .ofVideo source ∧
          pipeline.pull.state.stages =
            groundStages detection updated.1 className index ++ later.state := by
  have room := position_lt_of_ok stream pulled
  cases delivered : source.frameAt pipeline.playback.position with
  | error error =>
      rw [Pipeline.pull_of_refused stream room delivered] at pulled
      exact absurd pulled (by simp)
  | ok raw =>
      rw [Pipeline.pull_of_delivered stream room delivered, stages] at pulled ⊢
      cases found : detection.detector.infer raw.id raw.picture with
      | error error =>
          rw [applyAll_ground_error only found] at pulled
          exact absurd pulled (by simp)
      | ok detections =>
          rw [applyAll_ground only found] at pulled ⊢
          exact ⟨raw, detections, rfl, found, pulled, rfl, rfl⟩

end Delivered

namespace Pipeline.Serves

variable {source : VideoSource} {detector : Detector} {className : String} {names : List String}
  {pipeline : Pipeline} {frame : Frame}

/-- One frame. -/
theorem pull (serves : pipeline.Serves source detector className names)
    (pulled : pipeline.pull.frame = .ok frame) :
    pipeline.pull.state.Serves source detector className names ∧
      pipeline.LeavesWritten source detector className names frame := by
  obtain ⟨stream, detection, tracker, index, rest, rfl, only, reached, stages, reads, rfl⟩ := serves
  obtain ⟨raw, detections, delivered, found, through, streamNext, stagesNext⟩ :=
    Pipeline.exists_detections_of_ok stream only stages pulled
  have listed := positions_groundFrame raw source.metadata className index
    (detection.recordsFor detections className) (tracker.update raw.id
      ((detection.recordsFor detections className).map ObjectRecord.observation)).2
  -- a stage looks for its list on the frame, and only finds it because the class filter has put one there
  have readsNext := (Stage.applyAll_of_reads reads (Option.isSome_of_eq_some listed) 3).2
  refine ⟨⟨streamNext, detection, _, index, _, rfl, only, (reached.update ..).1, stagesNext, readsNext,
      Stage.computed_applyAll 3 rest _⟩,
    raw, detections, tracker, delivered, found, Pipeline.tracker?_of_ground stages, fun name other => ?_⟩
  exact (Stage.fields_applyAll reads through other className).trans
    (fields_groundFrame reached raw source.metadata className index detection detections name)

theorem later {first run : Run} (serves : first.pipeline.Serves source detector className names)
    (later : first.Later run) : run.pipeline.Serves source detector className names := by
  induction later with
  | refl => exact serves
  | settle _ pulled seconds inductionHypothesis =>
      rw [(Run.continues_settle pulled seconds).pipeline]
      exact (inductionHypothesis.pull pulled).1

end Pipeline.Serves

/-! ## Compiled queries -/

namespace Plan

theorem computed_readers (query : Query) (type : ObjectType) (before after : List Property) :
    Stage.computed (readers query type before after) = (before ++ after).map Property.name := by
  have projected := type.computed_projectors
  unfold Stage.computed at *
  unfold readers
  rw [List.filterMap_append, List.filterMap_cons, projected, projected, List.map_append]
  rfl

theorem serves_of_start {query : Query} {plan : Plan} (compiled : compile query = .ok plan)
    {source : VideoSource} {detector : Detector} {detectorName : String} {tracker : TrackerConfig}
    {output : OutputConfig} {run : Run}
    (started : Run.start plan source detector detectorName tracker output = .ok run) :
    run.pipeline.Serves source detector plan.type.className (plan.projected.map Property.name) := by
  obtain ⟨type, _, _, before, after, _, _, _, _, _, _, rfl⟩ := compile_eq_ok_iff.mp compiled
  rw [projected_planOf]
  unfold Run.start at started
  split at started
  · exact absurd started (by simp)
  · rename_i made
    obtain rfl := make_eq_ok made
    split at started
    · exact absurd started (by simp)
    · obtain rfl := Except.ok.inj started
      rw [stages_planOf]
      refine ⟨rfl, _, _, filterIndex, _, rfl, rfl, Tracker.isReached_start type.className _, rfl,
        Stage.reads_withTurns reads_readers [], ?_⟩
      exact (Stage.computed_withTurns [] _).trans (computed_readers query type before after)

end Plan

/-- A built-in field is computed anew exactly if the type declares it and the query refers to it. On every
frame of every run the objects have under all names that are not computed, built-in or other, what the
detector has found there and what the tracker has made of it. -/
theorem Run.leaves_written {query : Query} {plan : Plan} (compiled : Plan.compile query = .ok plan) :
    (∀ name, Field.isBuiltin name = true →
      (name ∈ plan.projected.map Property.name ↔
        (plan.type.property? name).isSome ∧ name ∈ Plan.referenced query)) ∧
    ∀ (source : VideoSource) (detector : Detector) (detectorName : String) (tracker : TrackerConfig)
        (output : OutputConfig) (first : Run),
      Run.start plan source detector detectorName tracker output = .ok first →
        ∀ (limit : Nat) (run : Run) (frame : Frame), (first.withLimit limit).Later run →
          run.pipeline.pull.frame = .ok frame →
            run.pipeline.LeavesWritten source detector plan.type.className
              (plan.projected.map Property.name) frame := by
  refine ⟨fun name builtin =>
    Plan.mem_projected_of_isFixed compiled (Field.isFixed_of_isBuiltin builtin), ?_⟩
  intro source detector detectorName tracker output first started limit run frame later pulled
  have serves := Plan.serves_of_start compiled started
  have begun : (first.withLimit limit).pipeline.Serves source detector plan.type.className
      (plan.projected.map Property.name) := serves
  exact ((begun.later later).pull pulled).2

/-! ## A score that is computed anew -/

namespace Rescored

def score : Property := .declare Field.score [] fun _ => .ofNat 7

def person : ObjectType := .declare "Person" "person" [.property score]

def query : Query where
  name := "rescored"
  constraint := .isInstance person
  output := [⟨person, Field.score⟩]

def plan : Plan where
  queryName := "rescored"
  type := person
  stages :=
    [.classFilter "person" 0, .predicateFilter (.isInstance person) "person" 0,
      Plan.projection person score, .report ⟨"Person", "person", 0, [Field.score]⟩]

def video : VideoSource := .blank ⟨10, 640, 480, 2⟩

/-- Somebody who walks on, with a score of three quarters. -/
def detector : Detector :=
  .ofTable ["person"] fun frame =>
    [⟨⟨9 + frame.toFloat32, 100, 49 + frame.toFloat32, 200⟩, .ofScientific 75 true 2, 0⟩]

theorem compile_query : Plan.compile query = .ok plan := by cbv

/-- The scores of the people on the next frame as whole numbers, and the numbers of their tracks. -/
def told (run : Run) : Option (List (Option Nat × Option Nat)) :=
  run.pipeline.pull.frame.toOption.map fun frame =>
    (frame.recordsOf "person").map fun record =>
      (record.get? Field.score >>= Value.nat?, record.trackId?)

theorem exists_frame {run : Run} {all : List (Option Nat × Option Nat)} (shows : told run = some all) :
    ∃ frame, run.pipeline.pull.frame = .ok frame ∧
      (frame.recordsOf "person").map (fun record =>
        (record.get? Field.score >>= Value.nat?, record.trackId?)) = all := by
  obtain ⟨frame, pulled, shown⟩ := Option.map_eq_some_iff.mp shows
  exact ⟨frame, eq_ok_of_toOption pulled, shown⟩

theorem exists_run :
    ∃ run, Run.start plan video detector "table" {} {} = .ok run ∧
      told (run.withLimit 0) = some [(some 7, some 1)] ∧
        told ((run.withLimit 0).settle (run.withLimit 0).pull 0) = some [(some 7, some 1)] :=
  ⟨_, rfl, by decide +kernel, by decide +kernel⟩

/-- A score as the detector writes it is never a whole number. -/
theorem nat?_written (detection : Detection) (number : Option Nat) :
    (detection.written? number Field.score >>= Value.nat?) = none := rfl

/-- The planner takes a built-in name among the properties, and what the detector has written is lost. -/
theorem score_not_left :
    ∃ run frame, Plan.compile query = .ok plan ∧ Field.isBuiltin Field.score = true ∧
      Field.score ∈ plan.projected.map Property.name ∧
        Run.start plan video detector "table" {} {} = .ok run ∧
          (run.withLimit 0).pipeline.pull.frame = .ok frame ∧
            (frame.recordsOf "person").map (fun record => record.get? Field.score >>= Value.nat?) =
                [some 7] ∧
              ¬ (run.withLimit 0).pipeline.LeavesWritten video detector "person" [] frame := by
  obtain ⟨run, started, shows, _⟩ := exists_run
  obtain ⟨frame, pulled, shown⟩ := exists_frame shows
  have scores : (frame.recordsOf "person").map (fun record => record.get? Field.score >>= Value.nat?) =
      [some 7] := by
    have first := congrArg (List.map Prod.fst) shown
    rwa [List.map_map] at first
  refine ⟨run, frame, compile_query, rfl, List.mem_cons_self, started, pulled, scores, ?_⟩
  rintro ⟨raw, detections, tracker, _, _, _, left⟩
  -- whatever has been detected there, its score is no whole number
  have seven : some 7 ∈ ((frame.recordsOf "person").map fun record => record.get? Field.score).map
      fun field => field >>= Value.nat? := by
    rw [List.map_map]
    exact scores ▸ List.mem_cons_self
  rw [left Field.score List.not_mem_nil] at seven
  obtain ⟨field, member, read⟩ := List.mem_map.mp seven
  obtain ⟨position, _, rfl⟩ := List.mem_mapIdx.mp member
  rw [nat?_written] at read
  exact absurd read (by simp)

end Rescored

open Rescored in
/-- On the second frame all but the score is left. -/
theorem Run.leaves_written_rescored :
    ∃ first frame, Plan.compile query = .ok plan ∧
      Run.start plan video detector "table" {} {} = .ok first ∧
        ((first.withLimit 0).settle (first.withLimit 0).pull 0).pipeline.pull.frame = .ok frame ∧
          Field.trackId ∉ plan.projected.map Property.name ∧
            ((first.withLimit 0).settle (first.withLimit 0).pull 0).pipeline.LeavesWritten video detector
              "person" (plan.projected.map Property.name) frame := by
  obtain ⟨first, started, shows, showsNext⟩ := exists_run
  obtain ⟨_, pulled, _⟩ := exists_frame shows
  obtain ⟨frame, pulledNext, _⟩ := exists_frame showsNext
  have left := (Run.leaves_written compile_query).2 video detector "table" {} {} first started 0 _ frame
    (.settle .refl pulled 0) pulledNext
  exact ⟨first, frame, compile_query, started, pulledNext, by decide, left⟩

end ObjectQuery
