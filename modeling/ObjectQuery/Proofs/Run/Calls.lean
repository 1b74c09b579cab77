import Mathlib.Data.List.Permutation
import ObjectQuery.Proofs.Run.Reported
import ObjectQuery.Proofs.Stage.Track

/-!
# How often property functions are called

On one frame a stage evaluates each track once, and no two stages of a compiled query compute the same
property, so that the calls on a frame are told apart by their properties and tracks (`calls_applyAll`).
Calls on different frames are told apart by the frames as long as these are numbered upwards.
-/

namespace ObjectQuery

namespace PropertyCall

/-- Whether a call computes a property for a track on a frame. -/
def isFor (name : String) (track frame : Nat) (call : PropertyCall) : Bool :=
  decide (call.property = name ∧ call.trackId = some track ∧ call.frame = frame)

/-- Two calls that are not for the same track on the same frame. -/
def Apart (first second : PropertyCall) : Prop :=
  first.property = second.property → first.frame = second.frame →
    ∀ track, first.trackId = some track → second.trackId ≠ some track

theorem countP_isFor_le_one {calls : List PropertyCall} (apart : calls.Pairwise Apart)
    (name : String) (track frame : Nat) :
    calls.countP (isFor name track frame) ≤ 1 := by
  induction calls with
  | nil => exact Nat.zero_le 1
  | cons call rest inductionHypothesis =>
      obtain ⟨here, later⟩ := List.pairwise_cons.mp apart
      by_cases counted : isFor name track frame call
      · obtain ⟨property, named, dated⟩ := of_decide_eq_true counted
        have none : rest.countP (isFor name track frame) = 0 := by
          refine List.countP_eq_zero.mpr fun other member again => ?_
          obtain ⟨property', named', dated'⟩ := of_decide_eq_true again
          exact here other member (property.trans property'.symm) (dated.trans dated'.symm) track
            named named'
        rw [List.countP_cons_of_pos counted, none]
      · rw [List.countP_cons_of_neg counted]
        exact inductionHypothesis later

end PropertyCall

open PropertyCall

/-! ## One frame -/

theorem DetectionStage.id_apply
    {stage : DetectionStage} {frame next : Frame} (applied : stage.apply frame = .ok next) :
    next.id = frame.id := by
  have detected (names : List String) (records : String → List ObjectRecord) (frame : Frame) :
      (names.foldl (fun frame name => frame.setRecords name (records name)) frame).id =
        frame.id := by
    induction names generalizing frame with
    | nil => rfl
    | cons name rest inductionHypothesis => exact inductionHypothesis _
  unfold apply at applied
  split at applied
  · exact absurd applied (by simp)
  · split at applied
    · rw [← Except.ok.inj applied, detected]
    · exact absurd applied (by simp)

theorem Projector.exists_positions_of_apply
    {projector : Projector} {frame : Frame} {projection : Projection}
    (applied : projector.apply frame = .ok projection) :
    ∃ positions, frame.positions? projector.index projector.className = some positions ∧
      projection.evaluations = projector.evaluations frame positions ∧
        projection.frame = projector.written frame (projector.evaluations frame positions) ∧
          projection.projector = { projector with history := projection.projector.history } := by
  unfold apply at applied
  cases found : frame.positions? projector.index projector.className with
  | none =>
      rw [found] at applied
      exact absurd applied (by simp)
  | some positions =>
      rw [found] at applied
      rw [← Except.ok.inj applied]
      exact ⟨positions, rfl, rfl, rfl, rfl⟩

namespace Stage

/-- The property that a stage computes. -/
def computed? : Stage → Option String
  | .project projector => some projector.property.name
  | _ => none

/-- The properties that stages compute. -/
def computed (stages : List Stage) : List String := stages.filterMap computed?

/-- Counting turns renames nothing. -/
theorem computed_withTurns (done : List String) (stages : List Stage) :
    computed (withTurns done stages) = computed stages := by
  unfold computed
  induction stages generalizing done with
  | nil => rfl
  | cons stage rest inductionHypothesis =>
      cases stage <;> simp [withTurns, List.filterMap_cons, computed?, inductionHypothesis]

theorem pairwise_callsOf
    {evaluations : List Projector.Evaluation}
    (distinct : (evaluations.filterMap Projector.Evaluation.trackId).Nodup)
    (position : Nat) (property : String) (frame : Nat) :
    (callsOf position property frame evaluations).Pairwise Apart := by
  refine List.pairwise_map.mpr ((List.pairwise_filterMap.mp distinct).filter _ |>.imp ?_)
  intro first second apart _ _ track named again
  exact apart track named track again rfl

/-- What a stage does with a frame, as far as it concerns the calls. -/
structure Calls (stage : Stage) (frame : Frame) (passage : Passage Stage) : Prop where
  dated : ∀ next, passage.frame = .ok next → next.id = frame.id
  kept : passage.state.computed? = stage.computed?
  apart : passage.calls.Pairwise Apart
  named : ∀ call ∈ passage.calls, call.frame = frame.id ∧ stage.computed? = some call.property

theorem Calls.silent {stage : Stage} {frame : Frame} {passage : Passage Stage}
    (none : passage.calls = []) (kept : passage.state.computed? = stage.computed?)
    (dated : ∀ next, passage.frame = .ok next → next.id = frame.id) :
    stage.Calls frame passage where
  dated := dated
  kept := kept
  apart := none ▸ List.Pairwise.nil
  named _ member := absurd (none ▸ member) List.not_mem_nil

theorem calls_project (projector : Projector) (position : Nat) (frame : Frame) :
    (Stage.project projector).Calls frame ((Stage.project projector).apply position frame) := by
  cases applied : projector.apply frame with
  | error error =>
      have failed : (Stage.project projector).apply position frame =
          ⟨.project projector, .error error, []⟩ := by
        simp [apply, applied]
      rw [failed]
      exact .silent rfl rfl fun next passed => absurd passed (by simp)
  | ok projection =>
      have passed : (Stage.project projector).apply position frame =
          ⟨.project projection.projector, .ok projection.frame,
            callsOf position projector.property.name frame.id projection.evaluations⟩ := by
        simp [apply, applied]
      obtain ⟨positions, _, evaluated, written, kept⟩ :=
        Projector.exists_positions_of_apply applied
      rw [passed]
      refine ⟨fun next same => ?_, ?_, ?_, fun call member => ?_⟩
      · rw [← Except.ok.inj same, written, Projector.framed_written]
      · rw [kept]
        rfl
      · rw [evaluated]
        exact pairwise_callsOf (Projector.nodup_evaluated_tracks ..) ..
      · obtain ⟨evaluation, _, rfl⟩ := List.mem_map.mp member
        exact ⟨rfl, rfl⟩

theorem calls_apply (stage : Stage) (position : Nat) (frame : Frame) :
    stage.Calls frame (stage.apply position frame) := by
  cases stage with
  | detect detection => exact .silent rfl rfl fun next passed => DetectionStage.id_apply passed
  | track trackers =>
      refine .silent rfl rfl fun next passed => ?_
      rw [← Except.ok.inj passed]
      exact ClassTrackers.id_apply trackers frame
  | selectClass className index =>
      refine .silent rfl rfl fun next passed => ?_
      change frame.selectClass className index = .ok next at passed
      unfold Frame.selectClass at passed
      split at passed
      · exact absurd passed (by simp)
      · rw [← Except.ok.inj passed]
        rfl
  | keep predicate className index =>
      refine .silent rfl rfl fun next passed => ?_
      change frame.keepSatisfying predicate className index = .ok next at passed
      unfold Frame.keepSatisfying at passed
      split at passed
      · exact absurd passed (by simp)
      · rw [← Except.ok.inj passed]
        rfl
  | project projector => exact calls_project projector position frame

/-- Stages go on computing what they compute. -/
theorem computed_applyAll (position : Nat) (stages : List Stage) (frame : Frame) :
    computed (applyAll position stages frame).state = computed stages := by
  induction stages generalizing position frame with
  | nil => rfl
  | cons stage rest inductionHypothesis =>
      have kept := (calls_apply stage position frame).kept
      rw [applyAll]
      unfold computed at *
      cases (stage.apply position frame).frame with
      | error error => rw [List.filterMap_cons, List.filterMap_cons, kept]
      | ok next => rw [List.filterMap_cons, List.filterMap_cons, kept, inductionHypothesis]

/-- The calls on the way of a frame through stages that compute different properties. -/
theorem calls_applyAll {stages : List Stage} (distinct : (computed stages).Nodup) (position : Nat)
    (frame : Frame) :
    (applyAll position stages frame).calls.Pairwise Apart ∧
      ∀ call ∈ (applyAll position stages frame).calls,
        call.frame = frame.id ∧ call.property ∈ computed stages := by
  induction stages generalizing position frame with
  | nil => exact ⟨List.Pairwise.nil, fun _ member => absurd member List.not_mem_nil⟩
  | cons stage rest inductionHypothesis =>
      have calls := calls_apply stage position frame
      have here (call : PropertyCall) (member : call ∈ (stage.apply position frame).calls) :
          call.property ∈ computed (stage :: rest) :=
        List.mem_filterMap.mpr ⟨stage, List.mem_cons_self, (calls.named call member).2⟩
      rw [applyAll]
      cases applied : (stage.apply position frame).frame with
      | error error =>
          exact ⟨calls.apart, fun call member => ⟨(calls.named call member).1, here call member⟩⟩
      | ok next =>
          have sublist : (computed rest).Sublist (computed (stage :: rest)) :=
            (List.sublist_cons_self stage rest).filterMap _
          obtain ⟨apart, named⟩ := inductionHypothesis (distinct.sublist sublist) (position + 1) next
          refine ⟨?_, fun call member => ?_⟩
          · refine List.pairwise_append.mpr ⟨calls.apart, apart, ?_⟩
            -- what this stage computes none of the later ones does
            intro first early second late same
            have computes := (calls.named first early).2
            have again := (named second late).2
            unfold computed at distinct
            rw [List.filterMap_cons, computes] at distinct
            exact absurd (same ▸ again) (List.nodup_cons.mp distinct).1
          · rcases List.mem_append.mp member with early | late
            · exact ⟨(calls.named call early).1, here call early⟩
            · exact ⟨(named call late).1.trans (calls.dated next applied),
                sublist.subset (named call late).2⟩

/-! ## Frame after frame -/

/-- The calls for frames that are handed to stages one after another. A frame that fails on its way does
not keep the next ones back. -/
def callsThrough (position : Nat) : List Stage → List Frame → List PropertyCall
  | _, [] => []
  | stages, frame :: rest =>
    let passage := applyAll position stages frame
    passage.calls ++ callsThrough position passage.state rest

theorem calls_callsThrough {stages : List Stage} (distinct : (computed stages).Nodup)
    (position : Nat) {frames : List Frame} (ascending : (frames.map Frame.id).Pairwise (· < ·)) :
    (callsThrough position stages frames).Pairwise Apart ∧
      ∀ call ∈ callsThrough position stages frames, call.frame ∈ frames.map Frame.id := by
  induction frames generalizing stages with
  | nil => exact ⟨List.Pairwise.nil, fun _ member => absurd member List.not_mem_nil⟩
  | cons frame rest inductionHypothesis =>
      rw [List.map_cons] at ascending
      obtain ⟨ahead, ascending⟩ := List.pairwise_cons.mp ascending
      obtain ⟨apart, named⟩ := calls_applyAll distinct position frame
      obtain ⟨later, dated⟩ := @inductionHypothesis (applyAll position stages frame).state
        (computed_applyAll position stages frame ▸ distinct) ascending
      refine ⟨List.pairwise_append.mpr ⟨apart, later, ?_⟩, fun call member => ?_⟩
      · intro first early second late _ same
        have before := ahead second.frame (dated second late)
        rw [← same, (named first early).1] at before
        exact absurd before (Nat.lt_irrefl _)
      · rcases List.mem_append.mp member with early | late
        · rw [(named call early).1]
          exact List.mem_cons_self
        · exact List.mem_cons_of_mem _ (dated call late)

end Stage

namespace Run

/-- The calls for a number of successive reports. -/
def callsWithin (clock : Nat → Float) : Nat → Run → List PropertyCall
  | 0, _ => []
  | count + 1, run =>
    let yielded := run.next clock
    yielded.calls ++ callsWithin clock count yielded.run

/-- A run of stages that compute different properties of a video. -/
structure ComputesOnce (source : VideoSource) (run : Run) : Prop where
  stream : run.pipeline.playback.stream = .ofVideo source
  distinct : (Stage.computed run.pipeline.stages).Nodup

/-- A run some frames later, and the calls for these frames. -/
structure Advances (source : VideoSource) (run later : Run) (calls : List PropertyCall) : Prop where
  computesOnce : later.ComputesOnce source
  apart : calls.Pairwise Apart
  position : run.pipeline.playback.position ≤ later.pipeline.playback.position
  dated : ∀ call ∈ calls, ∃ position raw, position < source.length ∧
    source.frameAt position = .ok raw ∧ call.frame = raw.id ∧
      run.pipeline.playback.position ≤ position ∧ position < later.pipeline.playback.position

variable {source : VideoSource} {run later last : Run} {calls more : List PropertyCall}
  {clock : Nat → Float}

theorem Advances.refl (computesOnce : run.ComputesOnce source) : Advances source run run [] where
  computesOnce := computesOnce
  apart := List.Pairwise.nil
  position := Nat.le_refl _
  dated _ member := absurd member List.not_mem_nil

theorem Advances.trans (ascends : source.Ascends) (first : Advances source run later calls)
    (second : Advances source later last more) :
    Advances source run last (calls ++ more) where
  computesOnce := second.computesOnce
  apart := by
    refine List.pairwise_append.mpr ⟨first.apart, second.apart, ?_⟩
    -- the frames of the second part come later in the video and have greater numbers
    intro call member other otherMember _ same
    obtain ⟨early, raw, _, delivered, named, _, bound⟩ := first.dated call member
    obtain ⟨late, raw', room, delivered', named', after, _⟩ := second.dated other otherMember
    have before := ascends early late raw raw' (Nat.lt_of_lt_of_le bound after) room delivered
      delivered'
    rw [← named, ← named', same] at before
    exact absurd before (Nat.lt_irrefl _)
  position := Nat.le_trans first.position second.position
  dated call member := by
    rcases List.mem_append.mp member with early | late
    · obtain ⟨position, raw, room, delivered, named, lower, upper⟩ := first.dated call early
      exact ⟨position, raw, room, delivered, named, lower, Nat.lt_of_lt_of_le upper second.position⟩
    · obtain ⟨position, raw, room, delivered, named, lower, upper⟩ := second.dated call late
      exact ⟨position, raw, room, delivered, named, Nat.le_trans first.position lower, upper⟩

theorem pipeline_settle (run : Run) (outcome : Outcome) (seconds : Float) :
    (run.settle outcome seconds).pipeline = outcome.pipeline := by
  unfold settle
  cases outcome.result <;> rfl

theorem pipeline_pull (run : Run) :
    run.pull.pipeline = run.pipeline.pull.state ∧ run.pull.calls = run.pipeline.pull.calls := by
  cases pulled : run.pipeline.pull.frame with
  | ok frame => rw [pull_of_ok pulled]; exact ⟨rfl, rfl⟩
  | error error => rw [pull_of_error pulled]; exact ⟨rfl, rfl⟩

/-- A video delivers the next frame to the stages, or the pipeline stays as it is. -/
theorem Pipeline.pull_of_video {pipeline : Pipeline}
    (stream : pipeline.playback.stream = .ofVideo source) :
    (pipeline.pull.state = pipeline ∧ pipeline.pull.calls = []) ∨
      ∃ raw, pipeline.playback.position < source.length ∧
        source.frameAt pipeline.playback.position = .ok raw ∧
          let passage := Stage.applyAll 0 pipeline.stages (.ofRaw raw source.metadata)
          pipeline.pull.state =
              ⟨⟨.ofVideo source, pipeline.playback.position + 1⟩, passage.state⟩ ∧
            pipeline.pull.calls = passage.calls := by
  by_cases room : pipeline.playback.position < source.length
  · cases delivered : source.frameAt pipeline.playback.position with
    | error error =>
        rw [Pipeline.pull_of_refused stream room delivered]
        exact Or.inl ⟨rfl, rfl⟩
    | ok raw =>
        rw [Pipeline.pull_of_delivered stream room delivered]
        exact Or.inr ⟨raw, room, rfl, rfl, rfl⟩
  · left
    obtain ⟨⟨_, position⟩, stages⟩ := pipeline
    obtain rfl : _ = FrameStream.ofVideo source := stream
    rw [Pipeline.pull, Playback.pull_exhausted room]
    exact ⟨rfl, rfl⟩

/-- One frame. -/
theorem ComputesOnce.advances (computesOnce : run.ComputesOnce source) (seconds : Float) :
    Advances source run (run.settle run.pull seconds) run.pull.calls := by
  obtain ⟨pipeline, called⟩ := pipeline_pull run
  have settled := (pipeline_settle run run.pull seconds).trans pipeline
  rw [called]
  rcases Pipeline.pull_of_video computesOnce.stream with
    ⟨same, silent⟩ | ⟨raw, room, delivered, state, calls⟩
  · have unchanged := settled.trans same
    rw [silent]
    exact
      { computesOnce := ⟨unchanged ▸ computesOnce.stream, unchanged ▸ computesOnce.distinct⟩
        apart := List.Pairwise.nil
        position := by rw [unchanged]
        dated := fun _ member => absurd member List.not_mem_nil }
  · have names := Stage.computed_applyAll 0 run.pipeline.stages (.ofRaw raw source.metadata)
    obtain ⟨apart, named⟩ := Stage.calls_applyAll computesOnce.distinct 0
      (.ofRaw raw source.metadata)
    have after := settled.trans state
    rw [calls]
    exact
      { computesOnce := ⟨by rw [after], by rw [after]; exact names ▸ computesOnce.distinct⟩
        apart := apart
        position := by rw [after]; exact Nat.le_succ _
        dated := fun call member => ⟨_, raw, room, delivered, (named call member).1, Nat.le_refl _,
          by rw [after]; exact Nat.lt_succ_self _⟩ }

theorem ComputesOnce.advances_nextWithin (ascends : source.Ascends)
    (computesOnce : run.ComputesOnce source) (frames : Nat) :
    Advances source run (run.nextWithin clock frames).run (run.nextWithin clock frames).calls := by
  induction frames generalizing run with
  | zero => exact .refl computesOnce
  | succ frames inductionHypothesis =>
      have step := computesOnce.advances (clock run.framesProcessed)
      unfold nextWithin
      split
      · cases result : run.pull.result with
        | error error =>
            simp only [result]
            exact step
        | ok report =>
            cases report with
            | some report =>
                simp only [result]
                exact step
            | none =>
                simp only [result]
                exact step.trans ascends (inductionHypothesis step.computesOnce)
      · exact .refl computesOnce

theorem ComputesOnce.advances_callsWithin (ascends : source.Ascends)
    (computesOnce : run.ComputesOnce source) (clock : Nat → Float) (count : Nat) :
    ∃ last, Advances source run last (run.callsWithin clock count) := by
  induction count generalizing run with
  | zero => exact ⟨run, .refl computesOnce⟩
  | succ count inductionHypothesis =>
      have step : Advances source run (run.next clock).run (run.next clock).calls :=
        computesOnce.advances_nextWithin ascends _
      obtain ⟨last, later⟩ := inductionHypothesis step.computesOnce
      exact ⟨last, step.trans ascends later⟩

end Run

/-! ## Compiled queries -/

theorem ObjectType.computed_projectors (type : ObjectType) (properties : List Property) :
    Stage.computed ((properties.map type.projectorOf).map Stage.project) =
      properties.map Property.name := by
  unfold Stage.computed
  rw [List.map_map, List.filterMap_map]
  exact congrFun List.filterMap_eq_map' properties

namespace Plan.Compiled

variable {query : Query} {plan : Plan} {predicateNames outputNames : List String}
  {before after : List Property}

theorem computed_stages
    (compiled : Compiled query plan predicateNames outputNames before after) :
    Stage.computed (plan.stages.filterMap Run.stageOf?) = (before ++ after).map Property.name := by
  have projected := plan.type.computed_projectors
  unfold Stage.computed at *
  rw [compiled.stages]
  simp only [List.filterMap_append, stageOf_projections, List.map_append, projected]
  simp [List.filterMap_cons, Run.stageOf?, Stage.computed?]

theorem computesOnce
    (compiled : Compiled query plan predicateNames outputNames before after) {source : VideoSource}
    {detector : Detector} {detectorName : String} {tracker : TrackerConfig} {output : OutputConfig}
    {run : Run} (started : Run.start plan source detector detectorName tracker output = .ok run)
    (limit : Nat) :
    (run.withLimit limit).ComputesOnce source := by
  unfold Run.start at started
  split at started
  · exact absurd started (by simp)
  · simp only [compiled.reportOf?_stages] at started
    obtain rfl := Except.ok.inj started
    refine ⟨rfl, ?_⟩
    change (Stage.computed (Stage.withTurns [] _)).Nodup
    rw [Stage.computed_withTurns]
    change (Stage.computed (plan.stages.filterMap Run.stageOf?)).Nodup
    rw [compiled.computed_stages]
    exact compiled.nodup_names

end Plan.Compiled

/-- A compiled query calls the function of a property at most once for a track on a frame, in every run
and on every sequence of frames that come to its stages. -/
theorem Plan.called_at_most_once
    {query : Query} {plan : Plan} (compiled : Plan.compile query = .ok plan)
    (wellFormed : plan.type.WellFormed) (name : String) (track frame : Nat) :
    (∀ (source : VideoSource) (detector : Detector) (detectorName : String)
        (tracker : TrackerConfig) (output : OutputConfig) (run : Run), source.Ascends →
          Run.start plan source detector detectorName tracker output = .ok run →
            ∀ (limit : Nat) (clock : Nat → Float) (count : Nat),
              ((run.withLimit limit).callsWithin clock count).countP
                (PropertyCall.isFor name track frame) ≤ 1) ∧
      ∀ (position : Nat) (frames : List Frame), (frames.map Frame.id).Pairwise (· < ·) →
        (Stage.callsThrough position (plan.stages.filterMap Run.stageOf?) frames).countP
          (PropertyCall.isFor name track frame) ≤ 1 := by
  obtain ⟨predicateNames, outputNames, before, after, compiled⟩ :=
    Plan.compile_eq_ok compiled wellFormed
  constructor
  · intro source detector detectorName tracker output run ascends started limit clock count
    obtain ⟨last, advances⟩ :=
      (compiled.computesOnce started limit).advances_callsWithin ascends clock count
    exact countP_isFor_le_one advances.apart name track frame
  · intro position frames ascending
    have distinct : (Stage.computed (plan.stages.filterMap Run.stageOf?)).Nodup := by
      rw [compiled.computed_stages]
      exact compiled.nodup_names
    exact countP_isFor_le_one (Stage.calls_callsThrough distinct position ascending).1 name track
      frame

/-! ## People who are slim -/

namespace Onlookers

def width : Property :=
  .declare "width" [⟨Field.box, 0⟩] fun inputs =>
    match inputs.box? Field.box with
    | some box => .float (box.right - box.left)
    | none => .invalid

def slim : Property :=
  .declare "slim" [⟨"width", 0⟩] fun inputs =>
    match inputs.number? "width" with
    | some width => .bool (decide (width < 50))
    | none => .invalid

def doubled : Property :=
  .declare "doubled" [⟨"width", 1⟩] fun inputs =>
    match inputs.number? "width" with
    | some width => .float (2 * width)
    | none => .invalid

def person : ObjectType :=
  .declare "Person" "person" [.property width, .property slim, .property doubled]

def query : Query where
  name := "onlookers"
  constraint := .equal (.property ⟨person, "slim"⟩) (.literal (.bool true))
  output := [⟨person, "width"⟩, ⟨person, "slim"⟩, ⟨person, "doubled"⟩]

def plan : Plan where
  queryName := "onlookers"
  type := person
  stages :=
    [.classFilter "person" 0, Plan.projection person width, Plan.projection person slim,
      .predicateFilter query.constraint "person" 0, Plan.projection person doubled,
      .report ⟨"Person", "person", 0, ["width", "slim", "doubled"]⟩]

def video : VideoSource := .blank ⟨10, 640, 480, 2⟩

/-- Somebody who stands where he is. -/
def detector : Detector :=
  .ofTable ["person"] fun _ => [⟨⟨10, 100, 50, 200⟩, .ofScientific 8 true 1, 0⟩]

def somebody : ObjectRecord :=
  (ObjectRecord.ofDetection ⟨⟨10, 100, 50, 200⟩, .ofScientific 8 true 1, 0⟩).setTrackId 1

/-- A frame with two objects of one track. -/
def twins : Frame :=
  (Frame.ofRaw ⟨1, none⟩ video.metadata).setRecords "person" [somebody, somebody]

theorem ascends : video.Ascends := by
  intro first second raw raw' before _ delivered delivered'
  rw [← Except.ok.inj delivered, ← Except.ok.inj delivered']
  exact Nat.succ_lt_succ before

theorem wellFormed : plan.type.WellFormed := ⟨by decide, by decide⟩

end Onlookers

open Onlookers in
theorem Plan.called_at_most_once_onlookers :
    ∃ run, Run.start plan video detector "table" {} {} = .ok run ∧ video.Ascends ∧
      plan.type.WellFormed ∧
        let calls := (run.withLimit 0).callsWithin (fun _ => 0) 3
        let twinCalls := Stage.callsThrough 0 (plan.stages.filterMap Run.stageOf?) [twins]
        (calls.countP (PropertyCall.isFor "width" 1 2) = 1 ∧
            twinCalls.countP (PropertyCall.isFor "width" 1 1) = 1) ∧
          ∀ name track frame, calls.countP (PropertyCall.isFor name track frame) ≤ 1 ∧
            twinCalls.countP (PropertyCall.isFor name track frame) ≤ 1 := by
  have compiled : Plan.compile query = .ok plan := by cbv
  refine ⟨_, rfl, ascends, wellFormed, ⟨by decide +kernel, by decide +kernel⟩, ?_⟩
  intro name track frame
  obtain ⟨running, anywhere⟩ := Plan.called_at_most_once compiled wellFormed name track frame
  exact ⟨running video detector "table" {} {} _ ascends rfl 0 (fun _ => 0) 3,
    anywhere 0 [twins] (List.pairwise_singleton _ _)⟩

end ObjectQuery
