import ObjectQuery.Proofs.Run.Calls
import ObjectQuery.Proofs.Run.Pulls
import ObjectQuery.Proofs.Stage.Arrivals

/-!
# What a run can be relied on for

A limit cuts off what becomes of later frames and changes nothing else (`outcomes_withLimit`), only the
last frame may fail (`pairwise_outcomes`), and the reports are on ever later frames of the video
(`ascending_outcomesWithin`). `Run.steady_of_start` puts this together for whoever calls a run again and
again, also after its end.
-/

namespace ObjectQuery

namespace Run

variable {run : Run} {clock : Nat → Float}

/-! ## Limits -/

theorem outcomesWithin_limited (clock : Nat → Float) (run : Run) (limit count : Nat) :
    { run with limit := some limit }.outcomesWithin clock count =
      ({ run with limit := none }.outcomesWithin clock count).take
        (limit - run.framesProcessed) := by
  induction count generalizing run with
  | zero => exact List.take_nil.symm
  | succ count inductionHypothesis =>
      by_cases reached : limit ≤ run.framesProcessed
      · rw [Nat.sub_eq_zero_of_le reached, List.take_zero]
        exact outcomesWithin_of_end (by simp [hasNext, limitReached, reached]) _
      · have same : { run with limit := some limit }.hasNext =
            { run with limit := none }.hasNext := by
          simp [hasNext, limitReached, reached]
        rw [outcomesWithin, outcomesWithin, same]
        split
        · obtain ⟨room, left, leftAfter⟩ : ∃ room, limit - run.framesProcessed = room + 1 ∧
              limit - (run.framesProcessed + 1) = room :=
            ⟨limit - (run.framesProcessed + 1), by omega, rfl⟩
          rw [left, List.take_succ_cons]
          refine congrArg (run.pull :: ·) ?_
          -- a frame that has passed is counted, and after one that has failed nothing is left
          cases pulled : run.pipeline.pull.frame with
          | ok frame =>
              have later := inductionHypothesis (run.settle run.pull (clock run.framesProcessed))
              rw [(continues_settle pulled _).framesProcessed, leftAfter, pull_of_ok pulled] at later
              change outcomesWithin clock count
                ({ run with limit := some limit }.settle run.pull (clock run.framesProcessed)) =
                  (outcomesWithin clock count ({ run with limit := none }.settle run.pull
                    (clock run.framesProcessed))).take room
              rw [pull_of_ok pulled]
              exact later
          | error error =>
              have ended (limit : Option Nat) := @hasNext_of_error { run with limit := limit } error
                pulled (clock run.framesProcessed)
              rw [outcomesWithin_of_end (ended _), outcomesWithin_of_end (ended _), List.take_nil]
        · exact List.take_nil.symm

/-- The first of some outcomes, zero for all of them. -/
def upTo (limit : Nat) (outcomes : List Outcome) : List Outcome :=
  if limit = 0 then outcomes else outcomes.take limit

theorem upTo_of_pos {limit : Nat} (positive : 0 < limit) (outcomes : List Outcome) :
    upTo limit outcomes = outcomes.take limit :=
  if_neg (Nat.ne_of_gt positive)

theorem upTo_of_length_le {limit : Nat} {outcomes : List Outcome}
    (within : limit = 0 ∨ outcomes.length ≤ limit) : upTo limit outcomes = outcomes := by
  unfold upTo
  split
  · rfl
  · exact List.take_of_length_le (within.resolve_left ‹_›)

theorem isPrefix_upTo (limit : Nat) (outcomes : List Outcome) : upTo limit outcomes <+: outcomes := by
  unfold upTo
  split
  · exact List.prefix_rfl
  · exact List.take_prefix _ _

theorem length_upTo_le {limit : Nat} (positive : 0 < limit) (outcomes : List Outcome) :
    (upTo limit outcomes).length ≤ limit := by
  rw [upTo_of_pos positive]
  exact List.length_take_le _ _

/-- What becomes of the frames under a limit is what becomes of the first ones without it. -/
theorem outcomes_withLimit (unlimited : run.limit = none) (fresh : run.framesProcessed = 0)
    (clock : Nat → Float) (limit : Nat) :
    (run.withLimit limit).outcomes clock = upTo limit (run.outcomes clock) := by
  have same : { run with limit := none } = run := by rw [← unlimited]
  by_cases zero : limit = 0
  · subst zero
    exact congrArg (outcomes clock) same
  · have limited : run.withLimit limit = { run with limit := some limit } := by
      rw [withLimit, if_neg zero]
    rw [limited, upTo, if_neg zero]
    refine (outcomesWithin_limited clock run limit run.pipeline.playback.remaining).trans ?_
    rw [same, fresh, Nat.sub_zero]
    rfl

end Run

/-! ## Frames in their order -/

theorem Stage.id_applyAll
    {stages : List Stage} {place : Nat} {frame final : Frame}
    (through : (Stage.applyAll place stages frame).frame = .ok final) :
    final.id = frame.id := by
  induction stages generalizing place frame with
  | nil => exact congrArg Frame.id (Except.ok.inj through).symm
  | cons stage rest inductionHypothesis =>
      obtain ⟨next, applied, through⟩ := Stage.exists_applied through
      exact (inductionHypothesis through).trans ((Stage.calls_apply stage place frame).dated next applied)

/-- The report is on a frame of the video from the given position on. -/
def FrameReport.DatedFrom (source : VideoSource) (position : Nat) (report : FrameReport) : Prop :=
  ∃ place raw, position ≤ place ∧ place < source.length ∧ source.frameAt place = .ok raw ∧
    report.frameId = raw.id

namespace Run

variable {run : Run} {clock : Nat → Float} {source : VideoSource}

theorem stream_settle
    (stream : run.pipeline.playback.stream = .ofVideo source) (seconds : Float) :
    (run.settle run.pull seconds).pipeline.playback.stream = .ofVideo source := by
  rw [(pipeline_settle run run.pull seconds).trans (pipeline_pull run).1]
  rcases Pipeline.pull_of_video stream with ⟨same, _⟩ | ⟨raw, _, _, state, _⟩
  · rw [same, stream]
  · rw [state]

/-- A frame that comes through the stages is the next one of the video. -/
theorem exists_raw_of_ok
    (stream : run.pipeline.playback.stream = .ofVideo source) (more : run.hasNext = true)
    {frame : Frame} (pulled : run.pipeline.pull.frame = .ok frame) (seconds : Float) :
    ∃ raw, run.pipeline.playback.position < source.length ∧
      source.frameAt run.pipeline.playback.position = .ok raw ∧ frame.id = raw.id ∧
        (run.settle run.pull seconds).pipeline.playback.position =
          run.pipeline.playback.position + 1 := by
  have room := Pipeline.position_lt_of_hasNext stream (Bool.and_eq_true_iff.mp more).2
  cases delivered : source.frameAt run.pipeline.playback.position with
  | error error =>
      rw [Pipeline.pull_of_refused stream room delivered] at pulled
      exact absurd pulled (by simp)
  | ok raw =>
      refine ⟨raw, room, rfl, ?_, ?_⟩
      · rw [Pipeline.pull_of_delivered stream room delivered] at pulled
        exact Stage.id_applyAll pulled
      · rw [(continues_settle pulled seconds).pipeline,
          Pipeline.pull_of_delivered stream room delivered]

theorem report?_pull {frame : Frame} (pulled : run.pipeline.pull.frame = .ok frame) :
    run.pull.report? = (run.reporter.apply frame).2 := by
  rw [pull_of_ok pulled]
  rfl

theorem report?_pull_of_error {error : RunError}
    (pulled : run.pipeline.pull.frame = .error error) : run.pull.report? = none := by
  rw [pull_of_error pulled]
  rfl

theorem ascending_outcomesWithin (ascends : source.Ascends)
    (stream : run.pipeline.playback.stream = .ofVideo source) (count : Nat) :
    let reports := (run.outcomesWithin clock count).filterMap Outcome.report?
    (reports.map FrameReport.frameId).Pairwise (· < ·) ∧
      ∀ report ∈ reports, report.DatedFrom source run.pipeline.playback.position := by
  induction count generalizing run with
  | zero => exact ⟨List.Pairwise.nil, fun _ member => absurd member List.not_mem_nil⟩
  | succ count inductionHypothesis =>
      rw [outcomesWithin]
      split
      · rename_i more
        cases pulled : run.pipeline.pull.frame with
        | error error =>
            rw [outcomesWithin_of_end (hasNext_of_error pulled _), List.filterMap_cons,
              report?_pull_of_error pulled]
            exact ⟨List.Pairwise.nil, fun _ member => absurd member List.not_mem_nil⟩
        | ok frame =>
            obtain ⟨raw, room, delivered, same, next⟩ := exists_raw_of_ok stream more pulled
              (clock run.framesProcessed)
            obtain ⟨ascending, dated⟩ := inductionHypothesis
              (stream_settle stream (clock run.framesProcessed))
            rw [next] at dated
            have later (report : FrameReport) (member : report ∈ (outcomesWithin clock count
                (run.settle run.pull (clock run.framesProcessed))).filterMap Outcome.report?) :
                report.DatedFrom source run.pipeline.playback.position := by
              obtain ⟨place, raw, after, found⟩ := dated report member
              exact ⟨place, raw, Nat.le_of_succ_le after, found⟩
            rw [List.filterMap_cons, report?_pull pulled]
            cases reported : (run.reporter.apply frame).2 with
            | none => exact ⟨ascending, later⟩
            | some report =>
                have named : report.frameId = raw.id :=
                  (Reporter.apply_eq_some reported).1.trans same
                refine ⟨?_, fun other member => ?_⟩
                · refine List.pairwise_cons.mpr ⟨fun id member => ?_, ascending⟩
                  obtain ⟨other, listed, rfl⟩ := List.mem_map.mp member
                  obtain ⟨place, raw', after, room', delivered', named'⟩ := dated other listed
                  rw [named, named']
                  exact ascends _ place raw raw' after room' delivered delivered'
                · rcases List.mem_cons.mp member with rfl | listed
                  · exact ⟨_, raw, Nat.le_refl _, room, delivered, named⟩
                  · exact later other listed
      · exact ⟨List.Pairwise.nil, fun _ member => absurd member List.not_mem_nil⟩

/-- Frames of which only the last one may fail make reports and after them at most one error. -/
theorem exists_items_eq {outcomes : List Outcome}
    (ordered : outcomes.Pairwise fun earlier _ => earlier.passed = true) :
    ∃ failure : Option RunError, outcomes.flatMap Outcome.items =
      (outcomes.filterMap Outcome.report?).map .ok ++ failure.toList.map .error := by
  induction outcomes with
  | nil => exact ⟨none, rfl⟩
  | cons outcome rest inductionHypothesis =>
      obtain ⟨ahead, ordered⟩ := List.pairwise_cons.mp ordered
      obtain ⟨failure, items⟩ := inductionHypothesis ordered
      rw [List.flatMap_cons, List.filterMap_cons, Outcome.items, Outcome.report?]
      cases result : outcome.result with
      | ok report =>
          refine ⟨failure, ?_⟩
          rw [items]
          cases report <;> rfl
      | error error =>
          have alone : rest = [] := List.eq_nil_iff_forall_not_mem.mpr fun later member => by
            have passed := ahead later member
            rw [Outcome.passed, result] at passed
            exact absurd passed Bool.false_ne_true
          subst alone
          exact ⟨some error, rfl⟩

/-- A frame that fails is pulled as the last one. -/
theorem length_outcomes_of_failed {place : Nat} {outcome : Outcome}
    (found : (run.outcomes clock)[place]? = some outcome) (failed : outcome.passed = false) :
    (run.outcomes clock).length = place + 1 := by
  obtain ⟨room, here⟩ := List.getElem?_eq_some_iff.mp found
  refine Nat.le_antisymm (Nat.le_of_not_lt fun further => ?_) room
  have passed := List.pairwise_iff_getElem.mp (pairwise_outcomes clock run) place (place + 1) room
    further (Nat.lt_succ_self place)
  rw [here, failed] at passed
  exact absurd passed Bool.false_ne_true

/-- A frame with one after it has passed. -/
theorem passed_of_mem_take {place : Nat} {outcome : Outcome}
    (room : place < (run.outcomes clock).length)
    (member : outcome ∈ (run.outcomes clock).take place) : outcome.passed = true := by
  obtain ⟨earlier, before, rfl⟩ := List.mem_take_iff_getElem.mp member
  exact List.pairwise_iff_getElem.mp (pairwise_outcomes clock run) earlier place (by omega) room
    (by omega)

theorem items_of_passed {outcomes : List Outcome}
    (passed : ∀ outcome ∈ outcomes, outcome.passed = true) :
    ∀ item ∈ outcomes.flatMap Outcome.items, item.isOk = true := by
  intro item member
  obtain ⟨outcome, listed, member⟩ := List.mem_flatMap.mp member
  have passed := passed outcome listed
  rw [Outcome.passed] at passed
  rw [Outcome.items] at member
  cases result : outcome.result with
  | error error =>
      rw [result] at passed
      exact absurd passed Bool.false_ne_true
  | ok report =>
      rw [result] at member
      obtain ⟨report, _, rfl⟩ := List.mem_map.mp member
      rfl

/-- Before the error of a frame come the items of the frames before it, which are reports. -/
theorem items_of_failed {place : Nat} {outcome : Outcome} {error : RunError}
    (found : (run.outcomes clock)[place]? = some outcome) (result : outcome.result = .error error) :
    (run.outcomes clock).length = place + 1 ∧
      (run.outcomes clock).flatMap Outcome.items =
          ((run.outcomes clock).take place).flatMap Outcome.items ++ [.error error] ∧
        ∀ item ∈ ((run.outcomes clock).take place).flatMap Outcome.items, item.isOk = true := by
  have failed : outcome.passed = false := by
    rw [Outcome.passed, result]
    rfl
  have length := length_outcomes_of_failed found failed
  obtain ⟨room, here⟩ := List.getElem?_eq_some_iff.mp found
  have whole : run.outcomes clock = (run.outcomes clock).take place ++ [outcome] := by
    rw [← here, ← List.take_succ_eq_append_getElem room, ← length, List.take_length]
  refine ⟨length, ?_, items_of_passed fun _ early => passed_of_mem_take room early⟩
  conv => lhs; rw [whole]
  rw [List.flatMap_append, List.flatMap_singleton, Outcome.items, result]

/-- What whoever asks a run for its items, call after call, can rely on. -/
structure Steady (clock : Nat → Float) (run : Run) (limit : Nat) : Prop where
  /-- There are reports in the order of the frames, then at most one error, then nothing for ever. -/
  fused : ∃ (reports : List FrameReport) (failure : Option RunError),
    (reports.map FrameReport.frameId).Pairwise (· < ·) ∧
      ∀ call, (run.withLimit limit).answer? clock call =
        (reports.map .ok ++ failure.toList.map .error)[call]?
  /-- However often the run is asked, it asks the video for no more frames than the limit allows, the
  first ones, and it counts those that go through all stages. -/
  bounded : ∀ calls, ∃ pulled,
    Pulls clock (run.withLimit limit) pulled ((run.withLimit limit).afterCalls clock calls) ∧
      pulled <+: run.outcomes clock ∧ (0 < limit → pulled.length ≤ limit) ∧
        ((run.withLimit limit).afterCalls clock calls).framesProcessed =
          pulled.countP Outcome.passed
  /-- The limit cuts off what comes of later frames. -/
  stable : ∀ call, (run.withLimit limit).answer? clock call =
    ((upTo limit (run.outcomes clock)).flatMap Outcome.items)[call]?
  /-- If a frame fails that is not the first, then before the error comes what the run yields that stops
  before this frame. -/
  preceded : ∀ place outcome error, (run.outcomes clock)[place]? = some outcome →
    outcome.result = .error error → 0 < place → limit = 0 ∨ place < limit →
      (∀ item ∈ ((run.withLimit place).items clock).1, item.isOk = true) ∧
        ∀ call, (run.withLimit limit).answer? clock call =
          (((run.withLimit place).items clock).1 ++ [.error error])[call]?

theorem fresh_of_start {plan : Plan} {detector : Detector} {detectorName : String}
    {tracker : TrackerConfig} {output : OutputConfig}
    (started : Run.start plan source detector detectorName tracker output = .ok run) :
    run.pipeline.playback = .start (.ofVideo source) ∧ run.limit = none ∧
      run.framesProcessed = 0 := by
  unfold Run.start at started
  split at started
  · exact absurd started (by simp)
  · split at started
    · exact absurd started (by simp)
    · obtain rfl := Except.ok.inj started
      exact ⟨rfl, rfl, rfl⟩

/-- Every run of a plan on a video whose frames are numbered upwards yields reports and at most one error,
whatever fails and whenever it is stopped. -/
theorem steady_of_start {plan : Plan} (ascends : source.Ascends) {detector : Detector}
    {detectorName : String} {tracker : TrackerConfig} {output : OutputConfig}
    (started : Run.start plan source detector detectorName tracker output = .ok run)
    (clock : Nat → Float) (limit : Nat) :
    run.Steady clock limit := by
  obtain ⟨beginning, unlimited, fresh⟩ := fresh_of_start started
  have cut (limit : Nat) : (run.withLimit limit).outcomes clock = upTo limit (run.outcomes clock) :=
    outcomes_withLimit unlimited fresh clock limit
  have stable (call : Nat) : (run.withLimit limit).answer? clock call =
      ((upTo limit (run.outcomes clock)).flatMap Outcome.items)[call]? := by
    rw [answer?_eq, cut]
  constructor
  case fused =>
    have stream : (run.withLimit limit).pipeline.playback.stream = .ofVideo source :=
      congrArg Playback.stream beginning
    obtain ⟨failure, items⟩ := exists_items_eq (pairwise_outcomes clock (run.withLimit limit))
    have ascending : ((((run.withLimit limit).outcomes clock).filterMap Outcome.report?).map
        FrameReport.frameId).Pairwise (· < ·) :=
      (ascending_outcomesWithin ascends stream _).1
    refine ⟨_, failure, ascending, fun call => ?_⟩
    rw [answer?_eq, items]
  case bounded =>
    intro calls
    obtain ⟨pulled, pulls⟩ := exists_pulls_afterCalls clock (run.withLimit limit) calls
    have first : pulled <+: upTo limit (run.outcomes clock) :=
      ⟨_, pulls.outcomes_eq.symm.trans (cut limit)⟩
    refine ⟨pulled, pulls, first.trans (isPrefix_upTo limit _), fun positive => ?_, ?_⟩
    · exact Nat.le_trans first.length_le (length_upTo_le positive _)
    · have counted := pulls.framesProcessed_eq
      rwa [show (run.withLimit limit).framesProcessed = 0 from fresh, Nat.zero_add] at counted
  case stable => exact stable
  case preceded =>
    intro place outcome error found result positive within
    obtain ⟨length, items, reports⟩ := items_of_failed found result
    have before : ((run.withLimit place).items clock).1 =
        ((run.outcomes clock).take place).flatMap Outcome.items := by
      rw [items_eq, cut, upTo_of_pos positive]
    have complete : upTo limit (run.outcomes clock) = run.outcomes clock :=
      upTo_of_length_le (within.imp_right fun early => by omega)
    refine ⟨before ▸ reports, fun call => ?_⟩
    rw [stable, complete, before, items]

end Run

/-! ## A detector that falters -/

namespace Faltering

open Onlookers

def video : VideoSource := .blank ⟨10, 640, 480, 4⟩

/-- A detector that does not get over the third frame. -/
def detector : Detector where
  classNames := ["person"]
  infer frame picture :=
    if frame = 3 then .error (.inference "table" "no picture") else Onlookers.detector.infer frame picture

theorem ascends : video.Ascends := by
  intro first second raw raw' sooner _ delivered delivered'
  rw [← Except.ok.inj delivered, ← Except.ok.inj delivered']
  exact Nat.succ_lt_succ sooner

/-- The frames of the first answers, none for an error. -/
def answered (run : Run) (calls : Nat) : List (Option (Option Nat)) :=
  (List.range calls).map fun call =>
    (run.answer? (fun _ => 0) call).map fun item => item.toOption.map FrameReport.frameId

end Faltering

open Faltering in
/-- The third frame fails, after the reports on the first two and before nothing. -/
theorem Run.steady_of_start_faltering :
    ∃ run, Run.start Onlookers.plan video detector "table" {} {} = .ok run ∧ video.Ascends ∧
      (run.outcomes fun _ => 0).map Outcome.passed = [true, true, false] ∧
        answered (run.withLimit 0) 5 = [some (some 1), some (some 2), some none, none, none] ∧
          answered (run.withLimit 2) 4 = [some (some 1), some (some 2), none, none] ∧
            run.Steady (fun _ => 0) 0 ∧ run.Steady (fun _ => 0) 2 := by
  have steady {run : Run} (started : Run.start Onlookers.plan video detector "table" {} {} = .ok run)
      (limit : Nat) : run.Steady (fun _ => 0) limit :=
    Run.steady_of_start ascends started (fun _ => 0) limit
  exact ⟨_, rfl, ascends, by decide +kernel, by decide +kernel, by decide +kernel, steady rfl 0,
    steady rfl 2⟩

end ObjectQuery
