import Mathlib.Data.Set.Card
import ObjectQuery.Proofs.Run.Lives
import ObjectQuery.Proofs.Run.Pulls
import ObjectQuery.Proofs.Stage.Reporter

/-!
# What a run counts

Tracks are counted twice: by the reporter, from the objects that it reports, and by the tally, from the
reports themselves. If the output asks for the tracks, both count the tracks that the reports mention, after
any number of calls. `Run.Counts` is what each frame preserves, and `Run.tallied_of_compile` is what can be
said of the calls.
-/

namespace ObjectQuery

/-! ## Members added once -/

namespace RunTally

section AddNew

variable {β γ : Type} [BEq β] [LawfulBEq β] [BEq γ] [LawfulBEq γ]

theorem mem_addNew {items : List β} {item other : β} :
    other ∈ addNew items item ↔ other ∈ items ∨ other = item := by
  unfold addNew
  split
  · rename_i present
    refine ⟨.inl, ?_⟩
    rintro (member | rfl)
    · exact member
    · exact List.contains_iff_mem.mp present
  · rw [List.mem_append, List.mem_singleton]

theorem nodup_addNew {items : List β} (distinct : items.Nodup) (item : β) :
    (addNew items item).Nodup := by
  unfold addNew
  split
  · exact distinct
  · rename_i absent
    refine List.nodup_append.mpr ⟨distinct, List.nodup_singleton item, ?_⟩
    rintro other member _ single rfl
    rw [List.mem_singleton] at single
    exact absent (List.contains_iff_mem.mpr (single ▸ member))

theorem mem_foldl_addNew {added items : List β} {item : β} :
    item ∈ added.foldl addNew items ↔ item ∈ items ∨ item ∈ added := by
  induction added generalizing items with
  | nil => simp
  | cons first rest inductionHypothesis =>
      rw [List.foldl_cons, inductionHypothesis, mem_addNew, List.mem_cons, or_assoc]

theorem nodup_foldl_addNew {items : List β} (distinct : items.Nodup) (added : List β) :
    (added.foldl addNew items).Nodup := by
  induction added generalizing items with
  | nil => exact distinct
  | cons first rest inductionHypothesis => exact inductionHypothesis (nodup_addNew distinct first)

theorem addNew_map {label : β → γ} (injective : label.Injective) (items : List β) (item : β) :
    addNew (items.map label) (label item) = (addNew items item).map label := by
  have same : (items.map label).contains (label item) = items.contains item := by
    rw [Bool.eq_iff_iff, List.contains_iff_mem, List.contains_iff_mem,
      List.mem_map_of_injective injective]
  unfold addNew
  rw [same]
  split
  · rfl
  · rw [List.map_append, List.map_singleton]

/-- Labels that differ where the members do make no difference. -/
theorem foldl_addNew_map {label : β → γ} (injective : label.Injective) (added items : List β) :
    (added.map label).foldl addNew (items.map label) = (added.foldl addNew items).map label := by
  induction added generalizing items with
  | nil => rfl
  | cons first rest inductionHypothesis =>
      rw [List.map_cons, List.foldl_cons, addNew_map injective, inductionHypothesis, List.foldl_cons]

end AddNew

end RunTally

/-! ## Tracks in reports -/

theorem Json.natural?_eq_some_iff {value : Json} {n : Nat} :
    value.natural? = some n ↔ value = .integer n := by
  unfold Json.natural?
  cases value with
  | integer number =>
      simp only [Json.integer.injEq, Option.ite_none_right_eq_some, Option.some.injEq]
      omega
  | null | bool | real | text | array | object => simp

/-- A number is read from what is written as it is read from the value. -/
theorem Value.natural?_toJson (value : Value) : value.toJson.natural? = value.nat? := by
  cases value with
  | float x =>
      rw [toJson, Json.ofFloat]
      split <;> rfl
  | null | bool | int | text | box | list | picture | invalid => rw [toJson]; rfl

namespace FrameReport

/-- Whether an object in a report is said to be on a track. -/
def Mentions (report : FrameReport) (track : Nat) : Prop :=
  ∃ entry ∈ report.objects, ∃ object ∈ entry.2,
    Keyed.find? object Field.trackId = some (.integer track)

/-- The number of the different tracks that reports mention. -/
noncomputable def trackCount (reports : List FrameReport) : Nat :=
  {track | ∃ report ∈ reports, report.Mentions track}.ncard

theorem trackIdOf?_eq_some_iff {object : ObjectReport} {track : Nat} :
    trackIdOf? object = some track ↔ Keyed.find? object Field.trackId = some (.integer track) := by
  unfold trackIdOf?
  rw [Option.bind_eq_bind, Option.bind_eq_some_iff]
  simp only [Json.natural?_eq_some_iff, exists_eq_right]

theorem mentions_iff {report : FrameReport} {track : Nat} :
    report.Mentions track ↔ ∃ name, (name, track) ∈ report.trackIds := by
  simp only [Mentions, trackIds, List.mem_flatMap, List.mem_filterMap, Option.map_eq_some_iff,
    Prod.mk.injEq, ← trackIdOf?_eq_some_iff]
  constructor
  · rintro ⟨entry, listed, object, member, told⟩
    exact ⟨entry.1, entry, listed, object, member, track, told, rfl, rfl⟩
  · rintro ⟨_, entry, listed, object, member, _, told, rfl, rfl⟩
    exact ⟨entry, listed, object, member, told⟩

end FrameReport

namespace Reporter

variable {reporter : Reporter} {frame : Frame} {report : FrameReport}

/-- If tracks are asked for, the report on an object tells its track. -/
theorem trackIdOf?_objectReport (asked : Field.trackId ∈ reporter.spec.fields) (frame : Frame)
    (record : ObjectRecord) :
    FrameReport.trackIdOf? (reporter.objectReport frame record) = record.trackId? := by
  have factless : frame.fact? Field.trackId = none := rfl
  rw [FrameReport.trackIdOf?, find?_objectReport, if_pos asked, field?, factless,
    Option.orElse_eq_orElse, Option.orElse_eq_or, Option.or_none, ObjectRecord.trackId?]
  cases record.get? Field.trackId with
  | none => rfl
  | some value =>
      cases invalid : value.isInvalid with
      | false =>
          simp only [invalid]
          exact Value.natural?_toJson value
      | true =>
          cases value with
          | invalid => rfl
          | null | bool | int | float | text | box | list | picture =>
              exact absurd invalid Bool.false_ne_true

theorem addSeen_eq_foldl (seen : List Nat) (records : List ObjectRecord) :
    addSeen seen records = (records.filterMap ObjectRecord.trackId?).foldl RunTally.addNew seen := rfl

/-- What becomes of a reporter and its report: the tracks of the report are those that it has seen in
addition. -/
structure Reports (reporter next : Reporter) (report : FrameReport) : Prop where
  tracks : ∃ tracks : List Nat,
    report.trackIds = tracks.map (fun track => (reporter.spec.typeName, track)) ∧
      next.seen = tracks.foldl RunTally.addNew reporter.seen
  total : report.totalCount = if next.config.countsTracks then some next.trackCount else none

theorem reports_of_apply (asked : Field.trackId ∈ reporter.spec.fields)
    (reported : (reporter.apply frame).2 = some report) :
    reporter.Reports (reporter.apply frame).1 report := by
  have objects := (apply_eq_some reported).2
  refine ⟨⟨(frame.passing reporter.spec.index reporter.spec.className).filterMap
    ObjectRecord.trackId?, ?_, ?_⟩, ?_⟩
  · rw [FrameReport.trackIds, objects]
    simp only [List.flatMap_cons, List.flatMap_nil, List.append_nil, List.filterMap_map,
      List.map_filterMap]
    refine List.filterMap_congr fun record _ => ?_
    exact congrArg (Option.map _) (trackIdOf?_objectReport asked frame record)
  all_goals
    unfold apply at reported ⊢
    simp only at reported ⊢
    split at reported
    · exact absurd reported (by simp)
    · rename_i told
      rw [if_neg told]
      obtain rfl := Option.some.inj reported
      rfl

theorem apply_of_none (silent : (reporter.apply frame).2 = none) :
    (reporter.apply frame).1 = reporter := by
  unfold apply at silent ⊢
  simp only at silent ⊢
  split at silent
  · rename_i skipped
    rw [if_pos skipped]
  · exact absurd silent (by simp)

end Reporter

/-! ## Frame by frame -/

namespace Run

variable {run later : Run} {clock : Nat → Float} {front : List Outcome} {reports : List FrameReport}
  {output : OutputConfig}

/-- What a run has counted that has yielded the reports. -/
structure Counts (output : OutputConfig) (reports : List FrameReport) (run : Run) : Prop where
  asked : Field.trackId ∈ run.reporter.spec.fields
  config : run.reporter.config = output
  distinct : run.reporter.seen.Nodup
  mem_seen : ∀ track, track ∈ run.reporter.seen ↔ ∃ report ∈ reports, report.Mentions track
  tracks : run.tally.tracks = run.reporter.seen.map fun track => (run.reporter.spec.typeName, track)
  processed : run.tally.framesProcessed = run.framesProcessed
  emitted : run.tally.framesEmitted = reports.length
  emitted_le : run.tally.framesEmitted ≤ run.tally.framesProcessed
  matched : run.tally.framesMatched = reports.countP fun report => 0 < report.size
  objects : run.tally.objectsEmitted = (reports.map FrameReport.size).sum

namespace Counts

theorem trackCount_eq (counts : Counts output reports run) :
    run.reporter.trackCount = FrameReport.trackCount reports := by
  have same : {track | ∃ report ∈ reports, report.Mentions track} =
      (run.reporter.seen.toFinset : Set Nat) := by
    ext track
    rw [List.coe_toFinset]
    exact (counts.mem_seen track).symm
  rw [FrameReport.trackCount, same, Set.ncard_coe_finset,
    List.toFinset_card_of_nodup counts.distinct]
  rfl

theorem distinctTracks_eq (counts : Counts output reports run) :
    run.tally.distinctTracks = FrameReport.trackCount reports := by
  rw [← counts.trackCount_eq, RunTally.distinctTracks, counts.tracks, List.length_map]
  rfl

theorem settle_error (counts : Counts output reports run) {error : RunError}
    (pulled : run.pipeline.pull.frame = .error error) (seconds : Float) :
    Counts output (reports ++ run.pull.report?.toList) (run.settle run.pull seconds) := by
  rw [pull_of_error pulled]
  change Counts output (reports ++ []) _
  rw [List.append_nil]
  exact ⟨counts.asked, counts.config, counts.distinct, counts.mem_seen, counts.tracks,
    counts.processed, counts.emitted, counts.emitted_le, counts.matched, counts.objects⟩

theorem settle_silent (counts : Counts output reports run) {frame : Frame}
    (pulled : run.pipeline.pull.frame = .ok frame) (silent : (run.reporter.apply frame).2 = none)
    (seconds : Float) :
    Counts output (reports ++ run.pull.report?.toList) (run.settle run.pull seconds) := by
  rw [pull_of_ok pulled, silent, Reporter.apply_of_none silent]
  change Counts output (reports ++ []) _
  rw [List.append_nil]
  exact
    { counts with
      processed := congrArg (· + 1) counts.processed
      emitted_le := Nat.le_succ_of_le counts.emitted_le }

theorem settle_report (counts : Counts output reports run) {frame : Frame}
    (pulled : run.pipeline.pull.frame = .ok frame) {report : FrameReport}
    (reported : (run.reporter.apply frame).2 = some report) (seconds : Float) :
    Counts output (reports ++ run.pull.report?.toList) (run.settle run.pull seconds) := by
  obtain ⟨spec, config⟩ := Reporter.config_apply run.reporter frame
  obtain ⟨⟨tracks, named, seen⟩, _⟩ := Reporter.reports_of_apply counts.asked reported
  rw [pull_of_ok pulled, reported]
  change Counts output (reports ++ [report]) _
  have mentions (track : Nat) : report.Mentions track ↔ track ∈ tracks := by
    rw [FrameReport.mentions_iff, named]
    simp
  have labels : Function.Injective fun track : Nat => (run.reporter.spec.typeName, track) :=
    fun _ _ same => (Prod.mk.inj same).2
  exact
    { asked := by
        change Field.trackId ∈ (run.reporter.apply frame).1.spec.fields
        rw [spec]
        exact counts.asked
      config := config.trans counts.config
      distinct := by
        change (run.reporter.apply frame).1.seen.Nodup
        rw [seen]
        exact RunTally.nodup_foldl_addNew counts.distinct tracks
      mem_seen := fun track => by
        change track ∈ (run.reporter.apply frame).1.seen ↔ _
        rw [seen, RunTally.mem_foldl_addNew, counts.mem_seen, ← mentions]
        simp [or_and_right, exists_or]
      tracks := by
        change report.trackIds.foldl RunTally.addNew run.tally.tracks =
          (run.reporter.apply frame).1.seen.map fun track =>
            ((run.reporter.apply frame).1.spec.typeName, track)
        rw [named, counts.tracks, spec, seen, RunTally.foldl_addNew_map labels]
      processed := congrArg (· + 1) counts.processed
      emitted := by
        rw [List.length_append]
        exact congrArg (· + 1) counts.emitted
      emitted_le := Nat.succ_le_succ counts.emitted_le
      matched := by
        rw [List.countP_append, List.countP_singleton]
        exact congrArg₂ (· + ·) counts.matched (by simp)
      objects := by
        rw [List.map_append, List.sum_append, List.map_singleton, List.sum_singleton]
        exact congrArg (· + report.size) counts.objects }

/-- What becomes of a frame is counted. -/
theorem settle (counts : Counts output reports run) (seconds : Float) :
    Counts output (reports ++ run.pull.report?.toList) (run.settle run.pull seconds) := by
  cases pulled : run.pipeline.pull.frame with
  | error error => exact counts.settle_error pulled seconds
  | ok frame =>
      cases reported : (run.reporter.apply frame).2 with
      | none => exact counts.settle_silent pulled reported seconds
      | some report => exact counts.settle_report pulled reported seconds

/-- What becomes of some frames is counted. -/
theorem pulls (counts : Counts output reports run) (pulls : Pulls clock run front later) :
    Counts output (reports ++ front.filterMap Outcome.report?) later := by
  induction pulls generalizing reports with
  | none => rwa [List.filterMap_nil, List.append_nil]
  | @frame run later outcomes more pulls inductionHypothesis =>
      have next := inductionHypothesis (counts.settle (clock run.framesProcessed))
      have first : (run.pull :: outcomes).filterMap Outcome.report? =
          run.pull.report?.toList ++ outcomes.filterMap Outcome.report? := by
        rw [List.filterMap_cons]
        cases run.pull.report? <;> rfl
      rwa [List.append_assoc, ← first] at next

end Counts

/-! ## Call by call -/

/-- The reports among the first answers. -/
def reportsWithin (clock : Nat → Float) (run : Run) (calls : Nat) : List FrameReport :=
  (List.range calls).filterMap fun call => (run.answer? clock call).bind Except.toOption

theorem reportsWithin_succ (clock : Nat → Float) (run : Run) (calls : Nat) :
    run.reportsWithin clock (calls + 1) =
      run.reportsWithin clock calls ++ ((run.answer? clock calls).bind Except.toOption).toList := by
  unfold reportsWithin
  rw [List.range_succ, List.filterMap_append, List.filterMap_cons, List.filterMap_nil]
  cases (run.answer? clock calls).bind Except.toOption <;> rfl

theorem filterMap_report? (front : List Outcome) :
    front.filterMap Outcome.report? = (front.flatMap Outcome.items).filterMap Except.toOption := by
  rw [List.filterMap_flatMap]
  induction front with
  | nil => rfl
  | cons outcome rest inductionHypothesis =>
      rw [List.filterMap_cons, List.flatMap_cons, ← inductionHypothesis]
      unfold Outcome.report? Outcome.items
      cases outcome.result with
      | error error => rfl
      | ok report => cases report <;> rfl

/-- The reports among the answers are those on the frames that have been pulled. -/
theorem exists_pulls_reportsWithin (clock : Nat → Float) (run : Run) (calls : Nat) :
    ∃ front, Pulls clock run front (run.afterCalls clock calls) ∧
      front.filterMap Outcome.report? = run.reportsWithin clock calls := by
  induction calls with
  | zero => exact ⟨[], .none, rfl⟩
  | succ calls inductionHypothesis =>
      obtain ⟨before, pulls, same⟩ := inductionHypothesis
      obtain ⟨front, serves⟩ := exists_serves clock (run.afterCalls clock calls)
      refine ⟨before ++ front, ?_, ?_⟩
      · rw [afterCalls_succ]
        exact pulls.trans serves.pulls
      · rw [List.filterMap_append, same, filterMap_report?, serves.items, reportsWithin_succ]
        refine congrArg (_ ++ ·) ?_
        unfold answer?
        cases ((run.afterCalls clock calls).next clock).item with
        | none => rfl
        | some item => cases item <;> rfl

/-- A run counts what it has answered. -/
theorem Counts.afterCalls (counts : Counts output [] run) (clock : Nat → Float) (calls : Nat) :
    Counts output (run.reportsWithin clock calls) (run.afterCalls clock calls) := by
  obtain ⟨front, pulls, same⟩ := exists_pulls_reportsWithin clock run calls
  rw [← same]
  exact counts.pulls pulls

/-- A report is yielded with the number of tracks that have been seen when it is made. -/
theorem totalCount_nextWithin {frames : Nat} {report : FrameReport}
    (counts : Counts output reports run)
    (yielded : (run.nextWithin clock frames).item = some (.ok report)) :
    report.totalCount =
      if output.countsTracks then some (run.nextWithin clock frames).run.reporter.trackCount
      else none := by
  induction frames generalizing run reports with
  | zero => exact absurd yielded (by simp [nextWithin])
  | succ frames inductionHypothesis =>
      rw [nextWithin] at yielded ⊢
      split at yielded
      · rename_i more
        rw [if_pos more]
        have next := counts.settle (clock run.framesProcessed)
        cases pulled : run.pipeline.pull.frame with
        | error error =>
            rw [pull_of_error pulled] at yielded
            exact absurd yielded (by simp)
        | ok frame =>
            have result : run.pull.result = .ok (run.reporter.apply frame).2 := by
              rw [pull_of_ok pulled]
            simp only [result] at yielded ⊢
            cases reported : (run.reporter.apply frame).2 with
            | none =>
                simp only [reported] at yielded ⊢
                exact inductionHypothesis next yielded
            | some told =>
                simp only [reported] at yielded ⊢
                obtain rfl := Except.ok.inj (Option.some.inj yielded)
                have total := (Reporter.reports_of_apply counts.asked reported).total
                rw [← (continues_settle pulled (clock run.framesProcessed)).reporter,
                  next.config] at total
                exact total
      · exact absurd yielded (by simp)

/-- What a run has counted after some calls. -/
structure Tallied (output : OutputConfig) (clock : Nat → Float) (run : Run) (calls : Nat) : Prop where
  /-- The tracks that the reporter has counted are those in the reports so far. -/
  reported : (run.afterCalls clock calls).reporter.trackCount =
    FrameReport.trackCount (run.reportsWithin clock calls)
  /-- So are those that the tally has counted. -/
  tallied : (run.afterCalls clock calls).tally.distinctTracks =
    FrameReport.trackCount (run.reportsWithin clock calls)
  /-- A report that counts the tracks counts those in the reports up to itself. -/
  total : ∀ call < calls, ∀ report, run.answer? clock call = some (.ok report) →
    report.totalCount =
      if output.countsTracks then
        some (FrameReport.trackCount (run.reportsWithin clock (call + 1)))
      else none
  matched : (run.afterCalls clock calls).tally.framesMatched ≤
    (run.afterCalls clock calls).tally.framesEmitted
  emitted : (run.afterCalls clock calls).tally.framesEmitted ≤
    (run.afterCalls clock calls).tally.framesProcessed
  processed : (run.afterCalls clock calls).tally.framesProcessed =
    (run.afterCalls clock calls).framesProcessed
  objects : (run.afterCalls clock calls).tally.objectsEmitted =
    ((run.reportsWithin clock calls).map FrameReport.size).sum

theorem Counts.tallied (counts : Counts output [] run) (clock : Nat → Float) (calls : Nat) :
    run.Tallied output clock calls := by
  have now := counts.afterCalls clock calls
  refine ⟨now.trackCount_eq, now.distinctTracks_eq, ?_, ?_, now.emitted_le, now.processed, now.objects⟩
  · intro call _ report answered
    rw [← (counts.afterCalls clock (call + 1)).trackCount_eq, afterCalls_succ]
    exact totalCount_nextWithin (counts.afterCalls clock call) answered
  · rw [now.matched, now.emitted]
    exact List.countP_le_length

end Run

theorem Plan.fields_of_compile {query : Query} {plan : Plan} (compiled : compile query = .ok plan)
    {spec : ReportSpec} (found : Run.reportOf? plan.stages = some spec) :
    spec.fields = reportFields query.output := by
  obtain ⟨type, _, _, before, after, _, _, _, _, _, _, rfl⟩ := compile_eq_ok_iff.mp compiled
  simp only [Run.reportOf?, planOf, List.filterMap_append, List.filterMap_cons, List.filterMap_nil,
    List.getLast?_concat, Option.some.injEq] at found
  rw [← found]

namespace Run

theorem counts_of_start {plan : Plan} {source : VideoSource} {detector : Detector}
    {detectorName : String} {tracker : TrackerConfig} {output : OutputConfig} {run : Run}
    (started : Run.start plan source detector detectorName tracker output = .ok run)
    (asked : ∀ spec, reportOf? plan.stages = some spec → Field.trackId ∈ spec.fields) :
    Counts output [] run := by
  unfold Run.start at started
  split at started
  · exact absurd started (by simp)
  · split at started
    · exact absurd started (by simp)
    · rename_i spec found
      obtain rfl := Except.ok.inj started
      exact
        { asked := asked spec found
          config := rfl
          distinct := List.nodup_nil
          mem_seen := fun track => by simp [Reporter.start]
          tracks := rfl
          processed := rfl
          emitted := rfl
          emitted_le := Nat.le_refl 0
          matched := rfl
          objects := rfl }

/-- If a compiled query asks for the tracks, then the reporter and the tally count the tracks in the reports
so far, whatever is reported and whatever fails. -/
theorem tallied_of_compile {query : Query} {plan : Plan} (compiled : Plan.compile query = .ok plan)
    (asked : Field.trackId ∈ Plan.reportFields query.output) {source : VideoSource}
    {detector : Detector} {detectorName : String} {tracker : TrackerConfig} {output : OutputConfig}
    {run : Run} (started : Run.start plan source detector detectorName tracker output = .ok run)
    (limit : Nat) (clock : Nat → Float) (calls : Nat) :
    (run.withLimit limit).Tallied output clock calls := by
  have counts : Counts output [] run := counts_of_start started fun spec found =>
    Plan.fields_of_compile compiled found ▸ asked
  have limited : Counts output [] (run.withLimit limit) :=
    ⟨counts.asked, counts.config, counts.distinct, counts.mem_seen, counts.tracks, counts.processed,
      counts.emitted, counts.emitted_le, counts.matched, counts.objects⟩
  exact limited.tallied clock calls

end Run

/-! ## Somebody who is counted once -/

namespace Returning

/-- Everybody who is detected with more than a score, by the number of the track. -/
def counted (score : Float) : Query where
  name := "counted"
  constraint := .greater (.property ⟨person, Field.score⟩) (.literal (.float score))
  output := [⟨person, Field.trackId⟩]

def countedPlan (score : Float) : Plan where
  queryName := "counted"
  type := person
  stages :=
    [.classFilter "person" 0, .predicateFilter (counted score).constraint "person" 0,
      .report ⟨"Person", "person", 0, [Field.trackId]⟩]

/-- The numbers of the reported frames with the numbers of tracks told. -/
def totals (run : Run) (calls : Nat) : List (Nat × Option Nat) :=
  (run.reportsWithin (fun _ => 0) calls).map fun report => (report.frameId, report.totalCount)

end Returning

open Returning in
/-- Between the two reports is a frame without one, and the track is found again. -/
theorem Run.tallied_of_compile_returning :
    ∃ run, Plan.compile (counted 0.7) = .ok (countedPlan 0.7) ∧
      Field.trackId ∈ Plan.reportFields (counted 0.7).output ∧
        Run.start (countedPlan 0.7) video detector "table" {} { countsTracks := true } = .ok run ∧
          totals (run.withLimit 0) 3 = [(1, some 1), (3, some 1)] ∧
            (run.withLimit 0).Tallied { countsTracks := true } (fun _ => 0) 3 := by
  have compiled (score : Float) : Plan.compile (counted score) = .ok (countedPlan score) := by cbv
  have asked : Field.trackId ∈ Plan.reportFields (counted 0.7).output := by decide +kernel
  have tallied {run : Run} (started : Run.start (countedPlan 0.7) video detector "table" {}
      { countsTracks := true } = .ok run) :
      (run.withLimit 0).Tallied { countsTracks := true } (fun _ => 0) 3 :=
    Run.tallied_of_compile (compiled 0.7) asked started 0 (fun _ => 0) 3
  exact ⟨_, compiled 0.7, asked, rfl, by decide +kernel, tallied rfl⟩

end ObjectQuery
