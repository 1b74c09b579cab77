import ObjectQuery.Proofs.Run.Abreast
import ObjectQuery.Proofs.Run.Reported

/-!
# Queries with different outputs

What a query reports of the objects that are left has no part in which objects are left, nor in what else is
reported of them: two queries with the same predicate yield reports on the same frames, of the same objects
and with the same counts, and under every name that both are asked for they tell the same
(`Run.agrees_of_constraint_eq`).
-/

namespace ObjectQuery

/-! ## Two reports -/

/-- What is reported of an object under the names asked for is the same, or missing in both. -/
def ObjectReport.Agrees (asked : String → Prop) (object object' : ObjectReport) : Prop :=
  ∀ field, asked field → Keyed.find? object' field = Keyed.find? object field

/-- Two reports on a frame that tell of the same objects, and the same under the names asked for. -/
structure FrameReport.Agrees (asked : String → Prop) (report report' : FrameReport) : Prop where
  frameId : report'.frameId = report.frameId
  objects : List.Forall₂ (fun entry entry' => entry'.1 = entry.1 ∧
    List.Forall₂ (ObjectReport.Agrees asked) entry.2 entry'.2) report.objects report'.objects
  objectCount : report'.objectCount = report.objectCount
  totalCount : report'.totalCount = report.totalCount

/-- Two items of runs: reports that agree, or the same error. -/
inductive Run.Item.Agrees (asked : String → Prop) : Run.Item → Run.Item → Prop
  | reported {report report' : FrameReport} :
      report.Agrees asked report' → Agrees asked (.ok report) (.ok report')
  | failed (error : RunError) : Agrees asked (.error error) (.error error)

theorem Run.Item.agrees_toList
    {asked : String → Prop} {told told' : Option FrameReport}
    (agree : Option.Rel (FrameReport.Agrees asked) told told') :
    List.Forall₂ (Item.Agrees asked) (told.toList.map .ok) (told'.toList.map .ok) := by
  cases agree with
  | none => exact List.Forall₂.nil
  | some same => exact List.Forall₂.cons (.reported same) List.Forall₂.nil

/-- Two runs that deliver the same frames with the same objects left on them, and report the same of these
under the names asked for. -/
structure Run.Agrees (className : String) (asked : String → Prop) (clock clock' : Nat → Float)
    (run run' : Run) : Prop where
  deliveries : List.Forall₂ (fun delivery delivery' =>
    delivery.1.ShowsSame className delivery'.1 ∧
      delivery'.1.left className = delivery.1.left className ∧
        Option.Rel (FrameReport.Agrees asked) delivery.2 delivery'.2)
    (run.deliveries clock) (run'.deliveries clock')
  items : List.Forall₂ (Item.Agrees asked) (run.items clock).1 (run'.items clock').1

/-! ## Two reporters -/

/-- There is the same to tell of two frames under the names that are asked for on both. -/
structure ReportSpec.TellsSame (spec spec' : ReportSpec) (frame frame' : Frame) : Prop where
  id : frame'.id = frame.id
  objects : List.Forall₂ (fun record record' => record'.trackId? = record.trackId? ∧
    ∀ field ∈ spec.fields, field ∈ spec'.fields →
      Reporter.field? frame' record' field = Reporter.field? frame record field)
    (frame.passing spec.index spec.className) (frame'.passing spec'.index spec'.className)

/-- The names that are asked for on both sides. -/
def ReportSpec.Both (spec spec' : ReportSpec) (field : String) : Prop :=
  field ∈ spec.fields ∧ field ∈ spec'.fields

namespace Reporter

variable {reporter reporter' : Reporter} {frame frame' : Frame}

/-- Reporters that report the same frames and have counted the same tracks. -/
structure CountsLike (reporter reporter' : Reporter) : Prop where
  typeName : reporter'.spec.typeName = reporter.spec.typeName
  config : reporter'.config = reporter.config
  seen : reporter'.seen = reporter.seen

theorem addSeen_eq {records records' : List ObjectRecord}
    (tracks : List.Forall₂ (fun record record' : ObjectRecord =>
      record'.trackId? = record.trackId?) records records') (seen : List Nat) :
    addSeen seen records' = addSeen seen records := by
  have same : records'.filterMap ObjectRecord.trackId? =
      records.filterMap ObjectRecord.trackId? := by
    induction tracks with
    | nil => rfl
    | cons head _ inductionHypothesis =>
        rw [List.filterMap_cons, List.filterMap_cons, head, inductionHypothesis]
  unfold addSeen
  rw [same]

/-- Reporters that count alike go on counting alike where there is the same to tell, and their reports
agree. -/
theorem apply_agrees (alike : reporter.CountsLike reporter')
    (same : reporter.spec.TellsSame reporter'.spec frame frame') :
    (reporter.apply frame).1.CountsLike (reporter'.apply frame').1 ∧
      Option.Rel (FrameReport.Agrees (reporter.spec.Both reporter'.spec))
        (reporter.apply frame).2 (reporter'.apply frame').2 := by
  have tracks := addSeen_eq (same.objects.imp fun _ _ told => told.1) reporter.seen
  have objects : List.Forall₂ (ObjectReport.Agrees (reporter.spec.Both reporter'.spec))
      ((frame.passing reporter.spec.index reporter.spec.className).map (reporter.objectReport frame))
      ((frame'.passing reporter'.spec.index reporter'.spec.className).map
        (reporter'.objectReport frame')) := by
    refine related_map_iff.mpr (same.objects.imp fun record record' told field asked => ?_)
    rw [find?_objectReport, find?_objectReport, if_pos asked.1, if_pos asked.2,
      told.2 field asked.1 asked.2]
  have lengths := same.objects.length_eq
  have empty : (frame'.passing reporter'.spec.index reporter'.spec.className).isEmpty =
      (frame.passing reporter.spec.index reporter.spec.className).isEmpty := by
    rw [Bool.eq_iff_iff, List.isEmpty_iff_length_eq_zero, List.isEmpty_iff_length_eq_zero, lengths]
  unfold apply
  simp only [empty, alike.config, alike.seen, tracks]
  split
  · exact ⟨alike, Option.Rel.none⟩
  · refine ⟨⟨alike.typeName, rfl, rfl⟩, Option.Rel.some ⟨same.id, ?_, ?_, rfl⟩⟩
    · exact List.Forall₂.cons ⟨alike.typeName, objects⟩ List.Forall₂.nil
    · simp only [List.length_map, lengths]

end Reporter

/-! ## Two runs -/

namespace Abreast

variable {course course' : Course} {scene : Scene} {origin : Ground} {run run' final final' : Run}
  {clock clock' : Nat → Float} {items items' : List Run.Item}

/-- Where there is the same to tell of a frame the reports on it agree, and both runs have counted alike. -/
theorem settle_agrees
    (abreast : Abreast course course' scene origin run run')
    (alike : run.reporter.CountsLike run'.reporter) {frame frame' : Frame}
    (pulled : run.pipeline.pull.frame = .ok frame) (pulled' : run'.pipeline.pull.frame = .ok frame')
    (told : course.spec.TellsSame course'.spec frame frame') (seconds seconds' : Float) :
    (run.settle run.pull seconds).reporter.CountsLike (run'.settle run'.pull seconds').reporter ∧
      Option.Rel (FrameReport.Agrees (course.spec.Both course'.spec))
        (run.reporter.apply frame).2 (run'.reporter.apply frame').2 := by
  obtain ⟨_, _, _, _, _, _, _, reaches, reaches'⟩ := abreast.reached
  rw [(Run.continues_settle pulled seconds).reporter,
    (Run.continues_settle pulled' seconds').reporter, ← reaches.spec, ← reaches'.spec]
  rw [← reaches.spec, ← reaches'.spec] at told
  exact Reporter.apply_agrees alike told

/-- Where there is the same to tell of all frames the reports on them agree, and what the runs yield. -/
theorem plays_agree
    (ready : scene.Ready course.before course.after)
    (ready' : scene.Ready course'.before course'.after)
    (plays : Run.Plays clock run items final) (plays' : Run.Plays clock' run' items' final')
    (abreast : Abreast course course' scene origin run run')
    (alike : run.reporter.CountsLike run'.reporter)
    (told : List.Forall₂ (course.spec.TellsSame course'.spec)
      ((run.deliveries clock).map Prod.fst) ((run'.deliveries clock').map Prod.fst)) :
    List.Forall₂ (Option.Rel (FrameReport.Agrees (course.spec.Both course'.spec)))
        ((run.deliveries clock).map Prod.snd) ((run'.deliveries clock').map Prod.snd) ∧
      List.Forall₂ (Run.Item.Agrees (course.spec.Both course'.spec)) items items' := by
  induction plays generalizing run' items' with
  | ended ended =>
      rw [plays'.eq_nil (abreast.hasNext_eq.trans ended), Run.deliveries, Run.deliveries,
        Run.delivered_of_end ended, Run.delivered_of_end (abreast.hasNext_eq.trans ended)]
      exact ⟨List.Forall₂.nil, List.Forall₂.nil⟩
  | @frame run _ _ more later inductionHypothesis =>
      cases plays' with
      | ended ended => exact absurd more (by simp [← abreast.hasNext_eq, ended])
      | frame more' later' =>
          rcases abreast.pull_cases ready ready' with
            ⟨error, failed, failed'⟩ | ⟨frame, frame', pulled, pulled', onward⟩
          · -- the error is the last item of both
            rw [later.eq_nil (Run.hasNext_of_error failed _),
              later'.eq_nil (Run.hasNext_of_error failed' _), Run.items_of_error failed,
              Run.items_of_error failed', Run.deliveries, Run.deliveries,
              Run.delivered_of_error failed, Run.delivered_of_error failed']
            exact ⟨List.Forall₂.nil, List.Forall₂.cons (.failed error) List.Forall₂.nil⟩
          · rw [Run.deliveries_of_ok more pulled, Run.deliveries_of_ok more' pulled'] at told ⊢
            rw [Run.items_of_ok pulled, Run.items_of_ok pulled']
            cases told with
            | cons here rest =>
                obtain ⟨next, agree⟩ := abreast.settle_agrees alike pulled pulled' here
                  (clock run.framesProcessed) (clock' run'.framesProcessed)
                obtain ⟨reported, yielded⟩ := inductionHypothesis later' (onward _ _) next rest
                exact ⟨List.Forall₂.cons agree reported,
                  List.rel_append (Run.Item.agrees_toList agree) yielded⟩

end Abreast

/-! ## Two queries with one predicate -/

namespace Plan.Compiled

variable {query other : Query} {plan plan' : Plan} {predicateNames outputNames : List String}
  {predicateNames' outputNames' : List String} {before after before' after' : List Property}
  {source : VideoSource} {detector : Detector} {detectorName : String} {output output' : OutputConfig}
  {origin : Ground} {pairs : List (Frame × Frame)} {pair : Frame × Frame}

section Predicate

variable (compiled : Compiled query plan predicateNames outputNames before after)
  (compiled' : Compiled other plan' predicateNames' outputNames' before' after')
  (same : other.constraint = query.constraint) (sameType : plan'.type = plan.type)

include compiled compiled' same sameType

/-- What is computed before the filter is a matter of the predicate. -/
theorem mem_before_iff {property : Property} : property ∈ before' ↔ property ∈ before := by
  have predicates := compiled'.predicates
  rw [sameType, same, compiled.predicates] at predicates
  rw [compiled'.mem_before, compiled.mem_before, sameType, Except.ok.inj predicates]

variable (free : ∀ property ∈ plan.type.properties, Field.isFixed property.name = false)
  (ignores : ∀ property ∈ plan.type.properties, property.IgnoresSnapshot)
  (paired : Paired plan.type before after before' after' (course query plan before after output)
    (course other plan' before' after' output')
    (Scene.of source detector detectorName plan.type.className) origin pairs)
  (member : pair ∈ pairs)

include free ignores paired member

/-- The same objects are left. -/
theorem left_eq : pair.2.left plan.type.className = pair.1.left plan.type.className := by
  have mine := compiled.left_eq_satisfying free ignores paired
    (fun _ => (compiled.mem_before_iff compiled' same sameType).mpr) member
  have theirs := paired.theirs.passing_eq_satisfying
    (compiled'.unwritten (by rwa [sameType]) output') (List.mem_map_of_mem member)
  rw [mine, ← same]
  exact theirs

/-- What both report of an object is the same. -/
theorem field?_eq {position : Nat} {record record' : ObjectRecord}
    (object : SameObject plan.type.className pair position record record') {field : String}
    (asked : field ∈ reportFields query.output) (asked' : field ∈ reportFields other.output) :
    Reporter.field? pair.2 record' field = Reporter.field? pair.1 record field := by
  have common := paired.inCommon_of_passing_eq
    (fun property => compiled.mem_before_iff compiled' same sameType)
    (fun pair member => compiled.left_eq compiled' same sameType free ignores paired member)
    fun property member => ignores property (compiled.declared member)
  refine Reporter.field?_eq (paired.twins member) ?_
  rcases compiled.fixed_or_mem_of_reported asked with fixed | ⟨property, computed, rfl⟩
  · exact paired.get?_of_fixed member object fixed
  · rcases compiled'.fixed_or_mem_of_reported asked' with fixed | ⟨property', computed', named⟩
    · exact paired.get?_of_fixed member object fixed
    · -- both plans compute one property of the name
      obtain rfl := paired.mine.eq_of_name_eq paired.theirs computed computed' named
      obtain ⟨place, here⟩ := List.mem_iff_getElem?.mp member
      exact paired.get?_eq_of_inCommon common (fun _ shared => shared.1) here property'
        ⟨computed, computed'⟩ position record record' object

/-- There is the same to tell of the frames of both runs. -/
theorem tellsSame : (reportSpec query plan).TellsSame (reportSpec other plan') pair.1 pair.2 := by
  have left := compiled.left_eq compiled' same sameType free ignores paired member
  refine ⟨(paired.showsSame member).id, ?_⟩
  change List.Forall₂ _
    ((pair.1.left plan.type.className).filterMap fun position =>
      (pair.1.recordsOf plan.type.className)[position]?)
    ((pair.2.left plan'.type.className).filterMap fun position =>
      (pair.2.recordsOf plan'.type.className)[position]?)
  rw [sameType, left]
  have places : List.Forall₂ (fun position position' => position = position' ∧
      position ∈ pair.1.left plan.type.className) (pair.1.left plan.type.className)
      (pair.1.left plan.type.className) :=
    List.forall₂_same.mpr fun _ listed => ⟨rfl, listed⟩
  refine List.rel_filterMap ?_ places
  rintro position _ ⟨rfl, listed⟩
  obtain ⟨record, record', object⟩ := paired.exists_sameObject member listed
  simp only [object.first, object.second]
  exact Option.Rel.some ⟨paired.trackId_eq member object, fun field asked asked' =>
    compiled.field?_eq compiled' same sameType free ignores paired member object asked asked'⟩

end Predicate

/-- Queries with one predicate yield the same under the names that both are asked for. -/
theorem agrees
    (compiled : Compiled query plan predicateNames outputNames before after)
    (compiled' : Compiled other plan' predicateNames' outputNames' before' after')
    (same : other.constraint = query.constraint) (sameType : plan'.type = plan.type)
    (wellFormed : plan.type.WellFormed)
    (free : ∀ property ∈ plan.type.properties, Field.isFixed property.name = false)
    (ignores : ∀ property ∈ plan.type.properties, property.IgnoresSnapshot)
    (fits : (source.detectionCounts detector).sum < 2 ^ 64) {tracker : TrackerConfig}
    {run run' : Run}
    (started : Run.start plan source detector detectorName tracker output = .ok run)
    (started' : Run.start plan' source detector detectorName tracker output = .ok run')
    (limit : Nat) (clock clock' : Nat → Float) :
    Run.Agrees plan.type.className ((reportSpec query plan).Both (reportSpec other plan')) clock
      clock' (run.withLimit limit) (run'.withLimit limit) := by
  obtain ⟨pairs, mine, theirs, paired⟩ := compiled.exists_paired compiled' sameType wellFormed free
    fits started started' limit clock clock'
  have abreast := compiled.abreast compiled' sameType fits started started' limit
  obtain ⟨_, reporter, _⟩ := start_eq_ok compiled started
  obtain ⟨_, reporter', _⟩ := start_eq_ok compiled' started'
  have alike : (run.withLimit limit).reporter.CountsLike (run'.withLimit limit).reporter := by
    unfold Run.withLimit
    rw [reporter, reporter']
    exact ⟨congrArg ObjectType.name sameType, rfl, rfl⟩
  have told := forall₂_of_pairs mine theirs fun pair member =>
    compiled.tellsSame compiled' same sameType free ignores paired member
  have shown : List.Forall₂ (fun frame frame' => frame.ShowsSame plan.type.className frame' ∧
      frame'.left plan.type.className = frame.left plan.type.className)
      (((run.withLimit limit).deliveries clock).map Prod.fst)
      (((run'.withLimit limit).deliveries clock').map Prod.fst) :=
    forall₂_of_pairs mine theirs fun pair member => ⟨paired.showsSame member,
      compiled.left_eq compiled' same sameType free ignores paired member⟩
  obtain ⟨reports, items⟩ := abreast.plays_agree paired.mine.ready paired.theirs.ready
    (Run.plays_items clock _) (Run.plays_items clock' _) alike told
  rw [related_map_iff] at reports shown
  exact ⟨shown.mp (fun _ _ shown report => ⟨shown.1, shown.2, report⟩) reports, items⟩

end Plan.Compiled

/-- What a query is asked to report has no part in anything else that it reports: a query with the same
predicate and any other output yields reports on the same frames, of the same objects in the same order and
with the same counts, and under each name that both are asked for these have the same value or none. -/
theorem Run.agrees_of_constraint_eq
    {query other : Query} (same : other.constraint = query.constraint) {plan plan' : Plan}
    (compiled : Plan.compile query = .ok plan) (compiled' : Plan.compile other = .ok plan')
    (wellFormed : plan.type.WellFormed)
    (free : ∀ property ∈ plan.type.properties, Field.isFixed property.name = false)
    (ignores : ∀ property ∈ plan.type.properties, property.IgnoresSnapshot)
    {source : VideoSource} {detector : Detector}
    (fits : (source.detectionCounts detector).sum < 2 ^ 64) {detectorName : String}
    {tracker : TrackerConfig} {output : OutputConfig} {run : Run}
    (started : Run.start plan source detector detectorName tracker output = .ok run) (limit : Nat)
    (clock clock' : Nat → Float) :
    ∃ run', Run.start plan' source detector detectorName tracker output = .ok run' ∧
      Run.Agrees plan.type.className
        (fun field => field ∈ Plan.reportFields query.output ∧ field ∈ Plan.reportFields other.output)
        clock clock' (run.withLimit limit) (run'.withLimit limit) := by
  have single := Plan.singleType_of_compile compiled'
  rw [same, Plan.singleType_of_compile compiled] at single
  have sameType : plan'.type = plan.type := (Except.ok.inj single).symm
  obtain ⟨_, _, _, _, compiled⟩ := Plan.compile_eq_ok compiled wellFormed
  obtain ⟨_, _, _, _, compiled'⟩ := Plan.compile_eq_ok compiled' (sameType ▸ wellFormed)
  obtain ⟨run', started'⟩ := compiled'.exists_start (by rw [sameType]) started
  exact ⟨run', started', compiled.agrees compiled' same sameType wellFormed free ignores fits started
    started' limit clock clock'⟩

/-! ## Walkers -/

namespace Passersby

/-- How often somebody has been seen. -/
def seen : Property :=
  .declare "seen" [⟨"seen", 1⟩]
    (fun inputs =>
      match inputs.window? "seen" with
      | some (last :: _) => (last.nat?.map fun count => Value.ofNat (count + 1)).getD .invalid
      | _ => .invalid)
    (.ofNat 0)

/-- Whether somebody has moved on two frames. -/
def walks : Property := .declare "walks" [⟨"moved", 1⟩] fun _ => .bool true

def walker : ObjectType :=
  .declare "Person" "person" [.property walks, .property seen, .property moved]

/-- Everybody who has been seen, with some of what is known. -/
def reporting (names : List String) : Query where
  name := "walkers"
  constraint := .greater (.property ⟨walker, "seen"⟩) (.literal (.ofNat 0))
  output := names.map fun name => ⟨walker, name⟩

def reportingPlan (late : List Property) (names : List String) : Plan where
  queryName := "walkers"
  type := walker
  stages :=
    [.classFilter "person" 0, Plan.projection walker seen,
      .predicateFilter (reporting names).constraint "person" 0] ++
      late.map (Plan.projection walker) ++ [.report ⟨"Person", "person", 0, names⟩]

theorem ignores_walker : ∀ property ∈ walker.properties, property.IgnoresSnapshot := by
  have listed : walker.properties = [walks, seen, moved] := rfl
  intro property member
  rw [listed] at member
  simp only [List.mem_cons, List.not_mem_nil, or_false] at member
  rcases member with rfl | rfl | rfl <;> exact fun _ _ => rfl

end Passersby

open Passersby in
/-- One query computes and remembers more after its filter than the other. -/
theorem Run.agrees_of_constraint_eq_walkers :
    ∃ run run', Run.start (reportingPlan [moved] ["moved"]) video detector "table" {} {} = .ok run ∧
      Run.start (reportingPlan [moved, walks] ["walks", "moved"]) video detector "table" {} {} =
        .ok run' ∧
        told "moved" run' = [(1, [none]), (2, [some "true"])] ∧
          Run.Agrees "person" (fun field => field ∈ Plan.reportFields (reporting ["moved"]).output ∧
            field ∈ Plan.reportFields (reporting ["walks", "moved"]).output) (fun _ => 0) (fun _ => 0)
            (run.withLimit 0) (run'.withLimit 0) := by
  have compiled : Plan.compile (reporting ["moved"]) = .ok (reportingPlan [moved] ["moved"]) := by cbv
  have compiled' : Plan.compile (reporting ["walks", "moved"]) =
      .ok (reportingPlan [moved, walks] ["walks", "moved"]) := by cbv
  have same : (reporting ["walks", "moved"]).constraint = (reporting ["moved"]).constraint := rfl
  have fits : (video.detectionCounts detector).sum < 2 ^ 64 := by decide +kernel
  obtain ⟨run', started', agrees⟩ := Run.agrees_of_constraint_eq same compiled compiled'
    ⟨by decide, by decide⟩ (by decide) ignores_walker fits rfl 0 (fun _ => 0) fun _ => 0
  refine ⟨_, run', rfl, started', ?_, agrees⟩
  obtain rfl := Except.ok.inj started'
  decide +kernel

end ObjectQuery
