import Mathlib.Data.List.Permutation
import ObjectQuery.Json.Printer
import ObjectQuery.Proofs.Run.Abreast
import ObjectQuery.Proofs.Run.Selection
import ObjectQuery.Proofs.Stage.Reporter

/-!
# What is reported of the objects that are left

The predicate of a query chooses the objects that are reported. What is reported of them is what the query
on all objects reports, as far as nothing is looked back on that the predicate has turned away
(`Run.selects_of_start`).
-/

namespace ObjectQuery

/-! ## Two reports -/

/-- What is reported of an object that is left, next to what the run on all objects reports of it:
undisturbed fields are the same, and others are the same or left out unless a property holds on to values. -/
structure ObjectType.Agrees (type : ObjectType) (before : List Property) (frames : List Frame)
    (place : Nat) (record : ObjectRecord) (mine theirs : ObjectReport) : Prop where
  undisturbed : ∀ field, (∀ track, record.trackId? = some track →
      type.Undisturbed before frames track field place) →
    Keyed.find? mine field = Keyed.find? theirs field
  missing : ∀ field, type.NeverHolds before field →
    Keyed.find? mine field = none ∨ Keyed.find? mine field = Keyed.find? theirs field

/-- The report on the object in one place of both frames is there in the run on all objects, and what is
reported of it agrees. -/
def ObjectType.ReportsSame (type : ObjectType) (before : List Property) (frames : List Frame)
    (place : Nat) (pair : Frame × Frame) (theirs : List ObjectReport) (position : Nat)
    (mine : ObjectReport) : Prop :=
  ∃ record record' object, SameObject type.className pair position record record' ∧
    (∀ name, Field.isFixed name = true → record'.get? name = record.get? name) ∧
      theirs[position]? = some object ∧ type.Agrees before frames place record mine object

/-- Whatever a run reports the other one reports as well, on the same frame and of the same objects, and
what they report of an object agrees. -/
def Run.Selects (run runAll : Run) (plan : Plan) (clock clockAll : Nat → Float) : Prop :=
  ∀ place frame report, (run.deliveries clock)[place]? = some (frame, some report) →
    ∃ frameAll reportAll objects objectsAll,
      (runAll.deliveries clockAll)[place]? = some (frameAll, some reportAll) ∧
        reportAll.frameId = report.frameId ∧ report.objects = [(plan.type.name, objects)] ∧
          reportAll.objects = [(plan.type.name, objectsAll)] ∧
            List.Forall₂ (plan.type.ReportsSame plan.projectedBeforeFilter
              ((run.deliveries clock).map Prod.fst) place (frame, frameAll) objectsAll)
              (frame.left plan.type.className) objects

theorem Reporter.field?_of_invalid
    {frame : Frame} {record : ObjectRecord} {name : String} {value : Value}
    (written : record.get? name = some value) (invalid : value.isInvalid = true) :
    field? frame record name = none := by
  unfold field?
  rw [written]
  exact if_pos invalid

theorem Reporter.exists_report
    {reporter reporter' : Reporter} {frame frame' : Frame} {report : FrameReport}
    (reported : (reporter.apply frame).2 = some report)
    (config : reporter'.config = reporter.config)
    (left : frame'.passing reporter'.spec.index reporter'.spec.className = [] →
      frame.passing reporter.spec.index reporter.spec.className = []) :
    ∃ report', (reporter'.apply frame').2 = some report' := by
  refine Option.isSome_iff_exists.mp ?_
  have here := Reporter.isSome_apply reporter frame
  rw [reported] at here
  rw [Reporter.isSome_apply, config]
  cases nothing : (frame'.passing reporter'.spec.index reporter'.spec.className).isEmpty with
  | false => rfl
  | true =>
      rw [left (List.isEmpty_iff.mp nothing)] at here
      exact here.symm

namespace Beside

variable {type : ObjectType} {before after all : List Property} {course whole : Course}
  {scene : Scene} {origin : Ground} {pairs : List (Frame × Frame)} {place position : Nat}
  {pair : Frame × Frame} {record record' : ObjectRecord}

/-- The run on all objects reports on every object. -/
theorem passing_second
    (beside : Beside type before after all course whole scene origin pairs)
    (here : pairs[place]? = some pair) :
    pair.2.passing Plan.filterIndex type.className = pair.2.recordsOf type.className := by
  have listed : pair.2.left type.className = List.range (pair.2.recordsOf type.className).length := by
    rw [← beside.passing_eq_left, beside.unfiltered pair (List.mem_of_getElem? here),
      Scene.everything, beside.mine.className]
  have passing : pair.2.passing Plan.filterIndex type.className =
      (pair.2.left type.className).filterMap fun position =>
        (pair.2.recordsOf type.className)[position]? := rfl
  rw [passing, listed, filterMap_range_getElem?]

variable {reporter reporter' : Reporter}

/-- The report on an object that is left agrees with the one in the run on all objects. -/
theorem agrees
    (beside : Beside type before after all course whole scene origin pairs)
    (here : pairs[place]? = some pair)
    (same : SameObject type.className pair position record record')
    (left : position ∈ scene.passing pair.1) (specs : reporter'.spec = reporter.spec)
    (known : ∀ field ∈ reporter.spec.fields,
      Field.isFixed field = true ∨ ∃ property ∈ all, property.name = field) :
    type.Agrees before (pairs.map Prod.fst) place record (reporter.objectReport pair.1 record)
      (reporter'.objectReport pair.2 record') := by
  have inside := List.mem_of_getElem? here
  have told (field : String) (written : record'.get? field = record.get? field) :
      (Reporter.field? pair.1 record field).map Value.toJson =
        (Reporter.field? pair.2 record' field).map Value.toJson :=
    congrArg _ (Reporter.field?_eq (beside.twins inside) written).symm
  refine ⟨fun field undisturbed => ?_, fun field neverHolds => ?_⟩ <;>
    rw [Reporter.find?_objectReport, Reporter.find?_objectReport, specs] <;>
    by_cases asked : field ∈ reporter.spec.fields
  · rw [if_pos asked, if_pos asked]
    rcases known field asked with fixed | ⟨property, member, rfl⟩
    · exact told field (beside.paired.get?_of_fixed inside same fixed)
    · exact told property.name (beside.get?_of_undisturbed here property member position record record'
        same left undisturbed)
  · rw [if_neg asked, if_neg asked]
  · rw [if_pos asked, if_pos asked]
    rcases known field asked with fixed | ⟨property, member, rfl⟩
    · exact Or.inr (told field (beside.paired.get?_of_fixed inside same fixed))
    · rcases beside.get?_or_invalid here property member neverHolds position record record' same left
        with written | ⟨value, written, invalid⟩
      · exact Or.inr (told property.name written)
      · rw [Reporter.field?_of_invalid written invalid]
        exact Or.inl rfl
  · rw [if_neg asked]
    exact Or.inl rfl

/-- A frame that is reported on is reported on in the run on all objects. -/
theorem exists_report
    (beside : Beside type before after all course whole scene origin pairs)
    (here : pairs[place]? = some pair) (specs : reporter'.spec = reporter.spec)
    (index : reporter.spec.index = Plan.filterIndex)
    (className : reporter.spec.className = type.className)
    (configs : reporter'.config = reporter.config) {report : FrameReport}
    (reported : (reporter.apply pair.1).2 = some report) :
    ∃ report', (reporter'.apply pair.2).2 = some report' := by
  refine Reporter.exists_report reported configs fun nothing => ?_
  rw [specs, index, className, beside.passing_second here] at nothing
  have length := (beside.twins (List.mem_of_getElem? here)).length
  rw [nothing, List.length_nil] at length
  have none : pair.1.recordsOf type.className = [] := List.eq_nil_of_length_eq_zero length.symm
  unfold Frame.passing
  rw [className, none]
  exact List.filterMap_eq_nil_iff.mpr fun position _ => rfl

theorem reportsSame
    (beside : Beside type before after all course whole scene origin pairs)
    (here : pairs[place]? = some pair) (specs : reporter'.spec = reporter.spec)
    (known : ∀ field ∈ reporter.spec.fields,
      Field.isFixed field = true ∨ ∃ property ∈ all, property.name = field) :
    List.Forall₂ (type.ReportsSame before (pairs.map Prod.fst) place pair
        ((pair.2.passing Plan.filterIndex type.className).map (reporter'.objectReport pair.2)))
      (pair.1.left type.className)
      ((pair.1.passing Plan.filterIndex type.className).map (reporter.objectReport pair.1)) := by
  rw [beside.passing_second here]
  refine forall₂_places fun position left => ?_
  rw [← beside.passing_eq_left] at left
  obtain ⟨record, record', same⟩ := beside.paired.exists_sameObject (List.mem_of_getElem? here) left
  refine ⟨record, same.first, record, record', reporter'.objectReport pair.2 record', same,
    fun name fixed => beside.paired.get?_of_fixed (List.mem_of_getElem? here) same fixed, ?_,
    beside.agrees here same left specs known⟩
  rw [List.getElem?_map, same.second, Option.map_some]

end Beside

/-! ## Two runs -/

/-- The frames of a video are numbered upwards. -/
def VideoSource.Ascends (source : VideoSource) : Prop :=
  ∀ first second raw raw', first < second → second < source.length →
    source.frameAt first = .ok raw → source.frameAt second = .ok raw' → raw.id < raw'.id

theorem Course.Tells.ascending
    {course : Course} {scene : Scene} {origin : Ground} {frames : List Frame}
    (tells : course.Tells scene origin frames) (ascends : scene.source.Ascends) :
    frames.Pairwise fun a b => a.id < b.id := by
  refine List.pairwise_iff_getElem.mpr fun first second firstRoom secondRoom sooner => ?_
  obtain ⟨raw, _, delivered, same⟩ := (tells first _ (List.getElem?_eq_getElem firstRoom)).raw
  obtain ⟨raw', room', delivered', same'⟩ := (tells second _ (List.getElem?_eq_getElem secondRoom)).raw
  rw [List.length_take, Nat.min_eq_left (Nat.le_of_lt firstRoom)] at delivered
  rw [List.length_take, Nat.min_eq_left (Nat.le_of_lt secondRoom)] at delivered' room'
  rw [same, same']
  exact ascends first second raw raw' sooner room' delivered delivered'

/-- Every object is an instance of its type. -/
theorem Course.Delivers.passing_of_isInstance
    {course : Course} {scene : Scene} {origin : Ground} {earlier : List Frame} {frame : Frame}
    (delivers : course.Delivers scene origin earlier frame) {type : ObjectType}
    (all : course.predicate = .isInstance type) (className : scene.className = type.className) :
    scene.passing frame = scene.everything frame := by
  obtain ⟨middle, same, passing, _⟩ := delivers.filtered
  rw [passing]
  refine List.filter_eq_self.mpr fun position member => ?_
  rw [← same] at member
  have room := List.mem_range.mp member
  unfold Frame.satisfies
  rw [List.getElem?_eq_getElem room, all]
  simp [Predicate.holds, Predicate.answer?, className]

namespace Plan.Compiled

variable {query : Query} {plan planAll : Plan} {predicateNames outputNames : List String}
  {predicateNames' outputNames' : List String} {before after beforeAll all : List Property}

/-- What a query on all instances computes the query with a predicate computes, too. -/
theorem mem_of_mem_all
    (compiled : Compiled query plan predicateNames outputNames before after)
    (compiledAll : Compiled { query with constraint := .isInstance plan.type } planAll
      predicateNames' outputNames' beforeAll all) (sameType : planAll.type = plan.type)
    {property : Property} (member : property ∈ all) :
    property ∈ before ++ after := by
  have outputs := compiledAll.outputs
  rw [sameType] at outputs
  obtain rfl := Except.ok.inj (outputs.symm.trans compiled.outputs)
  obtain ⟨declared, named, _⟩ := (compiledAll.mem_after property).mp member
  rw [sameType] at declared
  by_cases early : property.name ∈ predicateNames
  · exact List.mem_append_left _ ((compiled.mem_before property).mpr ⟨declared, early⟩)
  · exact List.mem_append_right _ ((compiled.mem_after property).mpr ⟨declared, named, early⟩)

variable {source : VideoSource} {detector : Detector} {detectorName : String}
  {tracker : TrackerConfig} {output : OutputConfig} {run runAll : Run} {clock clockAll : Nat → Float}
  {limit : Nat}

theorem beside
    (compiled : Compiled query plan predicateNames outputNames before after)
    (compiledAll : Compiled { query with constraint := .isInstance plan.type } planAll
      predicateNames' outputNames' [] all) (sameType : planAll.type = plan.type)
    (wellFormed : plan.type.WellFormed)
    (free : ∀ property ∈ plan.type.properties, Field.isFixed property.name = false)
    (ignores : ∀ property ∈ plan.type.properties, property.IgnoresSnapshot)
    (ascends : source.Ascends) (fits : (source.detectionCounts detector).sum < 2 ^ 64)
    (started : Run.start plan source detector detectorName tracker output = .ok run)
    (startedAll : Run.start planAll source detector detectorName tracker output = .ok runAll)
    {pairs : List (Frame × Frame)}
    (mine : pairs.map Prod.fst = ((run.withLimit limit).deliveries clock).map Prod.fst)
    (theirs : pairs.map Prod.snd = ((runAll.withLimit limit).deliveries clockAll).map Prod.fst) :
    Beside plan.type before after all (course query plan before after output)
      (course { query with constraint := .isInstance plan.type } planAll [] all output)
      (Scene.of source detector detectorName plan.type.className)
      (Ground.start source plan.type.className tracker) pairs := by
  have shared := fun property member =>
    @mem_of_mem_all _ _ _ _ _ _ _ _ _ _ _ compiled compiledAll sameType property member
  obtain ⟨queryName, type, stages⟩ := planAll
  obtain rfl : type = plan.type := sameType
  have story := compiled.story wellFormed free fits started limit clock
  have storyAll := compiledAll.story wellFormed free fits startedAll limit clockAll
  rw [← mine] at story
  rw [← theirs] at storyAll
  exact
    { mine := story
      theirs := storyAll
      index := rfl
      unfiltered := fun pair member => by
        obtain ⟨place, here⟩ := List.mem_iff_getElem?.mp
          (List.mem_map_of_mem member : pair.2 ∈ pairs.map Prod.snd)
        exact (storyAll.tells place pair.2 here).passing_of_isInstance rfl rfl
      ascends := story.tells.ascending ascends
      shared := shared
      ignores := fun property member =>
        ignores property (compiled.declared (shared property member)) }

/-- The report on a delivered frame. -/
theorem reporter_of_delivered
    (compiled : Compiled query plan predicateNames outputNames before after)
    (wellFormed : plan.type.WellFormed)
    (free : ∀ property ∈ plan.type.properties, Field.isFixed property.name = false)
    (fits : (source.detectionCounts detector).sum < 2 ^ 64)
    (started : Run.start plan source detector detectorName tracker output = .ok run) {place : Nat}
    {frame : Frame} {report : Option FrameReport}
    (here : ((run.withLimit limit).deliveries clock)[place]? = some (frame, report)) :
    ∃ reporter : Reporter, reporter.spec = reportSpec query plan ∧ reporter.config = output ∧
      report = (reporter.apply frame).2 :=
  ((compiled.reaches started fits limit).delivers (compiled.ready wellFormed free)
    here).2

theorem selects
    (compiled : Compiled query plan predicateNames outputNames before after)
    (compiledAll : Compiled { query with constraint := .isInstance plan.type } planAll
      predicateNames' outputNames' [] all) (sameType : planAll.type = plan.type)
    (wellFormed : plan.type.WellFormed)
    (free : ∀ property ∈ plan.type.properties, Field.isFixed property.name = false)
    (ignores : ∀ property ∈ plan.type.properties, property.IgnoresSnapshot)
    (ascends : source.Ascends) (fits : (source.detectionCounts detector).sum < 2 ^ 64)
    (started : Run.start plan source detector detectorName tracker output = .ok run)
    (startedAll : Run.start planAll source detector detectorName tracker output = .ok runAll) :
    (run.withLimit limit).Selects (runAll.withLimit limit) plan clock clockAll := by
  intro place frame report here
  obtain ⟨pairs, mine, theirs, _⟩ := compiled.exists_paired compiledAll sameType wellFormed free fits
    started startedAll limit clock clockAll
  obtain ⟨⟨frameAll, reported⟩, hereAll, herePair⟩ := exists_getElem?_of_pairs mine theirs here
  have beside := compiled.beside compiledAll sameType wellFormed free ignores ascends fits started
    startedAll mine theirs
  obtain ⟨reporter, spec, config, told⟩ :=
    compiled.reporter_of_delivered wellFormed free fits started here
  have known : ∀ field ∈ reporter.spec.fields,
      Field.isFixed field = true ∨ ∃ property ∈ all, property.name = field := by
    rw [spec]
    exact fun field asked => compiledAll.fixed_or_mem_of_reported asked
  obtain ⟨queryName, type, stages⟩ := planAll
  obtain rfl : type = plan.type := sameType
  obtain ⟨reporterAll, specAll, configAll, rfl⟩ :=
    compiledAll.reporter_of_delivered wellFormed free fits startedAll hereAll
  have specs : reporterAll.spec = reporter.spec := specAll.trans spec.symm
  obtain ⟨reportAll, toldAll⟩ := beside.exists_report herePair specs (by rw [spec]; rfl)
    (by rw [spec]; rfl) (configAll.trans config.symm) told.symm
  obtain ⟨numbered, objects⟩ := Reporter.apply_eq_some told.symm
  obtain ⟨numberedAll, objectsAll⟩ := Reporter.apply_eq_some toldAll
  rw [spec] at objects
  rw [specAll] at objectsAll
  have sameId : frameAll.id = frame.id := by
    have ids := congrArg Frame.id (beside.twins (List.mem_of_getElem? herePair)).framed
    exact ids
  rw [compiled.projectedBeforeFilter_eq, ← mine]
  exact ⟨frameAll, reportAll, _, _, by rw [hereAll, toldAll], by rw [numbered, numberedAll, sameId],
    objects, objectsAll, beside.reportsSame herePair specs known⟩

end Plan.Compiled

/-- A run reports of the objects that its predicate chooses what the run on all objects reports of them,
as far as the predicate has no part in it. -/
theorem Run.selects_of_start
    {query : Query} {plan planAll : Plan} (compiled : Plan.compile query = .ok plan)
    (compiledAll : Plan.compile { query with constraint := .isInstance plan.type } = .ok planAll)
    (wellFormed : plan.type.WellFormed)
    (free : ∀ property ∈ plan.type.properties, Field.isFixed property.name = false)
    (ignores : ∀ property ∈ plan.type.properties, property.IgnoresSnapshot)
    {source : VideoSource} (ascends : source.Ascends) {detector : Detector}
    (fits : (source.detectionCounts detector).sum < 2 ^ 64) {detectorName : String}
    {tracker : TrackerConfig} {output : OutputConfig} {run : Run}
    (started : Run.start plan source detector detectorName tracker output = .ok run) (limit : Nat)
    (clock clockAll : Nat → Float) :
    ∃ runAll, Run.start planAll source detector detectorName tracker output = .ok runAll ∧
      (run.withLimit limit).Selects (runAll.withLimit limit) plan clock clockAll := by
  have sameType : planAll.type = plan.type :=
    (Except.ok.inj (Plan.singleType_of_compile compiledAll)).symm
  obtain ⟨predicateNames, outputNames, before, after, compiled⟩ :=
    Plan.compile_eq_ok compiled wellFormed
  obtain ⟨_, _, beforeAll, all, compiledAll⟩ :=
    Plan.compile_eq_ok compiledAll (sameType ▸ wellFormed)
  obtain rfl := compiledAll.before_of_isInstance
  obtain ⟨runAll, startedAll⟩ := compiledAll.exists_start (by rw [sameType]) started
  exact ⟨runAll, startedAll, compiled.selects compiledAll sameType wellFormed free ignores ascends fits
    started startedAll⟩

/-! ## People who pass by -/

namespace Passersby

/-- Whether somebody was there on the last frame as well. -/
def moved : Property := .declare "moved" [⟨Field.box, 1⟩] fun _ => .bool true

def person : ObjectType := .declare "Person" "person" [.property moved]

/-- Those who are detected with more than a score. -/
def surer (score : Float) : Query where
  name := "surer"
  constraint := .greater (.property ⟨person, Field.score⟩) (.literal (.float score))
  output := [⟨person, "moved"⟩]

def surerPlan (score : Float) : Plan where
  queryName := "surer"
  type := person
  stages :=
    [.classFilter "person" 0, .predicateFilter (surer score).constraint "person" 0,
      Plan.projection person moved, .report ⟨"Person", "person", 0, ["moved"]⟩]

def everyonePlan : Plan where
  queryName := "surer"
  type := person
  stages :=
    [.classFilter "person" 0, .predicateFilter (.isInstance person) "person" 0,
      Plan.projection person moved, .report ⟨"Person", "person", 0, ["moved"]⟩]

theorem compile_surer (score : Float) : Plan.compile (surer score) = .ok (surerPlan score) := by
  cbv

theorem compile_everyone (score : Float) :
    Plan.compile { surer score with constraint := .isInstance person } = .ok everyonePlan := by
  cbv

/-- A property under a name that the frame knows already. -/
def width : Property := .declare "frame_width" [] fun _ => .ofNat 1

/-- What is read under that name. -/
def share : Property :=
  .declare "share" [⟨"frame_width", 0⟩] fun inputs =>
    (inputs.current? "frame_width").getD .invalid

def shadower : ObjectType := .declare "Person" "person" [.property width, .property share]

def wide : Query where
  name := "wide"
  constraint := .equal (.property ⟨shadower, "frame_width"⟩) (.literal (.ofNat 1))
  output := [⟨shadower, "share"⟩]

def widePlan : Plan where
  queryName := "wide"
  type := shadower
  stages :=
    [.classFilter "person" 0, Plan.projection shadower width,
      .predicateFilter wide.constraint "person" 0, Plan.projection shadower share,
      .report ⟨"Person", "person", 0, ["share"]⟩]

def widthlessPlan : Plan where
  queryName := "wide"
  type := shadower
  stages :=
    [.classFilter "person" 0, .predicateFilter (.isInstance shadower) "person" 0,
      Plan.projection shadower share, .report ⟨"Person", "person", 0, ["share"]⟩]

def video : VideoSource := .blank ⟨10, 640, 480, 2⟩

/-- Somebody who comes a little farther, and is detected more surely on the second frame. -/
def detector : Detector :=
  .ofTable ["person"] fun frame =>
    [⟨⟨9 + frame.toFloat32, 100, 49 + frame.toFloat32, 200⟩,
      if frame = 1 then .ofScientific 8 true 1 else .ofScientific 9 true 1, 0⟩]

/-- What a run reports under a name, frame by frame. -/
def told (field : String) (run : Run) : List (Nat × List (Option String)) :=
  ((run.items fun _ => 0).1.filterMap Except.toOption).map fun report =>
    (report.frameId, report.objects.flatMap fun entry => entry.2.map fun object =>
      (Keyed.find? object field).map Json.compact)

/-- What a query reports under a name, and what is reported if its predicate lets everybody pass. -/
def Compares (query : Query) (type : ObjectType) (field : String)
    (mine all : List (Nat × List (Option String))) : Prop :=
  ∃ plan planAll run runAll, Plan.compile query = .ok plan ∧
    Plan.compile { query with constraint := .isInstance type } = .ok planAll ∧
      Run.start plan video detector "table" {} {} = .ok run ∧
        Run.start planAll video detector "table" {} {} = .ok runAll ∧
          told field run = mine ∧ told field runAll = all

theorem ignores {type : ObjectType} (known : type = person ∨ type = shadower) :
    ∀ property ∈ type.properties, property.IgnoresSnapshot := by
  rcases known with rfl | rfl <;> intro property member
  · rw [List.mem_singleton.mp member]
    exact fun _ _ => rfl
  · rcases List.mem_cons.mp member with rfl | later
    · exact fun _ _ => rfl
    · rw [List.mem_singleton.mp later]
      exact fun _ _ => rfl

theorem ascends : video.Ascends := by
  intro first second raw raw' sooner _ delivered delivered'
  rw [← Except.ok.inj delivered, ← Except.ok.inj delivered']
  exact Nat.succ_lt_succ sooner

/-- Somebody who has been turned away on the first frame is not said to have been there, and a name that
the frame knows already is read from the object only if the predicate has had it computed. -/
theorem predicate_changes_told :
    Compares (surer 0.85) person "moved" [(2, [none])] [(1, [none]), (2, [some "true"])] ∧
      Compares wide shadower "share" [(1, [some "1"]), (2, [some "1"])]
        [(1, [some "640"]), (2, [some "640"])] ∧
        ∀ type, type = person ∨ type = shadower →
          ∀ property ∈ type.properties, property.IgnoresSnapshot := by
  refine ⟨⟨surerPlan 0.85, everyonePlan, _, _, compile_surer 0.85, compile_everyone 0.85, rfl, rfl, ?_, ?_⟩,
    ⟨widePlan, widthlessPlan, _, _, by cbv, by cbv, rfl, rfl, ?_, ?_⟩, fun type known => ignores known⟩
  all_goals decide +kernel

end Passersby

open Passersby in
/-- Where nobody is turned away everything is told. -/
theorem Run.selects_of_start_surer :
    ∃ run, Run.start (surerPlan 0.5) video detector "table" {} {} = .ok run ∧
      told "moved" run = [(1, [none]), (2, [some "true"])] ∧
        ∃ runAll, Run.start everyonePlan video detector "table" {} {} = .ok runAll ∧
          (run.withLimit 0).Selects (runAll.withLimit 0) (surerPlan 0.5) (fun _ => 0) fun _ => 0 := by
  have fits : (video.detectionCounts detector).sum < 2 ^ 64 := by decide +kernel
  refine ⟨_, rfl, by decide +kernel, ?_⟩
  exact Run.selects_of_start (compile_surer 0.5) (compile_everyone 0.5) ⟨by decide, by decide⟩
    (by decide) (ignores (Or.inl rfl)) ascends fits rfl 0 _ _

end ObjectQuery
