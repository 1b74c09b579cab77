import ObjectQuery.Proofs.Run.Pipeline
import ObjectQuery.Proofs.Stage.Recall

/-!
# What a run delivers

`Run.deliveries` are the frames that come through all stages of a run, each with the report on it, and
`reports_items` says that these are the reports a run yields. `Course.Delivers` is what holds of each of
them: the frame is the one of the scene, and each projector has written onto it what it computes with the
rows it recalls of the frames before. `Reaches.step` keeps it from frame to frame.
-/

namespace ObjectQuery

namespace Run

/-! ## Frames and reports -/

/-- At most the given number of frames, each with its report if there is one. -/
def delivered (clock : Nat → Float) : Nat → Run → List (Frame × Option FrameReport)
  | 0, _ => []
  | count + 1, run =>
    if run.hasNext then
      match run.pipeline.pull.frame with
      | .ok frame =>
        (frame, (run.reporter.apply frame).2) ::
          delivered clock count (run.settle run.pull (clock run.framesProcessed))
      | .error _ => []
    else []

/-- The frames of a run, each with its report if there is one. -/
def deliveries (clock : Nat → Float) (run : Run) : List (Frame × Option FrameReport) :=
  run.delivered clock run.pipeline.playback.remaining

variable {run : Run} {clock : Nat → Float} {frame : Frame} {error : RunError}

/-- A run after a frame. -/
structure Continues (run next : Run) (frame : Frame) : Prop where
  pipeline : next.pipeline = run.pipeline.pull.state
  reporter : next.reporter = (run.reporter.apply frame).1
  framesProcessed : next.framesProcessed = run.framesProcessed + 1
  limit : next.limit = run.limit
  failed : next.failed = run.failed

theorem pull_of_ok (pulled : run.pipeline.pull.frame = .ok frame) :
    run.pull = ⟨run.pipeline.pull.state, (run.reporter.apply frame).1,
      .ok (run.reporter.apply frame).2, run.pipeline.pull.calls⟩ := by
  unfold pull
  simp only [pulled]

theorem pull_of_error (pulled : run.pipeline.pull.frame = .error error) :
    run.pull = ⟨run.pipeline.pull.state, run.reporter, .error error, run.pipeline.pull.calls⟩ := by
  unfold pull
  simp only [pulled]

theorem continues_settle (pulled : run.pipeline.pull.frame = .ok frame) (seconds : Float) :
    run.Continues (run.settle run.pull seconds) frame := by
  rw [pull_of_ok pulled]
  exact ⟨rfl, rfl, rfl, rfl, rfl⟩

theorem delivered_succ_of_ok
    (more : run.hasNext = true) (pulled : run.pipeline.pull.frame = .ok frame) (count : Nat) :
    run.delivered clock (count + 1) =
      (frame, (run.reporter.apply frame).2) ::
        (run.settle run.pull (clock run.framesProcessed)).delivered clock count := by
  rw [delivered, if_pos more, pulled]

theorem delivered_of_error (pulled : run.pipeline.pull.frame = .error error) (count : Nat) :
    run.delivered clock count = [] := by
  cases count with
  | zero => rfl
  | succ count =>
      rw [delivered, pulled]
      split <;> rfl

theorem delivered_of_end (ended : run.hasNext = false) (count : Nat) :
    run.delivered clock count = [] := by
  cases count with
  | zero => rfl
  | succ count => rw [delivered, if_neg (by simp [ended])]

/-- A delivered frame is one less that remains. -/
theorem remaining_of_pull {pipeline : Pipeline} (pulled : pipeline.pull.frame = .ok frame) :
    pipeline.pull.state.playback.remaining + 1 = pipeline.playback.remaining := by
  unfold Pipeline.pull at *
  cases outcome : pipeline.playback.pull with
  | mk playback delivered =>
      rw [outcome] at pulled
      cases delivered with
      | error error => exact absurd pulled (by simp)
      | ok raw => exact Playback.remaining_of_pull outcome

theorem remaining_pos (more : run.hasNext = true) : 0 < run.pipeline.playback.remaining := by
  have room := (Bool.and_eq_true_iff.mp more).2
  have here : run.pipeline.playback.position < run.pipeline.playback.stream.length :=
    of_decide_eq_true room
  unfold Playback.remaining
  omega

/-- More than the remaining frames are not delivered. -/
theorem delivered_eq_deliveries {count : Nat} (enough : run.pipeline.playback.remaining ≤ count) :
    run.delivered clock count = run.deliveries clock := by
  unfold deliveries
  generalize remainingEq : run.pipeline.playback.remaining = remaining at *
  induction remaining generalizing run count with
  | zero =>
      have ended : run.hasNext = false := by
        refine eq_false_of_ne_true fun more => ?_
        have left := remaining_pos more
        omega
      rw [delivered_of_end ended, delivered_of_end ended]
  | succ remaining inductionHypothesis =>
      obtain ⟨count, rfl⟩ : ∃ rest, count = rest + 1 := ⟨count - 1, by omega⟩
      by_cases more : run.hasNext = true
      · cases pulled : run.pipeline.pull.frame with
        | error error => rw [delivered_of_error pulled, delivered_of_error pulled]
        | ok frame =>
            have continued := continues_settle pulled (clock run.framesProcessed)
            have fewer := remaining_of_pull pulled
            rw [← continued.pipeline] at fewer
            rw [delivered_succ_of_ok more pulled, delivered_succ_of_ok more pulled,
              inductionHypothesis (by omega) (by omega)]
      · rw [delivered_of_end (eq_false_of_ne_true more), delivered_of_end (eq_false_of_ne_true more)]

theorem deliveries_of_ok
    (more : run.hasNext = true) (pulled : run.pipeline.pull.frame = .ok frame) :
    run.deliveries clock =
      (frame, (run.reporter.apply frame).2) ::
        (run.settle run.pull (clock run.framesProcessed)).deliveries clock := by
  have continued := continues_settle pulled (clock run.framesProcessed)
  have fewer := remaining_of_pull pulled
  rw [← continued.pipeline] at fewer
  rw [← delivered_eq_deliveries (Nat.le_refl _), ← fewer, delivered_succ_of_ok more pulled]
  rfl

/-! ## The items of a run -/

/-- The reports of a run. -/
def reports (clock : Nat → Float) (run : Run) : List FrameReport :=
  (run.deliveries clock).filterMap Prod.snd

theorem reports_of_end (ended : run.hasNext = false) : run.reports clock = [] := by
  rw [reports, deliveries, delivered_of_end ended, List.filterMap_nil]

/-- What is left of the reports after the next item. -/
def Follows (clock : Nat → Float) (run next : Run) : Option Item → Prop
  | some (.ok report) =>
    run.reports clock = report :: next.reports clock ∧
      next.pipeline.playback.remaining < run.pipeline.playback.remaining
  | some (.error _) => run.reports clock = [] ∧ next.hasNext = false
  | none => run.reports clock = []

/-- Frames without a report may be left out. -/
theorem Follows.skip
    {middle next : Run} {item : Option Item} (follows : Follows clock middle next item)
    (same : run.reports clock = middle.reports clock)
    (fewer : middle.pipeline.playback.remaining ≤ run.pipeline.playback.remaining) :
    Follows clock run next item := by
  match item with
  | some (.ok report) => exact ⟨same.trans follows.1, Nat.lt_of_lt_of_le follows.2 fewer⟩
  | some (.error error) => exact ⟨same.trans follows.1, follows.2⟩
  | none => exact same.trans follows

theorem follows_nextWithin
    {frames : Nat} (enough : run.pipeline.playback.remaining ≤ frames) :
    Follows clock run (run.nextWithin clock frames).run (run.nextWithin clock frames).item := by
  induction frames generalizing run with
  | zero =>
      refine reports_of_end (eq_false_of_ne_true fun more => ?_)
      have left := remaining_pos more
      omega
  | succ frames inductionHypothesis =>
      unfold nextWithin
      by_cases more : run.hasNext = true
      · rw [if_pos more]
        cases pulled : run.pipeline.pull.frame with
        | error error =>
            have nothing : run.reports clock = [] := by
              rw [reports, deliveries, delivered_of_error pulled, List.filterMap_nil]
            simp only [pull_of_error pulled]
            exact ⟨nothing, rfl⟩
        | ok frame =>
            have continued := continues_settle pulled (clock run.framesProcessed)
            have fewer := remaining_of_pull pulled
            rw [← continued.pipeline] at fewer
            have first : run.reports clock = (run.reporter.apply frame).2.toList ++
                (run.settle run.pull (clock run.framesProcessed)).reports clock := by
              rw [reports, deliveries_of_ok more pulled, List.filterMap_cons]
              cases (run.reporter.apply frame).2 <;> rfl
            have result : run.pull.result = .ok (run.reporter.apply frame).2 := by
              rw [pull_of_ok pulled]
            simp only [result]
            cases reported : (run.reporter.apply frame).2 with
            | some report =>
                rw [reported] at first
                exact ⟨first, by simp only; omega⟩
            | none =>
                rw [reported] at first
                have later := @inductionHypothesis
                  (run.settle run.pull (clock run.framesProcessed)) (by omega)
                exact later.skip first (by omega)
      · rw [if_neg more]
        exact reports_of_end (eq_false_of_ne_true more)

theorem itemsWithin_of_end (finished : run.hasNext = false) (count : Nat) :
    (run.itemsWithin clock count).1 = [] := by
  have ended : ∀ frames, run.nextWithin clock frames = ⟨run, none, []⟩ := by
    intro frames
    cases frames with
    | zero => rfl
    | succ frames => rw [nextWithin, if_neg (by simp [finished])]
  cases count with
  | zero => rfl
  | succ count => simp only [itemsWithin, next, ended]

theorem reports_itemsWithin
    {count : Nat} (enough : run.pipeline.playback.remaining < count) :
    (run.itemsWithin clock count).1.filterMap Except.toOption = run.reports clock := by
  induction count generalizing run with
  | zero => exact absurd enough (Nat.not_lt_zero _)
  | succ count inductionHypothesis =>
      have follows := @follows_nextWithin run clock _ (Nat.le_refl _)
      unfold itemsWithin next
      cases yielded : (run.nextWithin clock run.pipeline.playback.remaining).item with
      | none =>
          rw [yielded] at follows
          simp only [yielded]
          exact follows.symm
      | some item =>
          rw [yielded] at follows
          simp only [yielded]
          cases item with
          | ok report =>
              have later := @inductionHypothesis
                (run.nextWithin clock run.pipeline.playback.remaining).run
                (Nat.lt_of_lt_of_le follows.2 (Nat.le_of_lt_succ enough))
              rw [List.filterMap_cons, follows.1, ← later]
              rfl
          | error error =>
              rw [itemsWithin_of_end follows.2, follows.1]
              rfl

/-- The items of a run that are reports are those of its deliveries. -/
theorem reports_items (clock : Nat → Float) (run : Run) :
    (run.items clock).1.filterMap Except.toOption = run.reports clock :=
  reports_itemsWithin (Nat.lt_succ_self _)

end Run

/-- A reporter goes on reporting the same. -/
theorem Reporter.config_apply (reporter : Reporter) (frame : Frame) :
    (reporter.apply frame).1.spec = reporter.spec ∧
      (reporter.apply frame).1.config = reporter.config := by
  unfold Reporter.apply
  simp only [apply_ite Prod.fst]
  split <;> exact ⟨rfl, rfl⟩

/-! ## Lists side by side -/

section Related

variable {β γ δ : Type} {R : β → γ → Prop} {S : γ → δ → Prop}

theorem exists_of_forall₂
    {firsts : List β} {seconds : List γ} (related : List.Forall₂ R firsts seconds) {second : γ}
    (member : second ∈ seconds) :
    ∃ first ∈ firsts, R first second := by
  induction related with
  | nil => exact absurd member List.not_mem_nil
  | cons head _ inductionHypothesis =>
      rcases List.mem_cons.mp member with rfl | later
      · exact ⟨_, List.mem_cons_self, head⟩
      · obtain ⟨first, listed, holds⟩ := inductionHypothesis later
        exact ⟨first, List.mem_cons_of_mem _ listed, holds⟩

theorem forall₂_comp
    {firsts : List β} {seconds : List γ} {thirds : List δ}
    (related : List.Forall₂ R firsts seconds) (further : List.Forall₂ S seconds thirds) :
    List.Forall₂ (fun first third => ∃ second, R first second ∧ S second third) firsts thirds := by
  induction related generalizing thirds with
  | nil =>
      cases further
      exact List.Forall₂.nil
  | cons head _ inductionHypothesis =>
      cases further with
      | cons headFurther further =>
          exact List.Forall₂.cons ⟨_, head, headFurther⟩ (inductionHypothesis further)

end Related

/-! ## The frames of a scene -/

namespace Scene

/-- What is known after a number of frames. -/
def groundAt (scene : Scene) (origin : Ground) : Nat → Except RunError Ground
  | 0 => .ok origin
  | count + 1 =>
    match scene.groundAt origin count with
    | .ok ground => (scene.pull ground).map Prod.fst
    | .error error => .error error

/-- The frame after a number of frames, with nothing computed. -/
def baseAt (scene : Scene) (origin : Ground) (count : Nat) : Except RunError Frame :=
  match scene.groundAt origin count with
  | .ok ground => (scene.pull ground).map Prod.snd
  | .error error => .error error

end Scene

/-- What a query computes and reports. -/
structure Course where
  predicate : Predicate
  before : List Projector
  after : List Projector
  spec : ReportSpec
  output : OutputConfig

/-- The projector has written its property onto a frame with what it recalls of earlier ones. -/
def Projector.Wrote (start : Projector) (listing : Frame → List Nat) (earlier : List Frame)
    (frame : Frame) : Prop :=
  ∃ now next, start.Recalls now listing earlier ∧ now.Completed next (listing frame) frame

/-- A delivered frame. -/
structure Course.Delivers (course : Course) (scene : Scene) (origin : Ground)
    (earlier : List Frame) (frame : Frame) : Prop where
  base : ∃ base, scene.baseAt origin earlier.length = .ok base ∧ scene.IsBase base ∧
    Frame.Extends scene.className (namesOf (course.before ++ course.after)) base frame
  raw : ∃ raw, earlier.length < scene.source.length ∧
    scene.source.frameAt earlier.length = .ok raw ∧ frame.id = raw.id
  filtered : ∃ middle : Frame,
    scene.everything middle = scene.everything frame ∧
      (scene.passing frame = (scene.everything frame).filter fun position =>
        middle.satisfies course.predicate scene.className position) ∧
        Frame.Extends scene.className (namesOf course.after) middle frame
  early : ∀ projector ∈ course.before, projector.Wrote scene.everything earlier frame
  late : ∀ projector ∈ course.after, projector.Wrote scene.passing earlier frame

/-- A run after some frames. -/
structure Course.Reaches (course : Course) (scene : Scene) (origin : Ground) (earlier : List Frame)
    (run : Run) (ground : Ground) (before after : List Projector) : Prop where
  grounded : scene.groundAt origin earlier.length = .ok ground
  position : ground.position = earlier.length
  sound : scene.Sound ground
  pipeline : run.pipeline = scene.pipeline course.predicate ground before after
  early : List.Forall₂ (fun start now => start.Recalls now scene.everything earlier)
    course.before before
  late : List.Forall₂ (fun start now => start.Recalls now scene.passing earlier)
    course.after after
  spec : run.reporter.spec = course.spec
  output : run.reporter.config = course.output

namespace Course

variable {course : Course} {scene : Scene} {origin ground : Ground} {earlier : List Frame}
  {run : Run} {before after : List Projector}

theorem propertiesOf_alike
    {starts nows : List Projector} (alike : List.Forall₂ Projector.Alike starts nows) :
    propertiesOf nows = propertiesOf starts := by
  induction alike with
  | nil => rfl
  | cons head _ inductionHypothesis =>
      unfold propertiesOf at *
      rw [List.map_cons, List.map_cons, inductionHypothesis, head.property]

theorem namesOf_alike
    {starts nows : List Projector} (alike : List.Forall₂ Projector.Alike starts nows) :
    namesOf nows = namesOf starts := by
  have mapped := congrArg (List.map Property.name) (propertiesOf_alike alike)
  unfold propertiesOf at mapped
  rwa [List.map_map, List.map_map] at mapped

theorem ready_alike
    (ready : scene.Ready course.before course.after)
    (early : List.Forall₂ Projector.Alike course.before before)
    (late : List.Forall₂ Projector.Alike course.after after) :
    scene.Ready before after := by
  have alike := List.rel_append early late
  have source : ∀ now ∈ before ++ after, ∃ start ∈ course.before ++ course.after,
      start.Alike now := fun now member => exists_of_forall₂ alike member
  refine ⟨fun now member => ?_, ?_, ?_, fun now member => ?_⟩
  · obtain ⟨start, listed, alike⟩ := source now member
    rw [alike.className, alike.index]
    exact ready.placed start listed
  · rw [propertiesOf_alike alike]
    exact ready.ordered
  · rw [namesOf_alike alike]
    exact ready.free
  · obtain ⟨start, listed, alike⟩ := source now member
    exact alike.shape.distinct (ready.once start listed)

theorem Reaches.alike
    (reaches : course.Reaches scene origin earlier run ground before after) :
    List.Forall₂ Projector.Alike course.before before ∧
      List.Forall₂ Projector.Alike course.after after :=
  ⟨reaches.early.imp fun _ _ recalls => recalls.toAlike,
    reaches.late.imp fun _ _ recalls => recalls.toAlike⟩

/-- One frame of a run. -/
theorem Reaches.step
    (reaches : course.Reaches scene origin earlier run ground before after)
    (ready : scene.Ready course.before course.after) {later : Ground} {base : Frame}
    (pulled : scene.pull ground = .ok (later, base)) :
    ∃ frame, run.pipeline.pull.frame = .ok frame ∧
      course.Delivers scene origin earlier frame ∧
        ∀ next, run.Continues next frame → ∃ beforeNext afterNext,
          course.Reaches scene origin (earlier ++ [frame]) next later beforeNext afterNext := by
  obtain ⟨early, late⟩ := reaches.alike
  obtain ⟨beforeNext, afterNext, frame, calls, through, computed⟩ :=
    @Scene.pull_pipeline _ _ _ _ course.predicate _ _ (ready_alike ready early late)
      reaches.sound pulled
  obtain ⟨soundLater, isBase⟩ := Scene.sound_of_pull reaches.sound pulled
  obtain ⟨raw, detections, room, delivered, found, laterEq, baseEq⟩ := Scene.pull_eq_ok pulled
  have wroteEarly := forall₂_comp reaches.early computed.early
  have wroteLate := forall₂_comp reaches.late computed.late
  have names := namesOf_alike (List.rel_append early late)
  refine ⟨frame, by rw [reaches.pipeline, through], ?_, fun next continued => ?_⟩
  · refine
      { base := ⟨base, by simp [Scene.baseAt, reaches.grounded, pulled, Except.map], isBase,
          names ▸ computed.extended⟩
        raw := ⟨raw, reaches.position ▸ room, reaches.position ▸ delivered, by
          rw [computed.extended.framed, baseEq]; rfl⟩
        filtered := namesOf_alike late ▸ computed.filtered
        early := fun projector member => ?_
        late := fun projector member => ?_ }
    · obtain ⟨next, _, now, recalls, completed⟩ := exists_of_forall₂ wroteEarly.flip member
      exact ⟨now, next, recalls, completed⟩
    · obtain ⟨next, _, now, recalls, completed⟩ := exists_of_forall₂ wroteLate.flip member
      exact ⟨now, next, recalls, completed⟩
  · have pipelineNext := continued.pipeline
    rw [reaches.pipeline, through] at pipelineNext
    obtain ⟨specKept, outputKept⟩ := Reporter.config_apply run.reporter frame
    refine ⟨beforeNext, afterNext, ?_⟩
    exact
      { grounded := by
          rw [List.length_append, List.length_singleton]
          simp [Scene.groundAt, reaches.grounded, pulled, Except.map]
        position := by
          rw [laterEq, reaches.position, List.length_append, List.length_singleton]
        sound := soundLater
        pipeline := pipelineNext
        early := wroteEarly.imp fun _ _ ⟨_, recalls, completed⟩ => recalls.concat completed
        late := wroteLate.imp fun _ _ ⟨_, recalls, completed⟩ => recalls.concat completed
        spec := by rw [continued.reporter, specKept, reaches.spec]
        output := by rw [continued.reporter, outputKept, reaches.output] }

theorem Reaches.pull_error
    (reaches : course.Reaches scene origin earlier run ground before after) {error : RunError}
    (failed : scene.pull ground = .error error) :
    run.pipeline.pull.frame = .error error := by
  rw [reaches.pipeline]
  exact Scene.pull_pipeline_error failed

variable {clock : Nat → Float}

/-- Every frame that a run delivers, with those before it. -/
theorem Reaches.delivers
    (reaches : course.Reaches scene origin earlier run ground before after)
    (ready : scene.Ready course.before course.after) {count place : Nat} {frame : Frame}
    {report : Option FrameReport}
    (here : (run.delivered clock count)[place]? = some (frame, report)) :
    course.Delivers scene origin
        (earlier ++ ((run.delivered clock count).take place).map Prod.fst) frame ∧
      ∃ reporter : Reporter, reporter.spec = course.spec ∧ reporter.config = course.output ∧
        report = (reporter.apply frame).2 := by
  induction count generalizing run earlier ground before after place with
  | zero => exact absurd here (by simp [Run.delivered])
  | succ count inductionHypothesis =>
      cases more : run.hasNext with
      | false =>
          rw [Run.delivered_of_end more] at here
          exact absurd here (by simp)
      | true =>
          cases pulled : scene.pull ground with
          | error error =>
              rw [Run.delivered_of_error (reaches.pull_error pulled)] at here
              exact absurd here (by simp)
          | ok result =>
              obtain ⟨later, base⟩ := result
              obtain ⟨first, delivered, delivers, onward⟩ := reaches.step ready pulled
              obtain ⟨beforeNext, afterNext, reachesNext⟩ := onward _
                (Run.continues_settle delivered (clock run.framesProcessed))
              rw [Run.delivered_succ_of_ok more delivered] at here ⊢
              cases place with
              | zero =>
                  obtain ⟨rfl, rfl⟩ := Prod.mk.inj (Option.some.inj here)
                  rw [List.take_zero, List.map_nil, List.append_nil]
                  exact ⟨delivers, run.reporter, reaches.spec, reaches.output, rfl⟩
              | succ place =>
                  have later := inductionHypothesis reachesNext here
                  rwa [List.append_assoc] at later

/-- Frames one after another, as a run delivers them. -/
def Tells (course : Course) (scene : Scene) (origin : Ground) (frames : List Frame) : Prop :=
  ∀ place frame, frames[place]? = some frame →
    course.Delivers scene origin (frames.take place) frame

theorem Reaches.tells
    (reaches : course.Reaches scene origin [] run ground before after)
    (ready : scene.Ready course.before course.after) (clock : Nat → Float) :
    course.Tells scene origin ((run.deliveries clock).map Prod.fst) := by
  intro place frame here
  rw [List.getElem?_map] at here
  obtain ⟨⟨frame', report⟩, found, rfl⟩ := Option.map_eq_some_iff.mp here
  have delivers := (reaches.delivers ready found).1
  rwa [List.nil_append, List.map_take] at delivers

end Course

/-- The frames of a video are numbered one after another. -/
def VideoSource.CountsFrom (source : VideoSource) (first : Nat) : Prop :=
  ∀ position raw, position < source.length → source.frameAt position = .ok raw →
    raw.id = first + position

theorem Course.Tells.counted
    {course : Course} {scene : Scene} {origin : Ground} {frames : List Frame}
    (tells : course.Tells scene origin frames) {first : Nat}
    (counts : scene.source.CountsFrom first) :
    Projector.CountedFrom first frames := by
  refine List.ext_getElem? fun place => ?_
  rw [List.getElem?_map]
  cases here : frames[place]? with
  | none =>
      have beyond := List.getElem?_eq_none_iff.mp here
      rw [List.getElem?_eq_none (by rwa [List.length_range'])]
      rfl
  | some frame =>
      obtain ⟨room, _⟩ := List.getElem?_eq_some_iff.mp here
      obtain ⟨raw, inside, delivered, same⟩ := (tells place frame here).raw
      rw [List.length_take, Nat.min_eq_left (Nat.le_of_lt room)] at inside delivered
      rw [List.getElem?_range' room, Option.map_some, same, counts place raw inside delivered,
        one_mul]

/-! ## Compiled queries -/

namespace Plan.Compiled

variable {query : Query} {plan : Plan} {predicateNames outputNames : List String}
  {before after : List Property}

/-- What a compiled query computes and reports. -/
def course (query : Query) (plan : Plan) (before after : List Property) (output : OutputConfig) :
    Course where
  predicate := query.constraint
  before := before.map plan.type.projectorOf
  after := after.map plan.type.projectorOf
  spec := reportSpec query plan
  output := output

theorem reaches
    (compiled : Compiled query plan predicateNames outputNames before after)
    {source : VideoSource} {detector : Detector} {detectorName : String} {tracker : TrackerConfig}
    {output : OutputConfig} {run : Run}
    (started : Run.start plan source detector detectorName tracker output = .ok run)
    (fits : (source.detectionCounts detector).sum < 2 ^ 64) (limit : Nat) :
    (course query plan before after output).Reaches
      (Scene.of source detector detectorName plan.type.className)
      (Ground.start source plan.type.className tracker) [] (run.withLimit limit)
      (Ground.start source plan.type.className tracker)
      (before.map plan.type.projectorOf) (after.map plan.type.projectorOf) := by
  obtain ⟨pipeline, reporter, _⟩ := start_eq_ok compiled started
  have fresh : ∀ (listing : Frame → List Nat) (properties : List Property),
      List.Forall₂ (fun start now => start.Recalls now listing [])
        (properties.map plan.type.projectorOf) (properties.map plan.type.projectorOf) := by
    intro listing properties
    refine List.forall₂_same.mpr fun projector member => ?_
    obtain ⟨property, _, rfl⟩ := List.mem_map.mp member
    exact Projector.recalls_start _ (fun _ => rfl) listing
  exact
    { grounded := rfl
      position := rfl
      sound := ⟨Tracker.isReached_start .., by
        change 1 + ((source.detectionCounts detector).drop 0).sum ≤ 2 ^ 64
        rw [List.drop_zero]
        omega⟩
      pipeline := pipeline
      early := fresh _ before
      late := fresh _ after
      spec := by
        rw [Run.withLimit, reporter]
        rfl
      output := by
        rw [Run.withLimit, reporter]
        rfl }

end Plan.Compiled

end ObjectQuery
