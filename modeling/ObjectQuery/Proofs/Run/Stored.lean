import ObjectQuery.Proofs.Run.Lives
import ObjectQuery.Proofs.Run.Reported
import ObjectQuery.Proofs.Stage.Stored

/-!
# What is stored in a run

After every frame of a run each projector has rows of the tracks only that the tracker of the class has at
that moment, among the followed or the lost ones, however the run has come there: `Run.stores_held`. The
projector sees the frame and not the tracker, so that it depends on every track being on the frame or among
the lost ones.
-/

namespace ObjectQuery

/-- The tracker of a class at a stage. -/
def Stage.trackerFor? (className : String) : Stage → Option (Tracker Float32)
  | .track trackers => trackers.get? className
  | _ => none

/-- The tracker of a class. -/
def Pipeline.tracker? (pipeline : Pipeline) (className : String) : Option (Tracker Float32) :=
  pipeline.stages.findSome? (Stage.trackerFor? className)

theorem Pipeline.tracker?_of_ground {pipeline : Pipeline} {detection : DetectionStage}
    {tracker : Tracker Float32} {className : String} {index : Nat} {rest : List Stage}
    (stages : pipeline.stages = groundStages detection tracker className index ++ rest) :
    pipeline.tracker? className = some tracker := by
  unfold tracker?
  rw [stages, groundStages]
  simp only [List.cons_append, List.findSome?_cons, Stage.trackerFor?, ClassTrackers.get?,
    Keyed.find?, if_true]

namespace Scene

variable {scene : Scene} {ground later : Ground} {base final frame : Frame} {predicate : Predicate}
  {before after : List Projector} {bound : Nat} {pipeline : Pipeline}

/-- The projectors and the filter keep rows as they should. -/
theorem stored_derivedStages
    (stocks : ∀ projector ∈ before ++ after, projector.StocksUp scene.className bound)
    (ahead : bound ≤ base.id) {place : Nat}
    (through : (Stage.applyAll place (scene.derivedStages predicate before after) base).frame =
      .ok final) :
    ∃ beforeNext afterNext,
      (Stage.applyAll place (scene.derivedStages predicate before after) base).state =
          scene.derivedStages predicate beforeNext afterNext ∧ final.id = base.id ∧
        ∀ next ∈ beforeNext ++ afterNext, next.StocksUp scene.className (base.id + 1) ∧
          next.KeepsLive (fun track => base.isLive scene.className track) base.id := by
  obtain ⟨early, late⟩ := List.forall_mem_append.mp stocks
  unfold derivedStages at through ⊢
  obtain ⟨beforeNext, middle, placeMiddle, states, through, names, kept⟩ :=
    Stage.stored_applyAll early ahead through
  obtain ⟨filtered, applied, through⟩ := Stage.exists_applied through
  -- the filter changes neither the objects nor the lost tracks
  have same : filtered.NamesAs middle scene.className := by
    have applied : middle.keepSatisfying predicate scene.className scene.index = .ok filtered :=
      applied
    unfold Frame.keepSatisfying at applied
    split at applied
    · exact absurd applied (by simp)
    · obtain rfl := Except.ok.inj applied
      exact ⟨rfl, rfl⟩
  rw [← List.append_nil (after.map Stage.project)] at through
  obtain ⟨afterNext, last, placeLast, statesAfter, ended, namesAfter, keptAfter⟩ :=
    Stage.stored_applyAll late (same.id ▸ names.id ▸ ahead) through
  obtain rfl := Except.ok.inj ended
  rw [same.id, same.isLive, names.id, names.isLive] at keptAfter
  have nothing : (Stage.applyAll placeLast [] last).state = [] := rfl
  refine ⟨beforeNext, afterNext, ?_, ?_, List.forall_mem_append.mpr ⟨kept, keptAfter⟩⟩
  · rw [List.append_nil, nothing, List.append_nil] at statesAfter
    rw [states, Stage.state_applyAll_cons applied, statesAfter]
    rfl
  · rw [namesAfter.id, same.id, names.id]

namespace Reports

variable {report : TrackerReport Float32} {track : Nat}

theorem holdsTrack_iff (reports : scene.Reports ground later base report)
    (reached : ground.tracker.IsReached) :
    later.tracker.HoldsTrack track ↔
      track ∈ report.tracked.map TrackReport.id ++ report.lost.map TrackReport.id := by
  obtain ⟨id, observations, updated⟩ := reports.updated
  have held := @Tracker.IsReached.holdsTrack_iff _ _ _ _ _ _ reached id observations track
  rwa [updated] at held

/-- A track that the frame names is one that the tracker has. -/
theorem holdsTrack_of_isLive (reports : scene.Reports ground later base report)
    (reached : ground.tracker.IsReached) (live : base.isLive scene.className track) :
    later.tracker.HoldsTrack track := by
  refine (reports.holdsTrack_iff reached).mpr (List.mem_append.mpr ?_)
  rcases List.mem_append.mp (List.contains_iff_mem.mp live) with seen | lost
  · obtain ⟨record, present, named⟩ := List.mem_filterMap.mp seen
    exact .inl (reports.tracked record present track named)
  · exact .inr (reports.lost ▸ lost)

theorem not_holdsTrack_of_removed (reports : scene.Reports ground later base report)
    (reached : ground.tracker.IsReached) (removed : track ∈ report.removed) :
    ¬ later.tracker.HoldsTrack track := by
  intro held
  obtain ⟨id, observations, updated⟩ := reports.updated
  have givenUp := @Tracker.IsReached.givenUp _ _ _ _ _ _ reached id observations track
  rw [updated] at givenUp
  rcases List.mem_append.mp ((reports.holdsTrack_iff reached).mp held) with seen | lost
  · exact (givenUp removed).untracked seen
  · exact (givenUp removed).unsought lost

end Reports

/-- A pipeline that has stored rows of frames below a bound, with only later frames to come. -/
structure Stocked (scene : Scene) (ground : Ground) (bound : Nat) (pipeline : Pipeline) : Prop where
  pipeline : ∃ predicate before after, pipeline = scene.pipeline predicate ground before after ∧
    ∀ projector ∈ before ++ after, projector.StocksUp scene.className bound
  sound : scene.Sound ground
  ahead : ∀ position raw, ground.position ≤ position → position < scene.source.length →
    scene.source.frameAt position = .ok raw → bound ≤ raw.id

theorem exists_of_project_mem_pipeline {projector : Projector}
    (member : Stage.project projector ∈ (scene.pipeline predicate ground before after).stages) :
    projector ∈ before ++ after := by
  simp only [pipeline, groundStages, derivedStages, List.mem_append, List.mem_cons, List.mem_map,
    reduceCtorEq, List.not_mem_nil, or_false, false_or, Stage.project.injEq, exists_eq_right] at member
  exact List.mem_append.mpr member

theorem tracker?_pipeline :
    (scene.pipeline predicate ground before after).tracker? scene.className =
      some ground.tracker :=
  Pipeline.tracker?_of_ground rfl

end Scene

/-- The projectors of a pipeline have rows of the tracks only that the tracker of a class has. -/
def Pipeline.StoresHeld (pipeline : Pipeline) (className : String) (frame : Nat) : Prop :=
  ∃ tracker, pipeline.tracker? className = some tracker ∧
    ∀ projector, Stage.project projector ∈ pipeline.stages →
      projector.KeepsLive tracker.HoldsTrack frame

namespace Scene.Stocked

variable {scene : Scene} {ground : Ground} {frame : Frame} {bound : Nat} {pipeline : Pipeline}

/-- One frame. -/
theorem pull (stocked : scene.Stocked ground bound pipeline) (ascends : scene.source.Ascends)
    (pulled : pipeline.pull.frame = .ok frame) :
    ∃ later, scene.Stocked later (frame.id + 1) pipeline.pull.state ∧
      pipeline.pull.state.StoresHeld scene.className frame.id ∧
        ∀ track, pipeline.Removes scene.className track →
          ∀ projector, Stage.project projector ∈ pipeline.pull.state.stages →
            projector.history.rows.find? track = none := by
  obtain ⟨predicate, before, after, rfl, stocks⟩ := stocked.pipeline
  cases fromScene : scene.pull ground with
  | error error =>
      rw [pull_pipeline_error fromScene] at pulled
      exact absurd pulled (by simp)
  | ok result =>
      obtain ⟨later, base⟩ := result
      obtain ⟨raw, _, room, delivered, _, laterEq, baseEq⟩ := pull_eq_ok fromScene
      obtain ⟨report, reports⟩ := exists_reports stocked.sound fromScene
      have baseId : base.id = raw.id := by
        rw [baseEq]
        rfl
      rw [pull_pipeline_eq fromScene] at pulled ⊢
      obtain ⟨beforeNext, afterNext, states, id, kept⟩ := stored_derivedStages stocks
        (baseId ▸ stocked.ahead ground.position raw (Nat.le_refl _) room delivered) pulled
      have reached := stocked.sound.reached
      have held : ∀ projector ∈ beforeNext ++ afterNext,
          projector.KeepsLive later.tracker.HoldsTrack frame.id := fun projector member =>
        { (id ▸ (kept projector member).2) with
          live := fun entry stored =>
            reports.holdsTrack_of_isLive reached ((kept projector member).2.live entry stored) }
      rw [states]
      refine ⟨later, ⟨⟨predicate, beforeNext, afterNext, rfl, fun projector member =>
          id ▸ (kept projector member).1⟩, (sound_of_pull stocked.sound fromScene).1, ?_⟩,
        ⟨later.tracker, ?_, fun projector member => held projector (exists_of_project_mem_pipeline member)⟩,
        ?_⟩
      · intro position other late inside there
        rw [laterEq] at late
        rw [id, baseId]
        exact ascends ground.position position raw other late inside delivered there
      · exact tracker?_pipeline
      · intro track removed projector member
        cases found : projector.history.rows.find? track with
        | none => rfl
        | some rows =>
            have live := (held projector (exists_of_project_mem_pipeline member)).live _
              (Keyed.mem_of_find? found)
            exact absurd live (reports.not_holdsTrack_of_removed reached
              (reports.removed predicate before after track removed))

theorem later {first run : Run} (stocked : scene.Stocked ground bound first.pipeline)
    (ascends : scene.source.Ascends) (later : first.Later run) :
    ∃ ground bound, scene.Stocked ground bound run.pipeline := by
  induction later with
  | refl => exact ⟨ground, bound, stocked⟩
  | settle _ pulled seconds inductionHypothesis =>
      obtain ⟨_, _, now⟩ := inductionHypothesis
      obtain ⟨later, next, _⟩ := now.pull ascends pulled
      rw [← (Run.continues_settle pulled seconds).pipeline] at next
      exact ⟨later, _, next⟩

end Scene.Stocked

/-! ## Compiled queries -/

/-- A projector without any past has no rows of any frame. -/
theorem ObjectType.stocksUp_projectorOf (type : ObjectType) {property : Property}
    (own : property.name ≠ Field.trackId) :
    (type.projectorOf property).StocksUp type.className 0 where
  className := rfl
  own := own
  once := History.distinct_of_rows_eq_nil rfl
  capacity := Nat.max_self _
  unused _ := rfl
  ascending _ := List.Pairwise.nil
  before _ _ member := absurd member List.not_mem_nil

theorem Plan.Compiled.stocked
    {query : Query} {plan : Plan} {predicateNames outputNames : List String}
    {before after : List Property}
    (compiled : Compiled query plan predicateNames outputNames before after)
    (free : ∀ property ∈ plan.type.properties, Field.isBuiltin property.name = false)
    {source : VideoSource} {detector : Detector}
    (fits : (source.detectionCounts detector).sum < 2 ^ 64) {detectorName : String}
    {tracker : TrackerConfig} {output : OutputConfig} {run : Run}
    (started : Run.start plan source detector detectorName tracker output = .ok run) (limit : Nat) :
    (Scene.of source detector detectorName plan.type.className).Stocked
      (Ground.start source plan.type.className tracker) 0 (run.withLimit limit).pipeline := by
  have reaches := compiled.reaches started fits limit
  refine ⟨⟨query.constraint, _, _, reaches.pipeline, fun projector member => ?_⟩, reaches.sound,
    fun _ _ _ _ _ => Nat.zero_le _⟩
  rw [← List.map_append] at member
  obtain ⟨property, listed, rfl⟩ := List.mem_map.mp member
  refine plan.type.stocksUp_projectorOf fun same => ?_
  have unbuilt := free property (compiled.declared listed)
  rw [same] at unbuilt
  exact absurd unbuilt (by decide)

/-- After every frame of a run the projectors have rows of the tracks only that the tracker has, followed or
lost, no more of a track than their largest window, and none that is out of its reach. Of a track that is
given up on a frame nothing is left after it. -/
theorem Run.stores_held
    {query : Query} {plan : Plan} (compiled : Plan.compile query = .ok plan)
    (wellFormed : plan.type.WellFormed)
    (free : ∀ property ∈ plan.type.properties, Field.isBuiltin property.name = false)
    {source : VideoSource} (ascends : source.Ascends) {detector : Detector}
    (fits : (source.detectionCounts detector).sum < 2 ^ 64) {detectorName : String}
    {tracker : TrackerConfig} {output : OutputConfig} {first : Run}
    (started : Run.start plan source detector detectorName tracker output = .ok first) {limit : Nat}
    {run : Run} (later : (first.withLimit limit).Later run) {frame : Frame}
    (pulled : run.pipeline.pull.frame = .ok frame) (seconds : Float) :
    (run.settle run.pull seconds).pipeline.StoresHeld plan.type.className frame.id ∧
      ∀ track, run.pipeline.Removes plan.type.className track →
        ∀ projector, Stage.project projector ∈ (run.settle run.pull seconds).pipeline.stages →
          projector.history.rows.find? track = none := by
  obtain ⟨predicateNames, outputNames, before, after, compiled⟩ :=
    Plan.compile_eq_ok compiled wellFormed
  obtain ⟨ground, bound, stocked⟩ := (compiled.stocked free fits started limit).later ascends later
  obtain ⟨_, _, held, gone⟩ := stocked.pull ascends pulled
  rw [(Run.continues_settle pulled seconds).pipeline]
  exact ⟨held, gone⟩

namespace Returning

/-- A tracker that gives up whoever is not seen. -/
def impatient : TrackerConfig := { maxTimeLost := some 0 }

/-- The tracks with stored rows, and the frames of these. -/
def stored (run : Run) : List (Nat × List Nat) :=
  (run.pipeline.projector? "sightings").elim [] fun projector =>
    projector.history.rows.map fun entry => (entry.1, entry.2.map HistoryRow.frame)

theorem ascends : video.Ascends := by
  intro first second raw raw' sooner room delivered delivered'
  rw [counts first raw (Nat.lt_trans sooner room) delivered, counts second raw' room delivered']
  omega

theorem exists_stored :
    ∃ run, Run.start plan video detector "table" impatient {} = .ok run ∧
      told (run.withLimit 0) = some ([(some 1, some 1)], []) ∧
        stored (onward (run.withLimit 0)) = [(1, [1])] ∧
          told (onward (run.withLimit 0)) = some ([], []) ∧
            stored (onward (onward (run.withLimit 0))) = [] :=
  ⟨_, rfl, by decide +kernel, by decide +kernel, by decide +kernel, by decide +kernel⟩

end Returning

open Returning in
/-- Somebody who is given up as soon as he is hidden. -/
theorem Run.stores_held_impatient :
    ∃ first frame, Run.start plan video detector "table" impatient {} = .ok first ∧
      stored (onward (first.withLimit 0)) = [(1, [1])] ∧
        (onward (first.withLimit 0)).pipeline.pull.frame = .ok frame ∧
          (onward (onward (first.withLimit 0))).pipeline.StoresHeld "person" frame.id ∧
            ∀ track, (onward (first.withLimit 0)).pipeline.Removes "person" track →
              ∀ projector,
                Stage.project projector ∈ (onward (onward (first.withLimit 0))).pipeline.stages →
                  projector.history.rows.find? track = none := by
  have compiled : Plan.compile query = .ok plan := by cbv
  have fits : (video.detectionCounts detector).sum < 2 ^ 64 := by decide +kernel
  obtain ⟨first, started, begins, kept, hides, _⟩ := exists_stored
  obtain ⟨_, pulled⟩ := exists_frame begins
  have later := Run.Later.settle .refl pulled 0
  obtain ⟨frame, pulled⟩ := exists_frame hides
  exact ⟨first, frame, started, kept, pulled, Run.stores_held compiled ⟨by decide, by decide⟩ (by decide)
    ascends fits started later pulled 0⟩

end ObjectQuery
