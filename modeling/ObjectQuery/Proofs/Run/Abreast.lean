import ObjectQuery.Proofs.Related
import ObjectQuery.Proofs.Run.Paired
import ObjectQuery.Proofs.Run.Plays

/-!
# Runs that go along together

Where a run comes to its end, or fails, is a matter of the video, the detector and the limit, not of what
the query computes: `Abreast` is kept from frame to frame, so that two runs on one scene deliver equally
many frames (`Abreast.length_deliveries_eq`). Two compiled queries on one type are such runs, and their
frames can be told in pairs (`Plan.Compiled.exists_paired`).
-/

namespace ObjectQuery

/-- Two runs on one scene that have come equally far and can go equally far. -/
structure Abreast (course course' : Course) (scene : Scene) (origin : Ground) (run run' : Run) :
    Prop where
  reached : ∃ earlier earlier' ground before after before' after',
    course.Reaches scene origin earlier run ground before after ∧
      course'.Reaches scene origin earlier' run' ground before' after'
  limit : run'.limit = run.limit
  framesProcessed : run'.framesProcessed = run.framesProcessed
  failed : run'.failed = run.failed

namespace Abreast

variable {course course' : Course} {scene : Scene} {origin : Ground} {run run' : Run}
  {clock clock' : Nat → Float}

theorem playback_eq (abreast : Abreast course course' scene origin run run') :
    run'.pipeline.playback = run.pipeline.playback := by
  obtain ⟨_, _, _, _, _, _, _, reaches, reaches'⟩ := abreast.reached
  rw [reaches.pipeline, reaches'.pipeline]
  rfl

theorem hasNext_eq (abreast : Abreast course course' scene origin run run') :
    run'.hasNext = run.hasNext := by
  unfold Run.hasNext Run.limitReached Pipeline.hasNext
  rw [abreast.limit, abreast.framesProcessed, abreast.failed, abreast.playback_eq]

section Ready

variable (ready : scene.Ready course.before course.after)
  (ready' : scene.Ready course'.before course'.after)

include ready ready'

/-- The next frame comes in both runs, or it fails to come in both for the same reason. -/
theorem pull_cases (abreast : Abreast course course' scene origin run run') :
    (∃ error, run.pipeline.pull.frame = .error error ∧ run'.pipeline.pull.frame = .error error) ∨
      ∃ frame frame', run.pipeline.pull.frame = .ok frame ∧
        run'.pipeline.pull.frame = .ok frame' ∧ ∀ seconds seconds',
          Abreast course course' scene origin (run.settle run.pull seconds)
            (run'.settle run'.pull seconds') := by
  obtain ⟨_, _, ground, _, _, _, _, reaches, reaches'⟩ := abreast.reached
  cases pulled : scene.pull ground with
  | error error => exact Or.inl ⟨error, reaches.pull_error pulled, reaches'.pull_error pulled⟩
  | ok result =>
      obtain ⟨later, base⟩ := result
      obtain ⟨frame, delivered, _, onward⟩ := reaches.step ready pulled
      obtain ⟨frame', delivered', _, onward'⟩ := reaches'.step ready' pulled
      refine Or.inr ⟨frame, frame', delivered, delivered', fun seconds seconds' => ?_⟩
      have continued := Run.continues_settle delivered seconds
      have continued' := Run.continues_settle delivered' seconds'
      obtain ⟨_, _, next⟩ := onward _ continued
      obtain ⟨_, _, next'⟩ := onward' _ continued'
      exact
        { reached := ⟨_, _, later, _, _, _, _, next, next'⟩
          limit := by rw [continued.limit, continued'.limit, abreast.limit]
          framesProcessed := by
            rw [continued.framesProcessed, continued'.framesProcessed, abreast.framesProcessed]
          failed := by rw [continued.failed, continued'.failed, abreast.failed] }

theorem length_delivered_eq (abreast : Abreast course course' scene origin run run') (count : Nat) :
    (run.delivered clock count).length = (run'.delivered clock' count).length := by
  induction count generalizing run run' with
  | zero => rfl
  | succ count inductionHypothesis =>
      cases more : run.hasNext with
      | false =>
          rw [Run.delivered_of_end more, Run.delivered_of_end (abreast.hasNext_eq.trans more)]
      | true =>
          rcases abreast.pull_cases ready ready' with
            ⟨error, failed, failed'⟩ | ⟨frame, frame', pulled, pulled', onward⟩
          · rw [Run.delivered_of_error failed, Run.delivered_of_error failed']
          · rw [Run.delivered_succ_of_ok more pulled,
              Run.delivered_succ_of_ok (abreast.hasNext_eq.trans more) pulled', List.length_cons,
              List.length_cons, inductionHypothesis (onward _ _)]

/-- Both runs deliver the same number of frames. -/
theorem length_deliveries_eq (abreast : Abreast course course' scene origin run run')
    (clock clock' : Nat → Float) :
    (run.deliveries clock).length = (run'.deliveries clock').length := by
  unfold Run.deliveries
  rw [abreast.playback_eq]
  exact abreast.length_delivered_eq ready ready' _

end Ready

end Abreast

/-- What stands in one place of both lists is a pair. -/
theorem exists_getElem?_of_pairs {β γ δ : Type} {pairs : List (β × γ)} {firsts : List (β × δ)}
    {seconds : List (γ × δ)} (mine : pairs.map Prod.fst = firsts.map Prod.fst)
    (theirs : pairs.map Prod.snd = seconds.map Prod.fst) {place : Nat} {first : β × δ}
    (here : firsts[place]? = some first) :
    ∃ second, seconds[place]? = some second ∧ pairs[place]? = some (first.1, second.1) := by
  have firstHere : (pairs.map Prod.fst)[place]? = some first.1 := by
    rw [mine, getElem?_map_fst here]
  rw [List.getElem?_map] at firstHere
  obtain ⟨pair, found, same⟩ := Option.map_eq_some_iff.mp firstHere
  have secondHere : (seconds.map Prod.fst)[place]? = some pair.2 := by
    rw [← theirs, getElem?_map_snd found]
  rw [List.getElem?_map] at secondHere
  obtain ⟨second, there, same'⟩ := Option.map_eq_some_iff.mp secondHere
  exact ⟨second, there, by rw [found, ← same, same']⟩

/-! ## Two compiled queries on one type -/

namespace Plan.Compiled

variable {query query' : Query} {plan plan' : Plan} {predicateNames outputNames : List String}
  {predicateNames' outputNames' : List String} {before after before' after' : List Property}
  {source : VideoSource} {detector : Detector} {detectorName : String} {tracker : TrackerConfig}
  {output output' : OutputConfig} {run run' : Run}

theorem abreast
    (compiled : Compiled query plan predicateNames outputNames before after)
    (compiled' : Compiled query' plan' predicateNames' outputNames' before' after')
    (sameType : plan'.type = plan.type) (fits : (source.detectionCounts detector).sum < 2 ^ 64)
    (started : Run.start plan source detector detectorName tracker output = .ok run)
    (started' : Run.start plan' source detector detectorName tracker output' = .ok run')
    (limit : Nat) :
    Abreast (course query plan before after output) (course query' plan' before' after' output')
      (Scene.of source detector detectorName plan.type.className)
      (Ground.start source plan.type.className tracker) (run.withLimit limit)
      (run'.withLimit limit) := by
  obtain ⟨queryName, type, stages⟩ := plan'
  obtain rfl : type = plan.type := sameType
  obtain ⟨_, _, processed, _, failed⟩ := start_eq_ok compiled started
  obtain ⟨_, _, processed', _, failed'⟩ := start_eq_ok compiled' started'
  exact
    { reached := ⟨_, _, _, _, _, _, _, compiled.reaches started fits limit,
        compiled'.reaches started' fits limit⟩
      limit := rfl
      framesProcessed := processed'.trans processed.symm
      failed := failed'.trans failed.symm }

/-- The frames that two runs deliver, in pairs. -/
theorem exists_paired
    (compiled : Compiled query plan predicateNames outputNames before after)
    (compiled' : Compiled query' plan' predicateNames' outputNames' before' after')
    (sameType : plan'.type = plan.type) (wellFormed : plan.type.WellFormed)
    (free : ∀ property ∈ plan.type.properties, Field.isFixed property.name = false)
    (fits : (source.detectionCounts detector).sum < 2 ^ 64)
    (started : Run.start plan source detector detectorName tracker output = .ok run)
    (started' : Run.start plan' source detector detectorName tracker output' = .ok run')
    (limit : Nat) (clock clock' : Nat → Float) :
    ∃ pairs : List (Frame × Frame),
      pairs.map Prod.fst = ((run.withLimit limit).deliveries clock).map Prod.fst ∧
        pairs.map Prod.snd = ((run'.withLimit limit).deliveries clock').map Prod.fst ∧
          Paired plan.type before after before' after' (course query plan before after output)
            (course query' plan' before' after' output')
            (Scene.of source detector detectorName plan.type.className)
            (Ground.start source plan.type.className tracker) pairs := by
  have abreast := compiled.abreast compiled' sameType fits started started' limit
  obtain ⟨queryName, type, stages⟩ := plan'
  obtain rfl : type = plan.type := sameType
  have lengths := abreast.length_deliveries_eq (compiled.ready wellFormed free)
    (compiled'.ready wellFormed free) clock clock'
  obtain ⟨pairs, mine, theirs⟩ : ∃ pairs : List (Frame × Frame),
      pairs.map Prod.fst = ((run.withLimit limit).deliveries clock).map Prod.fst ∧
        pairs.map Prod.snd = ((run'.withLimit limit).deliveries clock').map Prod.fst :=
    exists_pairs (by rw [List.length_map, List.length_map, lengths])
  refine ⟨pairs, mine, theirs, ?_, ?_⟩
  · rw [mine]
    exact compiled.story wellFormed free fits started limit clock
  · rw [theirs]
    exact compiled'.story wellFormed free fits started' limit clock'

/-- A query leaves those objects that satisfy its predicate on the frames of any run that computes before
its filter what this one does. -/
theorem left_eq_satisfying
    (compiled : Compiled query plan predicateNames outputNames before after)
    (free : ∀ property ∈ plan.type.properties, Field.isFixed property.name = false)
    (ignores : ∀ property ∈ plan.type.properties, property.IgnoresSnapshot) {course' : Course}
    {origin : Ground} {pairs : List (Frame × Frame)}
    (paired : Paired plan.type before after before' after' (course query plan before after output)
      course' (Scene.of source detector detectorName plan.type.className) origin pairs)
    (early : ∀ property ∈ before, property ∈ before') {pair : Frame × Frame}
    (member : pair ∈ pairs) :
    pair.1.left plan.type.className =
      (Scene.of source detector detectorName plan.type.className).satisfying query.constraint
        pair.2 := by
  have common := paired.inCommon_before early fun property listed =>
    ignores property (compiled.declared (List.mem_append_left _ listed))
  have passing := paired.mine.passing_eq_satisfying (compiled.unwritten free output)
    (List.mem_map_of_mem member)
  exact passing.trans (paired.satisfying_eq common (fun _ listed => List.mem_append_left _ listed)
    member fun reference read => compiled.fixed_or_mem_of_read read).symm

end Plan.Compiled

end ObjectQuery
