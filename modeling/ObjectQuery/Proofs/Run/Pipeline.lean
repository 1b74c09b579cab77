import Mathlib.Data.List.Forall2
import ObjectQuery.Proofs.Plan.Compile
import ObjectQuery.Proofs.Run.Ground

/-!
# The pipeline of a compiled query

Before a frame comes to the first projector it has been through the same three stages whatever the query
computes: `Scene.pull` is what they make of it. `Scene.pull_pipeline` says what the projectors and the
filter add to that, and `Plan.Compiled.start_eq_ok` that a compiled query is started with such a pipeline.
-/

namespace ObjectQuery

/-! ## Before the projectors -/

/-- What the stages before the projectors know from the beginning. -/
structure Scene where
  source : VideoSource
  detection : DetectionStage
  className : String
  index : Nat
  only : detection.classNames = [className]

/-- What they have learnt from the frames so far. -/
structure Ground where
  position : Nat
  tracker : Tracker Float32

/-- How many objects a detector finds on each frame of a video. -/
def VideoSource.detectionCounts (source : VideoSource) (detector : Detector) : List Nat :=
  (List.range source.length).map fun position =>
    match source.frameAt position with
    | .ok raw =>
      match detector.infer raw.id raw.picture with
      | .ok detections => detections.length
      | .error _ => 0
    | .error _ => 0

namespace Playback

variable {source : VideoSource} {position : Nat}

theorem pull_delivered
    (room : position < source.length) {raw : RawFrame}
    (delivered : source.frameAt position = .ok raw) :
    pull ⟨.ofVideo source, position⟩ =
      (⟨.ofVideo source, position + 1⟩, .ok (.ofRaw raw source.metadata)) := by
  simp [pull, hasNext, FrameStream.ofVideo, room, delivered]

theorem pull_refused
    (room : position < source.length) {error : ServiceError}
    (refused : source.frameAt position = .error error) :
    pull ⟨.ofVideo source, position⟩ = (⟨.ofVideo source, position⟩, .error (.service error)) := by
  simp [pull, hasNext, FrameStream.ofVideo, room, refused]

theorem pull_exhausted (full : ¬ position < source.length) :
    pull ⟨.ofVideo source, position⟩ = (⟨.ofVideo source, position⟩, .error .exhausted) := by
  simp [pull, hasNext, FrameStream.ofVideo, full]

end Playback

namespace Pipeline

variable {pipeline : Pipeline} {source : VideoSource}

theorem position_lt_of_hasNext (stream : pipeline.playback.stream = .ofVideo source)
    (more : pipeline.hasNext = true) : pipeline.playback.position < source.length := by
  have room : pipeline.playback.position < pipeline.playback.stream.length := of_decide_eq_true more
  rwa [stream] at room

/-- A frame that the video delivers goes through the stages. -/
theorem pull_of_delivered
    (stream : pipeline.playback.stream = .ofVideo source)
    (room : pipeline.playback.position < source.length) {raw : RawFrame}
    (delivered : source.frameAt pipeline.playback.position = .ok raw) :
    let passage := Stage.applyAll 0 pipeline.stages (.ofRaw raw source.metadata)
    pipeline.pull =
      ⟨⟨⟨.ofVideo source, pipeline.playback.position + 1⟩, passage.state⟩, passage.frame,
        passage.calls⟩ := by
  obtain ⟨⟨_, position⟩, stages⟩ := pipeline
  obtain rfl : _ = FrameStream.ofVideo source := stream
  rw [Pipeline.pull, Playback.pull_delivered room delivered]

/-- A frame that the video fails to deliver stays the next one. -/
theorem pull_of_refused
    (stream : pipeline.playback.stream = .ofVideo source)
    (room : pipeline.playback.position < source.length) {error : ServiceError}
    (refused : source.frameAt pipeline.playback.position = .error error) :
    pipeline.pull = ⟨pipeline, .error (.service error), []⟩ := by
  obtain ⟨⟨_, position⟩, stages⟩ := pipeline
  obtain rfl : _ = FrameStream.ofVideo source := stream
  rw [Pipeline.pull, Playback.pull_refused room refused]

end Pipeline

namespace Scene

variable {scene : Scene} {ground later : Ground} {base : Frame}

/-- The next frame with its objects and their tracks, all of them listed. -/
def pull (scene : Scene) (ground : Ground) : Except RunError (Ground × Frame) :=
  if ground.position < scene.source.length then
    match scene.source.frameAt ground.position with
    | .error error => .error (.service error)
    | .ok raw =>
      match scene.detection.detector.infer raw.id raw.picture with
      | .error error => .error (.service error)
      | .ok detections =>
        let records := scene.detection.recordsFor detections scene.className
        let updated := ground.tracker.update raw.id (records.map ObjectRecord.observation)
        .ok (⟨ground.position + 1, updated.1⟩,
          groundFrame raw scene.source.metadata scene.className scene.index records updated.2)
  else .error .exhausted

/-- Track numbers are told apart now and until the video ends. -/
structure Sound (scene : Scene) (ground : Ground) : Prop where
  reached : ground.tracker.IsReached
  fits : ground.tracker.nextId +
    ((scene.source.detectionCounts scene.detection.detector).drop ground.position).sum ≤ 2 ^ 64

/-- A frame on which nothing has been computed. -/
structure IsBase (scene : Scene) (frame : Frame) : Prop where
  distinct : DistinctTracks (frame.recordsOf scene.className)
  fresh : ∀ name, Field.isBuiltin name = false →
    ∀ record ∈ frame.recordsOf scene.className, record.get? name = none
  listed : frame.positions? scene.index scene.className =
    some (List.range (frame.recordsOf scene.className).length)

theorem pull_eq_ok (pulled : scene.pull ground = .ok (later, base)) :
    ∃ raw detections,
      ground.position < scene.source.length ∧
        scene.source.frameAt ground.position = .ok raw ∧
          scene.detection.detector.infer raw.id raw.picture = .ok detections ∧
            let records := scene.detection.recordsFor detections scene.className
            let updated := ground.tracker.update raw.id (records.map ObjectRecord.observation)
            later = ⟨ground.position + 1, updated.1⟩ ∧
              base = groundFrame raw scene.source.metadata scene.className scene.index records
                updated.2 := by
  unfold pull at pulled
  split at pulled
  · rename_i room
    split at pulled
    · exact absurd pulled (by simp)
    · rename_i raw delivered
      split at pulled
      · exact absurd pulled (by simp)
      · rename_i detections found
        obtain ⟨laterEq, baseEq⟩ := Prod.mk.inj (Except.ok.inj pulled)
        exact ⟨raw, detections, room, delivered, found, laterEq.symm, baseEq.symm⟩
  · exact absurd pulled (by simp)

/-- The objects of one frame are no more than are counted for it. -/
theorem length_le_of_infer
    {raw : RawFrame} {detections : List Detection} (room : ground.position < scene.source.length)
    (delivered : scene.source.frameAt ground.position = .ok raw)
    (found : scene.detection.detector.infer raw.id raw.picture = .ok detections) :
    let counts := scene.source.detectionCounts scene.detection.detector
    (scene.detection.recordsFor detections scene.className).length +
      (counts.drop (ground.position + 1)).sum ≤ (counts.drop ground.position).sum := by
  intro counts
  have long : ground.position < counts.length := by
    simpa [counts, VideoSource.detectionCounts] using room
  have count : counts[ground.position] = detections.length := by
    simp [counts, VideoSource.detectionCounts, delivered, found]
  have fewer : (scene.detection.recordsFor detections scene.className).length ≤
      detections.length := by
    unfold DetectionStage.recordsFor
    rw [List.length_map]
    exact List.length_filter_le ..
  rw [List.drop_eq_getElem_cons long, List.sum_cons, count]
  omega

theorem sound_of_pull (sound : scene.Sound ground) (pulled : scene.pull ground = .ok (later, base)) :
    scene.Sound later ∧ scene.IsBase base := by
  obtain ⟨raw, detections, room, delivered, found, rfl, rfl⟩ := pull_eq_ok pulled
  obtain ⟨reached, numbers, growth⟩ := sound.reached.update raw.id
    ((scene.detection.recordsFor detections scene.className).map ObjectRecord.observation)
  have counted := length_le_of_infer room delivered found
  have fits := sound.fits
  rw [List.length_map] at growth
  refine ⟨⟨reached, by simp only; omega⟩, ?_, ?_, ?_⟩
  · exact distinct_groundFrame _ _ _ numbers (by omega)
  · intro name computed record member
    exact fresh_groundFrame _ _ _ _ computed member
  · rw [positions_groundFrame, length_recordsOf_groundFrame]

/-! ## After them -/

variable {predicate : Predicate} {before after : List Projector}

/-- The positions of all objects. -/
def everything (scene : Scene) (frame : Frame) : List Nat :=
  List.range (frame.recordsOf scene.className).length

/-- The positions of the objects that are left. -/
def passing (scene : Scene) (frame : Frame) : List Nat :=
  (frame.positions? scene.index scene.className).getD []

/-- The projectors before and after the predicate filter, and the filter. -/
def derivedStages (scene : Scene) (predicate : Predicate) (before after : List Projector) :
    List Stage :=
  before.map Stage.project ++
    (.keep predicate scene.className scene.index :: after.map Stage.project)

def pipeline (scene : Scene) (predicate : Predicate) (ground : Ground)
    (before after : List Projector) : Pipeline where
  playback := ⟨.ofVideo scene.source, ground.position⟩
  stages := groundStages scene.detection ground.tracker scene.className scene.index ++
    scene.derivedStages predicate before after

/-- Projectors that a pipeline can have before and after its filter. -/
structure Ready (scene : Scene) (before after : List Projector) : Prop where
  placed : ∀ projector ∈ before ++ after,
    projector.className = scene.className ∧ projector.index = scene.index
  ordered : (propertiesOf (before ++ after)).Pairwise Property.Precedes
  free : ∀ name ∈ namesOf (before ++ after), Field.isFixed name = false
  once : ∀ projector ∈ before ++ after, projector.history.Distinct

/-- What the stages after the class filter have made of a frame. -/
structure Computed (scene : Scene) (predicate : Predicate)
    (before after beforeNext afterNext : List Projector) (base final : Frame) : Prop where
  extended : Frame.Extends scene.className (namesOf (before ++ after)) base final
  filtered : ∃ middle : Frame,
    scene.everything middle = scene.everything final ∧
      (scene.passing final = (scene.everything final).filter fun position =>
        middle.satisfies predicate scene.className position) ∧
        Frame.Extends scene.className (namesOf after) middle final
  early : List.Forall₂ (fun projector next =>
    projector.Completed next (scene.everything final) final) before beforeNext
  late : List.Forall₂ (fun projector next =>
    projector.Completed next (scene.passing final) final) after afterNext

theorem everything_extends
    {names : List String} {final : Frame}
    (extended : Frame.Extends scene.className names base final) :
    scene.everything final = scene.everything base := by
  unfold everything
  rw [extended.length]

theorem isBuiltin_of_free {name : String} (free : Field.isFixed name = false) :
    Field.isBuiltin name = false :=
  (Bool.or_eq_false_iff.mp free).1

namespace Ready

theorem freeBefore (ready : scene.Ready before after) :
    ∀ name ∈ namesOf before, Field.isFixed name = false := by
  intro name member
  exact ready.free name (by simpa [namesOf] using Or.inl (List.mem_map.mp member))

theorem freeAfter (ready : scene.Ready before after) :
    ∀ name ∈ namesOf after, Field.isFixed name = false := by
  intro name member
  exact ready.free name (by simpa [namesOf] using Or.inr (List.mem_map.mp member))

theorem pairwise (ready : scene.Ready before after) :
    (propertiesOf before).Pairwise Property.Precedes ∧
      (propertiesOf after).Pairwise Property.Precedes ∧
        ∀ first ∈ before, ∀ second ∈ after, first.property.Precedes second.property := by
  have ordered := ready.ordered
  rw [propertiesOf, List.map_append] at ordered
  obtain ⟨early, late, apart⟩ := List.pairwise_append.mp ordered
  exact ⟨early, late, fun first firstMember second secondMember =>
    apart _ (List.mem_map_of_mem firstMember) _ (List.mem_map_of_mem secondMember)⟩

/-- No name is computed before and after the filter. -/
theorem apart (ready : scene.Ready before after) {name : String} (late : name ∈ namesOf after) :
    name ∉ namesOf before := by
  intro early
  obtain ⟨first, firstMember, firstNamed⟩ := List.mem_map.mp early
  obtain ⟨second, secondMember, secondNamed⟩ := List.mem_map.mp late
  exact (ready.pairwise.2.2 first firstMember second secondMember).1
    (firstNamed.trans secondNamed.symm)

/-- After the filter nothing is written that a projector before it writes or reads. -/
theorem unwritten (ready : scene.Ready before after) {projector : Projector}
    (member : projector ∈ before) :
    projector.property.name ∉ namesOf after ∧
      ∀ dependency ∈ projector.property.dependencies, dependency.name ∉ namesOf after := by
  have precedes := ready.pairwise.2.2 projector member
  refine ⟨fun late => ready.apart late (List.mem_map_of_mem member), fun dependency read late => ?_⟩
  obtain ⟨other, otherMember, named⟩ := List.mem_map.mp late
  exact (precedes other otherMember).2 dependency read named.symm

theorem appliableBefore (ready : scene.Ready before after) (isBase : scene.IsBase base) :
    Appliable scene.className scene.index (scene.everything base) before base where
  placed projector member := ready.placed projector (List.mem_append_left after member)
  ordered := ready.pairwise.1
  free := ready.freeBefore
  once projector member := ready.once projector (List.mem_append_left after member)
  fresh name member := isBase.fresh name (isBuiltin_of_free (ready.freeBefore name member))
  found := isBase.listed
  listedOnce := List.nodup_range
  distinct := isBase.distinct

theorem appliableAfter
    (ready : scene.Ready before after) (isBase : scene.IsBase base) {written : Frame}
    (extended : Frame.Extends scene.className (namesOf before) base written)
    {positions : List Nat} (listedOnce : positions.Nodup)
    (found : written.positions? scene.index scene.className = some positions) :
    Appliable scene.className scene.index positions after written where
  placed projector member := ready.placed projector (List.mem_append_right before member)
  ordered := ready.pairwise.2.1
  free := ready.freeAfter
  once projector member := ready.once projector (List.mem_append_right before member)
  fresh name member record present := by
    obtain ⟨position, newHere⟩ := List.mem_iff_getElem?.mp present
    obtain ⟨old, oldHere⟩ := extended.exists_old newHere
    rw [extended.fields position old record oldHere newHere name (ready.apart member)]
    exact isBase.fresh name (isBuiltin_of_free (ready.freeAfter name member)) old
      (List.mem_of_getElem? oldHere)
  found := found
  listedOnce := listedOnce
  distinct := extended.distinctTracks ready.freeBefore isBase.distinct

end Ready

/-! ## One frame -/

theorem extends_setPositions (frame : Frame) (className : String) (index : Nat)
    (other : String) (positions : List Nat) :
    Frame.Extends className [] frame (frame.setPositions index other positions) where
  framed := rfl
  length := rfl
  fields _ _ _ oldHere newHere _ _ := by
    rw [Option.some.inj (oldHere.symm.trans newHere)]

theorem positions_setPositions (frame : Frame) (className : String) (index : Nat)
    (positions : List Nat) :
    (frame.setPositions index className positions).positions? index className = some positions := by
  simp [Frame.setPositions, Frame.positions?, Keyed.find?_put]

/-- The positions of the objects that satisfy a predicate. -/
def satisfying (scene : Scene) (predicate : Predicate) (frame : Frame) : List Nat :=
  (scene.everything frame).filter fun position =>
    frame.satisfies predicate scene.className position

/-- A frame on which only the objects are left that satisfy a predicate. -/
def filteredBy (scene : Scene) (predicate : Predicate) (frame : Frame) : Frame :=
  frame.setPositions scene.index scene.className (scene.satisfying predicate frame)

theorem keepSatisfying_eq
    {middle : Frame}
    (listed : middle.positions? scene.index scene.className = some (scene.everything middle)) :
    middle.keepSatisfying predicate scene.className scene.index =
      .ok (scene.filteredBy predicate middle) := by
  unfold Frame.keepSatisfying
  rw [listed]
  rfl

theorem extends_filteredBy (scene : Scene) (predicate : Predicate) (middle : Frame) :
    Frame.Extends scene.className [] middle (scene.filteredBy predicate middle) :=
  extends_setPositions middle scene.className scene.index scene.className _

/-- After the filter the second projectors can be applied. -/
theorem Ready.appliableFiltered
    (ready : scene.Ready before after) (isBase : scene.IsBase base) {middle : Frame}
    (extended : Frame.Extends scene.className (namesOf before) base middle)
    (predicate : Predicate) :
    Appliable scene.className scene.index (scene.satisfying predicate middle) after
      (scene.filteredBy predicate middle) := by
  have widened := extended.trans (extends_filteredBy scene predicate middle)
  rw [List.append_nil] at widened
  exact ready.appliableAfter isBase widened (List.nodup_range.filter _)
    (positions_setPositions middle scene.className scene.index _)

/-- The projectors before the filter leave all objects listed. -/
theorem listed_of_framed
    (isBase : scene.IsBase base) {middle : Frame}
    (framed : middle = { base with records := middle.records })
    (extended : Frame.Extends scene.className (namesOf before) base middle) :
    middle.positions? scene.index scene.className = some (scene.everything middle) := by
  rw [everything_extends extended, framed]
  exact isBase.listed

theorem applyAll_derivedStages
    (ready : scene.Ready before after) (isBase : scene.IsBase base) :
    ∃ beforeNext afterNext final calls,
      Stage.applyAll 3 (scene.derivedStages predicate before after) base =
          ⟨scene.derivedStages predicate beforeNext afterNext, .ok final, calls⟩ ∧
        scene.Computed predicate before after beforeNext afterNext base final := by
  obtain ⟨beforeNext, middle, applied, framed, extended, completed⟩ :=
    applyAll_projectors (ready.appliableBefore isBase) 3
  have filteredEq := @keepSatisfying_eq scene predicate middle
    (listed_of_framed isBase framed extended)
  obtain ⟨afterNext, final, appliedAfter, framedAfter, extendedAfter, completedAfter⟩ :=
    applyAll_projectors (ready.appliableFiltered isBase extended predicate)
      (3 + before.length + 1)
  obtain ⟨callsAfter, allAfter⟩ := appliedAfter []
  obtain ⟨calls, all⟩ := applied (.keep predicate scene.className scene.index ::
    after.map Stage.project)
  have laterFrame := (extends_filteredBy scene predicate middle).trans extendedAfter
  have whole : Frame.Extends scene.className (namesOf (before ++ after)) base final := by
    rw [namesOf, List.map_append]
    exact extended.trans laterFrame
  have left : scene.passing final = scene.satisfying predicate middle := by
    unfold passing
    rw [framedAfter]
    exact congrArg (fun positions => positions.getD [])
      (positions_setPositions middle scene.className scene.index _)
  have through : Stage.applyAll 3 (scene.derivedStages predicate before after) base =
      ⟨scene.derivedStages predicate beforeNext afterNext, .ok final, calls ++ callsAfter⟩ := by
    unfold derivedStages
    rw [all]
    rw [List.append_nil] at allAfter
    simp [Stage.applyAll, Stage.apply, filteredEq, allAfter]
  have middleLength : scene.everything middle = scene.everything final := by
    rw [everything_extends whole, everything_extends extended]
  refine ⟨beforeNext, afterNext, final, _, through, whole, ⟨middle, middleLength, ?_, laterFrame⟩,
    ?_, ?_⟩
  · rw [left, ← middleLength]
    rfl
  · rw [everything_extends whole]
    refine ((List.forall₂_and_left _ _).mpr ⟨fun _ member => member, completed⟩).imp ?_
    rintro projector next ⟨member, complete⟩
    obtain ⟨own, reads⟩ := ready.unwritten member
    exact complete final (namesOf after) laterFrame ready.freeAfter own reads
  · rw [left]
    refine completedAfter.imp fun projector next complete => ?_
    exact complete final [] (Frame.Extends.refl final) (by simp) (by simp) (by simp)

/-- Where a scene has no frame, no pipeline on it has one. -/
theorem pull_pipeline_error {error : RunError} (failed : scene.pull ground = .error error) :
    (scene.pipeline predicate ground before after).pull.frame = .error error := by
  unfold pull at failed
  unfold Pipeline.pull pipeline
  split at failed
  · rename_i room
    split at failed
    · rename_i refused
      rw [Playback.pull_refused room refused, ← Except.error.inj failed]
    · rename_i raw delivered
      rw [Playback.pull_delivered room delivered]
      split at failed
      · rename_i refused
        rw [← Except.error.inj failed]
        simp only [applyAll_ground_error scene.only refused]
      · exact absurd failed (by simp)
  · rename_i full
    rw [Playback.pull_exhausted full, ← Except.error.inj failed]

/-- The next frame of a pipeline is the next one of its scene, taken through the stages after it. -/
theorem pull_pipeline_eq (pulled : scene.pull ground = .ok (later, base)) :
    let passage := Stage.applyAll 3 (scene.derivedStages predicate before after) base
    (scene.pipeline predicate ground before after).pull =
      ⟨⟨⟨.ofVideo scene.source, later.position⟩,
        groundStages scene.detection later.tracker scene.className scene.index ++ passage.state⟩,
        passage.frame, passage.calls⟩ := by
  obtain ⟨raw, detections, room, delivered, found, rfl, rfl⟩ := pull_eq_ok pulled
  unfold Pipeline.pull pipeline
  rw [Playback.pull_delivered room delivered]
  simp only [applyAll_ground scene.only found]

/-- The next frame of a pipeline is the next one of its scene with what is computed. -/
theorem pull_pipeline
    (ready : scene.Ready before after) (sound : scene.Sound ground)
    (pulled : scene.pull ground = .ok (later, base)) :
    ∃ beforeNext afterNext final calls,
      (scene.pipeline predicate ground before after).pull =
          ⟨scene.pipeline predicate later beforeNext afterNext, .ok final, calls⟩ ∧
        scene.Computed predicate before after beforeNext afterNext base final := by
  have isBase := (sound_of_pull sound pulled).2
  obtain ⟨beforeNext, afterNext, final, calls, through, computed⟩ :=
    @applyAll_derivedStages scene base predicate before after ready isBase
  refine ⟨beforeNext, afterNext, final, calls, ?_, computed⟩
  rw [pull_pipeline_eq pulled, through]
  rfl

end Scene

/-! ## The beginning of a run -/

/-- The scene of a run on a video with a detector. -/
def Scene.of (source : VideoSource) (detector : Detector) (detectorName className : String) :
    Scene where
  source := source
  detection := ⟨detector, detectorName, [className]⟩
  className := className
  index := Plan.filterIndex
  only := rfl

/-- The ground at the beginning of a video. -/
def Ground.start (source : VideoSource) (className : String) (config : TrackerConfig) : Ground where
  position := 0
  tracker := .start className (config.settings source.metadata.fps)

/-- The projector of a property, without any past. -/
def ObjectType.projectorOf (type : ObjectType) (property : Property) : Projector :=
  .ofSpec ⟨property, type.className, Plan.filterIndex, property.maxWindow, property.isSelfDependent⟩

theorem ObjectType.namesOf_projectors (type : ObjectType) (properties : List Property) :
    namesOf (properties.map type.projectorOf) = properties.map Property.name := by
  unfold namesOf
  rw [List.map_map]
  rfl

theorem ObjectType.propertiesOf_projectors (type : ObjectType) (properties : List Property) :
    propertiesOf (properties.map type.projectorOf) = properties := by
  unfold propertiesOf
  rw [List.map_map]
  exact List.map_id properties

/-- Projectors of different properties are all the first ones of theirs. -/
theorem withTurns_projectors
    {projectors : List Projector} {computed : List String} (once : (namesOf projectors).Nodup)
    (fresh : ∀ name ∈ namesOf projectors, name ∉ computed)
    (first : ∀ projector ∈ projectors, projector.turn = 0) (rest : List Stage) :
    Stage.withTurns computed (projectors.map Stage.project ++ rest) =
      projectors.map Stage.project ++
        Stage.withTurns ((namesOf projectors).reverse ++ computed) rest := by
  induction projectors generalizing computed with
  | nil => rfl
  | cons projector others inductionHypothesis =>
      obtain ⟨absent, once⟩ := List.nodup_cons.mp once
      have unseen : computed.count projector.property.name = 0 :=
        List.count_eq_zero.mpr (fresh _ List.mem_cons_self)
      have own : { projector with turn := 0 } = projector := by
        rw [← first projector List.mem_cons_self]
      have later := @inductionHypothesis (projector.property.name :: computed) once
        (fun name member known => by
          rcases List.mem_cons.mp known with rfl | known
          · exact absent member
          · exact fresh name (List.mem_cons_of_mem _ member) known)
        (fun other member => first other (List.mem_cons_of_mem _ member))
      simp only [List.map_cons, List.cons_append, Stage.withTurns, unseen, own, later]
      simp [namesOf]

theorem make_eq_ok
    {detector : Detector} {detectorName className : String} {detection : DetectionStage}
    (made : DetectionStage.make detector detectorName [className] = .ok detection) :
    detection = ⟨detector, detectorName, [className]⟩ := by
  unfold DetectionStage.make at made
  simp only [DetectionStage.sortedNames, List.foldl_cons, List.foldl_nil, Keyed.putSorted,
    Keyed.keys, List.map_cons, List.map_nil] at made
  split at made
  · exact absurd made (by simp)
  · exact (Except.ok.inj made).symm

namespace Plan.Compiled

variable {query : Query} {plan : Plan} {predicateNames outputNames : List String}
  {before after : List Property}

theorem ready
    (compiled : Compiled query plan predicateNames outputNames before after)
    (wellFormed : plan.type.WellFormed)
    (free : ∀ property ∈ plan.type.properties, Field.isFixed property.name = false)
    {source : VideoSource} {detector : Detector} {detectorName : String} :
    (Scene.of source detector detectorName plan.type.className).Ready
      (before.map plan.type.projectorOf) (after.map plan.type.projectorOf) where
  placed projector member := by
    rw [← List.map_append] at member
    obtain ⟨property, _, rfl⟩ := List.mem_map.mp member
    exact ⟨rfl, rfl⟩
  ordered := by
    rw [← List.map_append, ObjectType.propertiesOf_projectors]
    exact compiled.ordered wellFormed.names free
  free name member := by
    rw [← List.map_append, ObjectType.namesOf_projectors] at member
    obtain ⟨property, listed, rfl⟩ := List.mem_map.mp member
    exact free property (compiled.declared listed)
  once projector member := by
    rw [← List.map_append] at member
    obtain ⟨property, _, rfl⟩ := List.mem_map.mp member
    exact History.distinct_of_rows_eq_nil rfl

theorem stageOf_projections (type : ObjectType) (properties : List Property) :
    (properties.map (projection type)).filterMap Run.stageOf? =
      (properties.map type.projectorOf).map Stage.project := by
  rw [List.filterMap_map, List.map_map]
  exact congrFun List.filterMap_eq_map' properties

/-- The stages of a compiled query are set up as they are. -/
theorem withTurns_stages
    (compiled : Compiled query plan predicateNames outputNames before after)
    (scene : Scene) (tracker : Tracker Float32) (predicate : Predicate) :
    let stages := groundStages scene.detection tracker scene.className scene.index ++
      scene.derivedStages predicate (before.map plan.type.projectorOf)
        (after.map plan.type.projectorOf)
    Stage.withTurns [] stages = stages := by
  have once := compiled.nodup_names
  rw [List.map_append, List.nodup_append] at once
  have first : ∀ properties : List Property, ∀ projector ∈ properties.map plan.type.projectorOf,
      projector.turn = 0 := by
    intro properties projector member
    obtain ⟨property, _, rfl⟩ := List.mem_map.mp member
    rfl
  have early := ObjectType.namesOf_projectors plan.type before
  have late := ObjectType.namesOf_projectors plan.type after
  have beforeTurns := @withTurns_projectors _ [] (early ▸ once.1)
    (fun name _ => List.not_mem_nil) (first before)
    (.keep predicate scene.className scene.index ::
      (after.map plan.type.projectorOf).map Stage.project)
  have afterTurns := @withTurns_projectors _ (before.map Property.name).reverse
    (late ▸ once.2.1) (fun name member known => by
      rw [late] at member
      exact once.2.2 name (List.mem_reverse.mp known) name member rfl) (first after) []
  rw [List.append_nil] at afterTurns
  rw [early, List.append_nil] at beforeTurns
  simp only [groundStages, Scene.derivedStages, List.cons_append, List.nil_append, Stage.withTurns,
    beforeTurns, afterTurns, List.append_nil]

/-- What is reported of an object by a compiled query. -/
def reportSpec (query : Query) (plan : Plan) : ReportSpec where
  typeName := plan.type.name
  className := plan.type.className
  index := filterIndex
  fields := reportFields query.output

theorem reportOf?_stages
    (compiled : Compiled query plan predicateNames outputNames before after) :
    Run.reportOf? plan.stages = some (reportSpec query plan) := by
  rw [compiled.stages]
  simp [Run.reportOf?, projection, reportSpec]

/-- Whether a run can be started depends on the class of the type only. -/
theorem exists_start
    (compiled : Compiled query plan predicateNames outputNames before after) {other : Plan}
    (same : other.type.className = plan.type.className) {source : VideoSource} {detector : Detector}
    {detectorName : String} {tracker : TrackerConfig} {output : OutputConfig} {run : Run}
    (started : Run.start other source detector detectorName tracker output = .ok run) :
    ∃ run, Run.start plan source detector detectorName tracker output = .ok run := by
  unfold Run.start at *
  rw [← same, compiled.reportOf?_stages]
  split at started
  · exact absurd started (by simp)
  · exact ⟨_, rfl⟩

theorem start_eq_ok
    (compiled : Compiled query plan predicateNames outputNames before after)
    {source : VideoSource} {detector : Detector} {detectorName : String} {tracker : TrackerConfig}
    {output : OutputConfig} {run : Run}
    (started : Run.start plan source detector detectorName tracker output = .ok run) :
    run.pipeline = (Scene.of source detector detectorName plan.type.className).pipeline
        query.constraint (Ground.start source plan.type.className tracker)
        (before.map plan.type.projectorOf) (after.map plan.type.projectorOf) ∧
      run.reporter = .start (reportSpec query plan) output ∧ run.framesProcessed = 0 ∧
        run.limit = none ∧ run.failed = false := by
  unfold Run.start at started
  split at started
  · exact absurd started (by simp)
  · rename_i detection made
    obtain rfl := make_eq_ok made
    simp only [compiled.reportOf?_stages] at started
    obtain rfl := Except.ok.inj started
    refine ⟨?_, rfl, rfl, rfl, rfl⟩
    have stages : plan.stages.filterMap Run.stageOf? =
        .selectClass plan.type.className filterIndex ::
          (Scene.of source detector detectorName plan.type.className).derivedStages
            query.constraint (before.map plan.type.projectorOf)
              (after.map plan.type.projectorOf) := by
      rw [compiled.stages]
      simp only [List.filterMap_append, List.filterMap_cons, List.filterMap_nil, stageOf_projections,
        Run.stageOf?]
      simp [Scene.derivedStages, Scene.of]
    have turns := withTurns_stages compiled
      (Scene.of source detector detectorName plan.type.className)
      (Ground.start source plan.type.className tracker).tracker query.constraint
    unfold Scene.pipeline Pipeline.make
    rw [stages, ← turns]
    rfl

end Plan.Compiled

end ObjectQuery
