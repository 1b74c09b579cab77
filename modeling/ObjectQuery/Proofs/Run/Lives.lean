import ObjectQuery.Proofs.Run.ReadAlike
import ObjectQuery.Proofs.Stage.OwnPast
import ObjectQuery.Proofs.Stage.Track

/-!
# The lives of tracks in a run

A property that is computed before the predicate filter and looks back on its own last value goes with the
tracks of a run: `Run.folds_over_life` says that the value on each frame is computed from the one before,
that it is kept while the track is lost, and that nothing is left of a track that the tracker has given up.
-/

namespace ObjectQuery

/-! ## What the tracker reports -/

/-- The tracker of a class gives up a track on the next frame. -/
def Pipeline.Removes (pipeline : Pipeline) (className : String) (track : Nat) : Prop :=
  ∃ trackers frame tracker, (Stage.track trackers, frame) ∈ pipeline.arrivals ∧
    trackers.get? className = some tracker ∧
      track ∈ (ClassTrackers.updated tracker frame className).2.removed

namespace Scene

variable {scene : Scene} {ground later : Ground} {base seen final : Frame} {predicate : Predicate}
  {before after : List Projector} {report : TrackerReport Float32} {projector : Projector}

/-- The trackers of the next frame, and the frame as it comes to them. -/
theorem eq_of_track_arrives {raw : RawFrame} {detections : List Detection}
    (room : ground.position < scene.source.length)
    (delivered : scene.source.frameAt ground.position = .ok raw)
    (found : scene.detection.detector.infer raw.id raw.picture = .ok detections)
    {trackers : ClassTrackers Float32} {frame : Frame}
    (arrives : (Stage.track trackers, frame) ∈
      (scene.pipeline predicate ground before after).arrivals) :
    trackers = ⟨[(scene.className, ground.tracker)]⟩ ∧
      frame = { Frame.ofRaw raw scene.source.metadata with
        records := [(scene.className, scene.detection.recordsFor detections scene.className)] } := by
  have detected : ((Stage.detect scene.detection).apply 0
      (.ofRaw raw scene.source.metadata)).frame = .ok { Frame.ofRaw raw scene.source.metadata with
        records := [(scene.className, scene.detection.recordsFor detections scene.className)] } :=
    apply_detection scene.only found
  unfold Pipeline.arrivals pipeline groundStages at arrives
  rw [Playback.pull_delivered room delivered] at arrives
  simp only [List.cons_append, List.nil_append, Stage.arriving_cons detected] at arrives
  rcases List.mem_cons.mp arrives with here | later
  · exact absurd (congrArg Prod.fst here) (by simp)
  · rw [Stage.arriving_cons rfl] at later
    rcases List.mem_cons.mp later with here | further
    · obtain ⟨own, rfl⟩ := Prod.mk.inj here
      exact ⟨Stage.track.inj own, rfl⟩
    · have placed := Stage.mem_of_arriving further
      simp [derivedStages] at placed

/-- The next frame with the report of the tracker on it. -/
structure Reports (scene : Scene) (ground later : Ground) (base : Frame)
    (report : TrackerReport Float32) : Prop where
  updated : ∃ id observations,
    ground.tracker.update id observations = (later.tracker, report)
  tracked : ∀ record ∈ base.recordsOf scene.className, ∀ track, record.trackId? = some track →
    track ∈ report.tracked.map TrackReport.id
  lost : base.lostOf scene.className = report.lost.map TrackReport.id
  distinct : (report.tracked.map TrackReport.id ++ report.lost.map TrackReport.id).Nodup
  removed : ∀ predicate before after track,
    (scene.pipeline predicate ground before after).Removes scene.className track →
      track ∈ report.removed

theorem exists_reports (sound : scene.Sound ground) (pulled : scene.pull ground = .ok (later, base)) :
    ∃ report, scene.Reports ground later base report := by
  obtain ⟨raw, detections, room, delivered, found, rfl, rfl⟩ := pull_eq_ok pulled
  let observations :=
    (scene.detection.recordsFor detections scene.className).map ObjectRecord.observation
  obtain ⟨_, numbers, growth⟩ := sound.reached.update raw.id observations
  have counted := length_le_of_infer room delivered found
  have fits := sound.fits
  rw [List.length_map] at growth
  refine ⟨(ground.tracker.update raw.id observations).2, ⟨raw.id, observations, rfl⟩,
    fun record member track named => ?_, lostOf_groundFrame .., numbers.distinct, ?_⟩
  · exact tracked_of_groundFrame _ _ _ numbers (by omega) member named
  · rintro predicate before after track ⟨trackers, frame, tracker, arrives, present, removed⟩
    obtain ⟨rfl, rfl⟩ := eq_of_track_arrives room delivered found arrives
    simp only [ClassTrackers.get?, Keyed.find?, if_true, Option.some.injEq] at present
    subst present
    simpa [ClassTrackers.updated, Frame.recordsOf, Keyed.find?, Frame.ofRaw] using removed

/-! ## What the projector finds -/

/-- The next frame as a projector before the filter finds it, and as it comes out of the pipeline. -/
structure Shows (scene : Scene) (base seen final : Frame) (projector : Projector) : Prop where
  placed : projector.className = scene.className ∧ projector.index = scene.index
  framed : seen = { base with records := seen.records }
  early : ∃ names, (∀ name ∈ names, Field.isFixed name = false) ∧
    Frame.Extends scene.className names base seen
  late : ∃ projection names, projector.apply seen = .ok projection ∧
    projector.property.name ∉ names ∧ (∀ name ∈ names, Field.isFixed name = false) ∧
      Frame.Extends scene.className names projection.frame final
  whole : ∃ names, (∀ name ∈ names, Field.isFixed name = false) ∧
    Frame.Extends scene.className names base final

theorem exists_shows
    (predicate : Predicate) (ready : scene.Ready before after) (sound : scene.Sound ground)
    (pulled : scene.pull ground = .ok (later, base)) {name : String}
    (member : name ∈ namesOf before) :
    ∃ projector seen final,
      (scene.pipeline predicate ground before after).found? name = some (projector, seen) ∧
        (scene.pipeline predicate ground before after).pull.frame = .ok final ∧
          projector.property.name = name ∧ scene.Shows base seen final projector := by
  have isBase := (sound_of_pull sound pulled).2
  obtain ⟨front, grounded, arrivals, frame⟩ :=
    @exists_arrivals_eq scene ground later base predicate before after pulled
  obtain ⟨middle, final, place, middleEq, extended, _, extendedAfter, through, arrives⟩ :=
    ready.through_derivedStages predicate isBase
  obtain ⟨projector, seen, found, named, finds⟩ :=
    Stage.exists_findsIn (ready.appliableBefore isBase) middleEq member
  obtain ⟨names, inside, early⟩ := finds.early
  obtain ⟨projection, others, applied, apart, insideAfter, late⟩ := finds.late
  have unwritten : projector.property.name ∉ others ++ namesOf after := by
    intro again
    rcases List.mem_append.mp again with other | further
    · exact apart other
    · exact ready.apart further (List.mem_map_of_mem finds.member)
  have free (names : List String) (inside : names ⊆ namesOf before) (name : String)
      (written : name ∈ names ++ namesOf after) : Field.isFixed name = false := by
    rcases List.mem_append.mp written with other | further
    · exact ready.freeBefore name (inside other)
    · exact ready.freeAfter name further
  refine ⟨projector, seen, final, ?_, frame.trans through, named, ?_⟩
  · have passedOver : front.findSome? (Stage.finderFor? name) = none := by
      refine List.findSome?_eq_none_iff.mpr fun entry listed => ?_
      have ground := grounded entry listed
      simp only [groundStages, List.mem_cons, List.not_mem_nil, or_false] at ground
      rcases ground with detect | track | select
      · simp [Stage.finderFor?, Stage.projectorFor?, detect]
      · simp [Stage.finderFor?, Stage.projectorFor?, track]
      · simp [Stage.finderFor?, Stage.projectorFor?, select]
    unfold Pipeline.found?
    rw [arrivals, arrives, List.findSome?_append, passedOver, Option.none_or,
      List.findSome?_append, found, Option.some_or]
  · exact
      { placed := ready.placed projector (List.mem_append_left after finds.member)
        framed := finds.framed
        early := ⟨names, fun name listed => ready.freeBefore name (inside listed), early⟩
        late := ⟨projection, _, applied, unwritten, free others insideAfter,
          late.trans extendedAfter⟩
        whole := ⟨_, free _ (List.Subset.refl _), extended.trans extendedAfter⟩ }

namespace Shows

variable (shows : scene.Shows base seen final projector)

include shows in
theorem id_eq : seen.id = base.id := by
  rw [shows.framed]

include shows in
theorem lostOf_seen (className : String) : seen.lostOf className = base.lostOf className := by
  rw [shows.framed]
  rfl

include shows in
theorem lostOf_final (className : String) : final.lostOf className = base.lostOf className := by
  obtain ⟨_, _, extended⟩ := shows.whole
  rw [extended.framed]
  rfl

include shows in
theorem listsAll (isBase : scene.IsBase base) : projector.ListsAll seen := by
  obtain ⟨_, _, extended⟩ := shows.early
  unfold Projector.ListsAll
  rw [shows.placed.1, shows.placed.2, extended.length, shows.framed]
  exact isBase.listed

include shows in
theorem distinct (isBase : scene.IsBase base) : DistinctTracks (seen.recordsOf scene.className) := by
  obtain ⟨_, free, extended⟩ := shows.early
  exact extended.distinctTracks free isBase.distinct

include shows in
theorem tracked (reports : scene.Reports ground later base report) {record : ObjectRecord}
    (present : record ∈ seen.recordsOf scene.className) {track : Nat}
    (named : record.trackId? = some track) :
    track ∈ report.tracked.map TrackReport.id := by
  obtain ⟨_, free, extended⟩ := shows.early
  obtain ⟨position, here⟩ := List.mem_iff_getElem?.mp present
  obtain ⟨old, oldHere⟩ := extended.exists_old here
  rw [extended.trackId_eq free oldHere here] at named
  exact reports.tracked old (List.mem_of_getElem? oldHere) track named

include shows in
/-- A track that is not reported is not found on any object. -/
theorem firstOf?_eq_none (reports : scene.Reports ground later base report) {track : Nat}
    (untracked : track ∉ report.tracked.map TrackReport.id) :
    projector.firstOf? seen track = none := by
  cases first : projector.firstOf? seen track with
  | none => rfl
  | some item =>
      obtain ⟨_, _, _, here, named⟩ := Projector.firstOf?_eq_some first
      rw [shows.placed.1] at here
      exact absurd (shows.tracked reports (List.mem_of_getElem? here) named) untracked

include shows in
/-- A lost track is not found on any object. -/
theorem firstOf?_of_lost (reports : scene.Reports ground later base report) {track : Nat}
    (lost : track ∈ seen.lostOf scene.className) :
    projector.firstOf? seen track = none := by
  rw [shows.lostOf_seen, reports.lost] at lost
  refine shows.firstOf?_eq_none reports fun tracked => ?_
  exact (List.nodup_append.mp reports.distinct).2.2 track tracked track lost rfl

include shows in
/-- An object comes to the projector with the track that it has in the end. -/
theorem exists_record {position track : Nat} {told : ObjectRecord}
    (here : (final.recordsOf scene.className)[position]? = some told)
    (named : told.trackId? = some track) :
    ∃ record, (seen.recordsOf scene.className)[position]? = some record ∧
      record.trackId? = some track := by
  obtain ⟨_, freeWhole, whole⟩ := shows.whole
  obtain ⟨_, free, early⟩ := shows.early
  obtain ⟨old, oldHere⟩ := whole.exists_old here
  obtain ⟨record, recordHere⟩ := early.exists_new oldHere
  rw [whole.trackId_eq freeWhole oldHere here, ← early.trackId_eq free oldHere recordHere] at named
  exact ⟨record, recordHere, named⟩

end Shows

end Scene

/-! ## Frame after frame -/

/-- A run some frames later, with the frames as the projector for a name has found them. -/
inductive Run.Shown (first : Run) (name : String) : List Frame → Run → Prop where
  | refl : Shown first name [] first
  | settle {frames : List Frame} {run : Run} {projector : Projector} {seen final : Frame}
      (shown : Shown first name frames run) (pulled : run.pipeline.pull.frame = .ok final)
      (found : run.pipeline.found? name = some (projector, seen)) (seconds : Float) :
      Shown first name (frames ++ [seen]) (run.settle run.pull seconds)

theorem findSome?_groundStages (detection : DetectionStage) (tracker : Tracker Float32)
    (className : String) (index : Nat) (name : String) :
    (groundStages detection tracker className index).findSome? (Stage.projectorFor? name) = none :=
  rfl

/-- Where projectors are told apart by their names, each is found under its own. -/
theorem findSome?_projectors {projectors : List Projector} {start : Projector}
    (once : (namesOf projectors).Nodup) (member : start ∈ projectors) :
    (projectors.map Stage.project).findSome? (Stage.projectorFor? start.property.name) =
      some start := by
  induction projectors with
  | nil => exact absurd member List.not_mem_nil
  | cons projector rest inductionHypothesis =>
      obtain ⟨absent, once⟩ := List.nodup_cons.mp once
      rw [List.map_cons, List.findSome?_cons]
      rcases List.mem_cons.mp member with rfl | later
      · simp [Stage.projectorFor?]
      · have apart : projector.property.name ≠ start.property.name := fun same =>
          absent (List.mem_map.mpr ⟨start, later, same.symm⟩)
        simp only [Stage.projectorFor?, if_neg apart]
        exact inductionHypothesis once later

/-- A run in which a projector has been shown some frames, on which lost tracks have no objects. -/
structure Course.Lives (course : Course) (scene : Scene) (origin : Ground) (first : Nat)
    (start : Projector) (frames : List Frame) (run : Run) (ground : Ground)
    (before after : List Projector) : Prop where
  reaches : ∃ earlier, course.Reaches scene origin earlier run ground before after ∧
    earlier.length = frames.length
  projector : run.pipeline.projector? start.property.name = some (start.after frames)
  counted : Projector.CountedFrom first frames
  lists : ∀ frame ∈ frames, start.ListsAll frame
  apart : ∀ frame ∈ frames, ∀ track ∈ frame.lostOf scene.className,
    start.firstOf? frame track = none

namespace Course

variable {course : Course} {scene : Scene} {origin ground : Ground} {first : Nat}
  {start : Projector} {frames : List Frame} {run : Run} {before after : List Projector}
  {final : Frame}

/-- The next frame of such a run, as it is found and as it comes out. -/
structure Advances (course : Course) (scene : Scene) (origin : Ground) (first : Nat)
    (start : Projector) (frames : List Frame) (run : Run) (ground : Ground) (final seen : Frame)
    (later : Ground) (report : TrackerReport Float32) : Prop where
  found : run.pipeline.found? start.property.name = some (start.after frames, seen)
  lists : start.ListsAll seen
  distinct : DistinctTracks (seen.recordsOf scene.className)
  numbered : seen.id = first + frames.length
  apart : ∀ track ∈ seen.lostOf scene.className, start.firstOf? seen track = none
  shows : ∃ base, scene.Shows base seen final (start.after frames) ∧
    scene.Reports ground later base report
  onward : ∀ seconds, ∃ beforeNext afterNext, course.Lives scene origin first start
    (frames ++ [seen]) (run.settle run.pull seconds) later beforeNext afterNext

theorem Lives.advances
    (lives : course.Lives scene origin first start frames run ground before after)
    (ready : scene.Ready course.before course.after) (member : start ∈ course.before)
    (counts : scene.source.CountsFrom first) (pulled : run.pipeline.pull.frame = .ok final) :
    ∃ seen later report,
      course.Advances scene origin first start frames run ground final seen later report := by
  obtain ⟨earlier, reaches, length⟩ := lives.reaches
  obtain ⟨⟨later, base⟩, fromScene⟩ := reaches.exists_pull pulled
  have readyNow := ready_alike ready reaches.alike.1 reaches.alike.2
  have written : start.property.name ∈ namesOf before := by
    rw [namesOf_alike reaches.alike.1]
    exact List.mem_map_of_mem member
  obtain ⟨projector, seen, through, found, throughEq, _, shows⟩ :=
    Scene.exists_shows course.predicate readyNow reaches.sound fromScene written
  rw [← reaches.pipeline] at found throughEq
  obtain rfl := Except.ok.inj (throughEq.symm.trans pulled)
  have same := Pipeline.projector?_eq pulled start.property.name
  rw [lives.projector, found] at same
  obtain rfl := Option.some.inj same
  obtain ⟨report, reports⟩ := Scene.exists_reports reaches.sound fromScene
  have isBase := (Scene.sound_of_pull reaches.sound fromScene).2
  have lists : start.ListsAll seen := by
    have listed := shows.listsAll isBase
    rwa [start.kept_after frames] at listed
  have apart (track : Nat) (lost : track ∈ seen.lostOf scene.className) :
      start.firstOf? seen track = none :=
    (start.firstOf?_after frames seen track).symm.trans (shows.firstOf?_of_lost reports lost)
  have numbered : seen.id = first + frames.length := by
    obtain ⟨raw, _, room, delivered, _, _, baseEq⟩ := Scene.pull_eq_ok fromScene
    rw [shows.id_eq, baseEq, ← length, ← reaches.position]
    exact counts ground.position raw room delivered
  refine ⟨seen, later, report, found, lists, shows.distinct isBase, numbered, apart,
    ⟨base, shows, reports⟩, fun seconds => ?_⟩
  have continued := Run.continues_settle pulled seconds
  obtain ⟨frame, delivered, _, onward⟩ := reaches.step ready fromScene
  obtain rfl := Except.ok.inj (delivered.symm.trans pulled)
  obtain ⟨beforeNext, afterNext, reachesNext⟩ := onward _ continued
  refine ⟨beforeNext, afterNext, ⟨_, reachesNext, ?_⟩, ?_, ?_, ?_, ?_⟩
  · rw [List.length_append, List.length_append, length]
    rfl
  · rw [continued.pipeline, Pipeline.projector?_pull pulled, found, Projector.after_concat]
    rfl
  · exact Projector.countedFrom_concat.mpr ⟨lives.counted, numbered⟩
  · exact List.forall_mem_append.mpr ⟨lives.lists, List.forall_mem_singleton.mpr lists⟩
  · exact List.forall_mem_append.mpr ⟨lives.apart, List.forall_mem_singleton.mpr apart⟩

/-- However the run has come to where it is. -/
theorem Lives.shown {beginning : Run}
    (lives : course.Lives scene origin first start [] beginning ground before after)
    (ready : scene.Ready course.before course.after) (member : start ∈ course.before)
    (counts : scene.source.CountsFrom first)
    (shown : beginning.Shown start.property.name frames run) :
    ∃ groundNow beforeNow afterNow,
      course.Lives scene origin first start frames run groundNow beforeNow afterNow := by
  induction shown with
  | refl => exact ⟨ground, before, after, lives⟩
  | settle _ pulled found seconds inductionHypothesis =>
      obtain ⟨groundNow, beforeNow, afterNow, now⟩ := inductionHypothesis
      obtain ⟨seen, later, _, advances⟩ := now.advances ready member counts pulled
      obtain ⟨_, rfl⟩ := Prod.mk.inj (Option.some.inj (found.symm.trans advances.found))
      obtain ⟨beforeNext, afterNext, next⟩ := advances.onward seconds
      exact ⟨later, beforeNext, afterNext, next⟩

theorem Lives.keeps
    (lives : course.Lives scene origin first start frames run ground before after)
    (reads : start.ReadsLast) (empty : start.history.rows = []) :
    start.Keeps (start.after frames) frames (first + frames.length) :=
  Projector.keeps_after reads empty lives.counted lives.lists

/-! ## Tracks that are given up -/

section GivenUp

variable {seen : Frame} {later : Ground} {report : TrackerReport Float32} {track : Nat}

/-- Nothing is left of a track after a frame on which it is given up or has been before. -/
theorem Advances.life_eq_none
    (advances : course.Advances scene origin first start frames run ground final seen later report)
    (className : start.className = scene.className)
    (givenUp : later.tracker.GivenUp report track) :
    start.life (frames ++ [seen]) track = none := by
  obtain ⟨base, shows, reports⟩ := advances.shows
  refine Projector.life_of_gone ?_ ?_
  · rw [← start.firstOf?_after frames]
    exact shows.firstOf?_eq_none reports givenUp.untracked
  · rw [className, shows.lostOf_seen, reports.lost]
    exact givenUp.unsought

theorem Advances.givenUp
    (advances : course.Advances scene origin first start frames run ground final seen later report)
    (removed : ground.tracker.IsReached ∧ track ∈ report.removed ∨
      ground.tracker.HasRemoved track) :
    later.tracker.GivenUp report track := by
  obtain ⟨_, _, reports⟩ := advances.shows
  obtain ⟨id, observations, updated⟩ := reports.updated
  rcases removed with ⟨reached, now⟩ | before
  · have givenUp := @Tracker.IsReached.givenUp _ _ _ _ _ _ reached id observations track
    rw [updated] at givenUp
    exact givenUp now
  · have givenUp := before.givenUp id observations
    rwa [updated] at givenUp

/-- What has been given up leaves nothing behind, however much later. -/
theorem Lives.forgotten
    (lives : course.Lives scene origin first start frames run ground before after)
    (ready : scene.Ready course.before course.after) (member : start ∈ course.before)
    (counts : scene.source.CountsFrom first) (reads : start.ReadsLast)
    (empty : start.history.rows = []) (className : start.className = scene.className)
    (removed : ground.tracker.HasRemoved track) (gone : start.life frames track = none)
    {much : Run} (later : run.Later much) :
    ∃ projector, much.pipeline.projector? start.property.name = some projector ∧
      projector.history.rows.find? track = none := by
  -- the tracker never takes up a number again, so that the life of the track stays empty
  have kept : ∃ frames ground before after,
      course.Lives scene origin first start frames much ground before after ∧
        ground.tracker.HasRemoved track ∧ start.life frames track = none := by
    induction later with
    | refl => exact ⟨frames, ground, before, after, lives, removed, gone⟩
    | settle _ pulled seconds inductionHypothesis =>
        obtain ⟨frames, _, _, _, now, removed, _⟩ := inductionHypothesis
        obtain ⟨seen, later, _, advances⟩ := now.advances ready member counts pulled
        have givenUp := advances.givenUp (Or.inr removed)
        obtain ⟨beforeNext, afterNext, next⟩ := advances.onward seconds
        exact ⟨frames ++ [seen], later, beforeNext, afterNext, next, givenUp.removed,
          advances.life_eq_none className givenUp⟩
  obtain ⟨frames, _, _, _, now, _, gone⟩ := kept
  exact ⟨_, now.projector, ((now.keeps reads empty).stores track).forgotten gone⟩

end GivenUp

/-! ## The next frame -/

end Course

/-- What the next frame of a run is for a property that looks back on its own last value. -/
structure Run.FoldsOver (run : Run) (start : Projector) (frames : List Frame) (final seen : Frame)
    (projector : Projector) : Prop where
  found : run.pipeline.found? start.property.name = some (projector, seen)
  /-- The projector comes to the frame with what is left of each track. -/
  stores : ∀ track, projector.Stores track seen.id (start.life frames track)
  /-- An object has the value that follows the last one of its track. -/
  written : ∀ (position : Nat) (told : ObjectRecord) (track : Nat),
    (final.recordsOf start.className)[position]? = some told → told.trackId? = some track →
      ∃ record, (seen.recordsOf start.className)[position]? = some record ∧
        start.life (frames ++ [seen]) track =
            some (start.valueAfter frames track seen position record
              (start.property.previous (start.life frames track))) ∧
          told.get? start.property.name = start.life (frames ++ [seen]) track
  /-- The value of a lost track stays as it is. -/
  carried : ∀ track ∈ final.lostOf start.className,
    start.life (frames ++ [seen]) track = start.life frames track
  /-- However long a track has been lost, its value is the one from before. -/
  regained : ∀ known gap track, frames = known ++ gap →
    (∀ lost ∈ gap, track ∈ lost.lostOf start.className) →
      start.life frames track = start.life known track
  /-- Of a track that is given up nothing is left, then and later. -/
  removed : ∀ track, run.pipeline.Removes start.className track → ∀ seconds later,
    (run.settle run.pull seconds).Later later →
      ∃ projector, later.pipeline.projector? start.property.name = some projector ∧
        projector.history.rows.find? track = none

namespace Course

variable {course : Course} {scene : Scene} {origin ground : Ground} {first : Nat}
  {start : Projector} {frames : List Frame} {run : Run} {before after : List Projector}
  {final : Frame}

theorem Lives.foldsOver
    (lives : course.Lives scene origin first start frames run ground before after)
    (ready : scene.Ready course.before course.after) (member : start ∈ course.before)
    (counts : scene.source.CountsFrom first) (reads : start.ReadsLast)
    (empty : start.history.rows = []) (pulled : run.pipeline.pull.frame = .ok final) :
    ∃ projector seen, run.FoldsOver start frames final seen projector := by
  obtain ⟨className, _⟩ := ready.placed start (List.mem_append_left _ member)
  obtain ⟨seen, later, report, advances⟩ := lives.advances ready member counts pulled
  obtain ⟨base, shows, reports⟩ := advances.shows
  have keeps := lives.keeps reads empty
  rw [← advances.numbered] at keeps
  refine ⟨start.after frames, seen, advances.found, keeps.stores, ?_, ?_, ?_, ?_⟩
  · intro position told track here named
    rw [className] at here ⊢
    obtain ⟨record, recordHere, recordNamed⟩ := shows.exists_record here named
    have firstOf := advances.lists.firstOf?_eq (className ▸ advances.distinct)
      (className ▸ recordHere) recordNamed
    have alive := @Projector.life_of_seen start seen frames track position record firstOf
    refine ⟨record, recordHere, alive, ?_⟩
    obtain ⟨projection, applied, placed⟩ := keeps.written_of_seen reads advances.lists firstOf
    obtain ⟨other, names, otherApplied, apart, _, extended⟩ := shows.late
    obtain rfl := Except.ok.inj (applied.symm.trans otherApplied)
    have property := congrArg Projector.property (start.kept_after frames)
    have absent : start.property.name ∉ names := by
      rw [property] at apart
      exact apart
    rw [className] at placed
    rw [extended.fields position _ told placed here _ absent, ObjectRecord.get?_insert, if_pos rfl,
      alive]
  · intro track lost
    rw [className, shows.lostOf_final, ← shows.lostOf_seen] at lost
    exact Projector.life_of_lost (advances.apart track lost) (className ▸ lost)
  · rintro known gap track rfl lost
    refine Projector.life_of_lost_all (fun other listed => ?_) lost
    exact lives.apart other (List.mem_append_right known listed) track
      (className ▸ lost other listed)
  · intro track removes seconds much laterRun
    obtain ⟨_, reaches, _⟩ := lives.reaches
    rw [reaches.pipeline, className] at removes
    have removed := reports.removed _ _ _ track removes
    have givenUp := advances.givenUp (Or.inl ⟨reaches.sound.reached, removed⟩)
    obtain ⟨beforeNext, afterNext, next⟩ := advances.onward seconds
    exact next.forgotten ready member counts reads empty className givenUp.removed
      (advances.life_eq_none className givenUp) laterRun

end Course

/-! ## Compiled queries -/

namespace Plan.Compiled

variable {query : Query} {plan : Plan} {predicateNames outputNames : List String}
  {before after : List Property}

/-- A run of a compiled query, before its first frame. -/
theorem lives
    (compiled : Compiled query plan predicateNames outputNames before after)
    {source : VideoSource} {detector : Detector}
    (fits : (source.detectionCounts detector).sum < 2 ^ 64) {detectorName : String}
    {tracker : TrackerConfig} {output : OutputConfig} {run : Run}
    (started : Run.start plan source detector detectorName tracker output = .ok run)
    {property : Property} (early : property ∈ before) (first limit : Nat) :
    (course query plan before after output).Lives
      (Scene.of source detector detectorName plan.type.className)
      (Ground.start source plan.type.className tracker) first (plan.type.projectorOf property) []
      (run.withLimit limit) (Ground.start source plan.type.className tracker)
      (before.map plan.type.projectorOf) (after.map plan.type.projectorOf) := by
  have reaches := compiled.reaches started fits limit
  have once := compiled.nodup_names
  rw [List.map_append] at once
  have distinct : (namesOf (before.map plan.type.projectorOf)).Nodup := by
    rw [ObjectType.namesOf_projectors]
    exact (List.nodup_append.mp once).1
  have found : ((before.map plan.type.projectorOf).map Stage.project).findSome?
      (Stage.projectorFor? property.name) = some (plan.type.projectorOf property) :=
    findSome?_projectors distinct (List.mem_map_of_mem early)
  refine ⟨⟨[], reaches, rfl⟩, ?_, rfl, fun _ listed => absurd listed List.not_mem_nil,
    fun _ listed => absurd listed List.not_mem_nil⟩
  unfold Pipeline.projector?
  rw [reaches.pipeline]
  unfold Scene.pipeline Scene.derivedStages
  rw [List.findSome?_append, findSome?_groundStages, Option.none_or, List.findSome?_append]
  exact (congrArg (fun found => Option.or found _) found).trans rfl

end Plan.Compiled

/-- On every frame of a run, a property that is computed before the predicate filter and looks back on its
own last value goes with each track: its value follows the last one, is kept while the track is lost, and
nothing of it is left when the tracker gives up the track. -/
theorem Run.folds_over_life
    {query : Query} {plan : Plan} (compiled : Plan.compile query = .ok plan)
    (wellFormed : plan.type.WellFormed)
    (free : ∀ property ∈ plan.type.properties, Field.isFixed property.name = false)
    {source : VideoSource} {first : Nat} (counts : source.CountsFrom first) {detector : Detector}
    (fits : (source.detectionCounts detector).sum < 2 ^ 64) {detectorName : String}
    {tracker : TrackerConfig} {output : OutputConfig} {beginning : Run}
    (started : Run.start plan source detector detectorName tracker output = .ok beginning)
    {property : Property} (early : property ∈ plan.projectedBeforeFilter)
    (last : ⟨property.name, 1⟩ ∈ property.dependencies) {limit : Nat} {frames : List Frame}
    {run : Run} (shown : (beginning.withLimit limit).Shown property.name frames run) {final : Frame}
    (pulled : run.pipeline.pull.frame = .ok final) :
    ∃ projector seen,
      run.FoldsOver (plan.type.projectorOf property) frames final seen projector := by
  obtain ⟨predicateNames, outputNames, before, after, compiled⟩ :=
    Plan.compile_eq_ok compiled wellFormed
  rw [compiled.projectedBeforeFilter_eq] at early
  have declared := compiled.declared (List.mem_append_left after early)
  have reads : (plan.type.projectorOf property).ReadsLast :=
    { columns := rfl
      reach := fun dependency member =>
        (Property.window_le_maxWindow member).trans (Nat.le_max_right ..)
      distinct := wellFormed.dependencies property declared
      own := fun same => by
        have unfixed := free property declared
        change property.name = Field.trackId at same
        rw [same] at unfixed
        exact absurd unfixed (by decide)
      last := last }
  have ready := @Plan.Compiled.ready query plan predicateNames outputNames before after compiled
    wellFormed free source detector detectorName
  have member : plan.type.projectorOf property ∈
      (Plan.Compiled.course query plan before after output).before := List.mem_map_of_mem early
  obtain ⟨_, _, _, lives⟩ := (compiled.lives fits started early first limit).shown
    ready member counts shown
  exact lives.foldsOver ready member counts reads rfl pulled

/-! ## Somebody who comes back -/

namespace Returning

/-- How often somebody has been seen. -/
def sightings : Property :=
  .declare "sightings" [⟨"sightings", 1⟩]
    (fun inputs =>
      match inputs.window? "sightings" with
      | some (last :: _) => (last.nat?.map fun count => Value.ofNat (count + 1)).getD .invalid
      | _ => .invalid)
    (.ofNat 0)

def person : ObjectType := .declare "Person" "person" [.property sightings]

def query : Query where
  name := "returning"
  constraint := .greater (.property ⟨person, "sightings"⟩) (.literal (.ofNat 1))
  output := [⟨person, "sightings"⟩]

def plan : Plan where
  queryName := "returning"
  type := person
  stages :=
    [.classFilter "person" 0, Plan.projection person sightings,
      .predicateFilter query.constraint "person" 0,
      .report ⟨"Person", "person", 0, ["sightings"]⟩]

def video : VideoSource := .blank ⟨10, 640, 480, 3⟩

/-- Somebody who is hidden on the second frame. -/
def detector : Detector :=
  .ofTable ["person"] fun frame =>
    if frame = 2 then [] else [⟨⟨10, 100, 50, 200⟩, .ofScientific 8 true 1, 0⟩]

theorem counts : video.CountsFrom 1 := by
  intro position raw _ delivered
  rw [← Except.ok.inj delivered]
  exact Nat.add_comm position 1

/-- The tracks on the next frame with their counts, and the lost ones. -/
def told (run : Run) : Option (List (Option Nat × Option Nat) × List Nat) :=
  run.pipeline.pull.frame.toOption.map fun frame =>
    ((frame.recordsOf "person").map fun record =>
      (record.trackId?, record.get? "sightings" >>= Value.nat?), frame.lostOf "person")

theorem exists_frame {run : Run} {all : List (Option Nat × Option Nat) × List Nat}
    (tells : told run = some all) :
    ∃ frame, run.pipeline.pull.frame = .ok frame := by
  obtain ⟨frame, pulled, _⟩ := Option.map_eq_some_iff.mp tells
  exact ⟨frame, eq_ok_of_toOption pulled⟩

/-- The run after its next frame. -/
def onward (run : Run) : Run := run.settle run.pull 0

theorem exists_run :
    ∃ run, Run.start plan video detector "table" {} {} = .ok run ∧
      told (run.withLimit 0) = some ([(some 1, some 1)], []) ∧
        told (onward (run.withLimit 0)) = some ([], [1]) ∧
          told (onward (onward (run.withLimit 0))) = some ([(some 1, some 2)], []) :=
  ⟨_, rfl, by decide +kernel, by decide +kernel, by decide +kernel⟩

end Returning

open Returning in
/-- The count goes on where it was before the loss. -/
theorem Run.folds_over_life_returning :
    ∃ beginning frames run final seen projector,
      Run.start plan video detector "table" {} {} = .ok beginning ∧
        (beginning.withLimit 0).Shown "sightings" frames run ∧ frames.length = 2 ∧
          told run = some ([(some 1, some 2)], []) ∧ run.pipeline.pull.frame = .ok final ∧
            run.FoldsOver (person.projectorOf sightings) frames final seen projector := by
  have compiled : Plan.compile query = .ok plan := by cbv
  have fits : (video.detectionCounts detector).sum < 2 ^ 64 := by decide +kernel
  have wellFormed : plan.type.WellFormed := ⟨by decide, by decide⟩
  have early : sightings ∈ plan.projectedBeforeFilter := List.mem_cons_self
  obtain ⟨beginning, started, first, second, third⟩ := exists_run
  have folds {frames : List Frame} {run : Run} {final : Frame}
      (shown : (beginning.withLimit 0).Shown "sightings" frames run)
      (pulled : run.pipeline.pull.frame = .ok final) :
      ∃ projector seen, run.FoldsOver (person.projectorOf sightings) frames final seen projector :=
    Run.folds_over_life compiled wellFormed (by decide) counts fits started early List.mem_cons_self
      shown pulled
  obtain ⟨final, pulled⟩ := exists_frame first
  obtain ⟨_, _, begins⟩ := folds .refl pulled
  have shown := Shown.settle .refl pulled begins.found 0
  obtain ⟨final, pulled⟩ := exists_frame second
  obtain ⟨_, _, hides⟩ := folds shown pulled
  have shown := shown.settle pulled hides.found 0
  obtain ⟨final, pulled⟩ := exists_frame third
  obtain ⟨projector, seen, returns⟩ := folds shown pulled
  exact ⟨beginning, _, _, final, seen, projector, started, shown, rfl, third, pulled, returns⟩

end ObjectQuery
