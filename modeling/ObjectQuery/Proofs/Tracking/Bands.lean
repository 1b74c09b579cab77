import ObjectQuery.Proofs.Launch.Ranges
import ObjectQuery.Proofs.Tracking.Sightings

/-!
# Which tracks may take which detections

A confident detection may continue any track or begin one, a doubtful one only continues a track that is
being followed, and the others are not used. `Turn.Band` is what the three passes and the seeding say of a
track and the score of its detection; `Turn.Disciplined` is what follows for the tracks as they were before
the turn, since no number stands for two of them.
-/

namespace ObjectQuery

variable {α : Type} [Scalar α]

theorem Observation.isFinite_score {observation : Observation α}
    (wellFormed : observation.isWellFormed = true) : Scalar.isFinite observation.score = true := by
  unfold Observation.isWellFormed at wellFormed
  simp only [Bool.and_eq_true] at wellFormed
  exact wellFormed.1.1.2

namespace Turn

open TrackPools

variable {turn : Turn α} {removed : List Nat} {id index : Nat} {score : α}

/-- With this turn the track of a number takes the detection at a place. -/
def Takes (turn : Turn α) (id index : Nat) : Prop :=
  ∃ track ∈ turn.seen, track.id = id ∧ track.sighting = some index

/-- Which tracks take detections of which scores. -/
inductive Band (turn : Turn α) (id : Nat) (score : α) : Prop
  | confident (before : Track α) :
      before ∈ turn.pools.tracked ++ turn.pools.lost → before.id = id →
        turn.pools.settings.trackThreshold < score → Band turn id score
  | doubtful (before : Track α) :
      before ∈ turn.pools.tracked → before.state = .tracked → before.id = id →
        ¬ turn.pools.settings.trackThreshold < score →
          turn.pools.settings.lowScoreFloor < score → Band turn id score
  | begun :
      id ∈ ids turn.started → turn.pools.settings.trackThreshold < score →
        ¬ score ≤ turn.pools.settings.newTrackThreshold → Band turn id score

/-! ## What the passes say -/

theorem exists_of_mem_pool {row : Track α} (member : row ∈ turn.pools.pool) :
    ∃ before ∈ turn.pools.tracked ++ turn.pools.lost, before.id = row.id ∧ before.state = row.state := by
  obtain ⟨before, inside, rfl⟩ := List.mem_map.mp member
  exact ⟨before, (List.filter_sublist.append_right turn.pools.lost).subset inside, rfl, rfl⟩

theorem lt_of_mem_confident {sighting : Sighting α}
    (member : sighting ∈ (Tracker.sightings turn.observations).filter
      (Tracker.isConfident turn.pools.settings)) :
    sighting ∈ Tracker.sightings turn.observations ∧
      turn.pools.settings.trackThreshold < sighting.score := by
  obtain ⟨found, confident⟩ := List.mem_filter.mp member
  exact ⟨found, of_decide_eq_true confident⟩

theorem band_of_continued (staged : turn.pools.Staged) {pair : Track α × Sighting α}
    (member : pair ∈ Tracker.continued (turn.pools.associations turn.observations)) :
    pair.2 ∈ Tracker.sightings turn.observations ∧ turn.Band pair.1.id pair.2.score := by
  rcases List.mem_append.mp member with confirmed | third
  · rcases List.mem_append.mp confirmed with first | second
    · obtain ⟨found, above⟩ := lt_of_mem_confident (Pairing.column_of_matched first)
      obtain ⟨before, inside, number, _⟩ := exists_of_mem_pool (Pairing.mem_of_matched first)
      exact ⟨found, .confident before inside number above⟩
    · obtain ⟨found, doubtful⟩ := List.mem_filter.mp (Pairing.column_of_matched second)
      obtain ⟨unsure, floor⟩ := Bool.and_eq_true_iff.mp doubtful
      obtain ⟨left, state⟩ := List.mem_filter.mp (Pairing.mem_of_matched second)
      obtain ⟨before, inside, number, same⟩ := exists_of_mem_pool (Pairing.mem_of_leftRows left)
      have tracked : before.state = .tracked := same.trans (of_decide_eq_true state)
      have member : before ∈ turn.pools.tracked := by
        refine (List.mem_append.mp inside).resolve_right fun lost => ?_
        rw [(staged.lost before lost).1] at tracked
        exact absurd tracked (by decide)
      refine ⟨found, .doubtful before member tracked number ?_ (of_decide_eq_true floor)⟩
      simpa [Tracker.isConfident] using unsure
  · obtain ⟨found, above⟩ := lt_of_mem_confident
      (Pairing.mem_of_leftColumns (Pairing.column_of_matched third))
    obtain ⟨before, inside, same⟩ := List.mem_map.mp (Pairing.mem_of_matched third)
    have number : before.unsighted.id = pair.1.id := congrArg Track.id same
    exact ⟨found, .confident before (List.mem_append_left _ (List.mem_filter.mp inside).1) number above⟩

theorem band_of_started {track : Track α} (member : track ∈ turn.started) :
    ∃ sighting ∈ Tracker.sightings turn.observations, track.sighting = some sighting.index ∧
      turn.Band track.id sighting.score := by
  have numbered : track.id ∈ ids turn.started := List.mem_map_of_mem member
  obtain ⟨entry, listed, rfl⟩ := List.mem_map.mp member
  have seed : entry.1 ∈ Tracker.seeds turn.pools.settings
      (turn.pools.associations turn.observations) := by
    rw [← List.zipIdx_map_fst 0 (Tracker.seeds turn.pools.settings
      (turn.pools.associations turn.observations))]
    exact List.mem_map_of_mem listed
  obtain ⟨left, seeds⟩ := List.mem_filter.mp seed
  obtain ⟨found, above⟩ := lt_of_mem_confident
    (Pairing.mem_of_leftColumns (Pairing.mem_of_leftColumns left))
  exact ⟨entry.1, found, rfl, .begun numbered above (by simpa using seeds)⟩

theorem score_of_sighting {sighting : Sighting α}
    (found : sighting ∈ Tracker.sightings turn.observations) (detects : turn.Detects sighting.index score) :
    sighting.score = score := by
  obtain ⟨observation, here, _, _, scored⟩ := Tracker.mem_sightings.mp found
  obtain ⟨other, there, _, rfl⟩ := detects
  rw [scored, Option.some.inj (here.symm.trans there)]

/-- A track and the score of the detection that it takes. -/
theorem band_of_takes (staged : turn.pools.Staged) (takes : turn.Takes id index)
    (detects : turn.Detects index score) : turn.Band id score := by
  obtain ⟨track, seen, rfl, place⟩ := takes
  have banded : ∃ sighting ∈ Tracker.sightings turn.observations,
      track.sighting = some sighting.index ∧ turn.Band track.id sighting.score := by
    rcases List.mem_append.mp seen with continued | new
    · obtain ⟨pair, listed, rfl⟩ := List.mem_map.mp continued
      obtain ⟨found, band⟩ := band_of_continued staged listed
      exact ⟨pair.2, found, rfl, band⟩
    · exact band_of_started new
  obtain ⟨sighting, found, same, band⟩ := banded
  obtain rfl : sighting.index = index := Option.some.inj (same.symm.trans place)
  exact score_of_sighting found detects ▸ band

/-! ## The discipline of a turn -/

/-- The number of a track that was there before the turn. -/
def Knows (turn : Turn α) (id : Nat) : Prop :=
  ∃ track ∈ turn.pools.tracked ++ turn.pools.lost, track.id = id

/-- Which detections the tracks of a turn take. -/
structure Disciplined (settings : TrackerSettings α) (turn : Turn α) : Prop where
  /-- The reported tracks have taken a detection. -/
  reported : ∀ object ∈ turn.report.tracked, ∃ index score, object.sighting = some index ∧
    turn.Takes object.id index ∧ turn.Detects index score
  /-- A track that was lost or tentative takes a confident detection only. -/
  waiting : ∀ track ∈ turn.pools.tracked ++ turn.pools.lost, track.state = .lost ∨ track.state = .new →
    ∀ index score, turn.Takes track.id index → turn.Detects index score →
      settings.trackThreshold < score
  /-- A doubtful detection is taken by a track only that was tracked, and that takes no confident one. -/
  doubtful : ∀ id index score, turn.Takes id index → turn.Detects index score →
    settings.lowScoreFloor < score → score ≤ settings.trackThreshold →
      (∃ track ∈ turn.pools.tracked, track.id = id ∧ track.state = .tracked) ∧
        ∀ other otherScore, turn.Takes id other → turn.Detects other otherScore →
          ¬ settings.trackThreshold < otherScore
  /-- A new number is given for a confident detection above the threshold for new tracks, where that is a
  number, which no other track takes. -/
  created : ∀ id index score, ¬ turn.Knows id → turn.Takes id index → turn.Detects index score →
    settings.trackThreshold < score ∧ ¬ score ≤ settings.newTrackThreshold ∧
      (settings.newTrackThreshold ≤ settings.newTrackThreshold → settings.newTrackThreshold < score) ∧
        ∀ other, turn.Takes other index → other = id
  /-- The new numbers are those that come next, and each of them is given for a detection. -/
  numbered : ∀ id, turn.pools.nextId ≤ id ∧ id < turn.after.nextId ↔
    ¬ turn.Knows id ∧ ∃ index score, turn.Takes id index ∧ turn.Detects index score
  /-- Detections that are malformed or not above either threshold are not taken. -/
  ignored : ∀ (index : Nat) (observation : Observation α), turn.observations[index]? = some observation →
    observation.isWellFormed = false ∨ (observation.score ≤ settings.trackThreshold ∧
      observation.score ≤ settings.lowScoreFloor) → ∀ id, ¬ turn.Takes id index

theorem takes_of_seen {track : Track α} (member : track ∈ turn.seen) :
    ∃ index score, track.sighting = some index ∧ turn.Takes track.id index ∧ turn.Detects index score := by
  obtain ⟨index, place, detects⟩ := exists_detection member
  exact ⟨index, track.score, place, ⟨track, member, rfl, place⟩, detects⟩

omit [Scalar α] in
theorem lt_nextId_of_knows (standing : turn.pools.Standing removed) (known : turn.Knows id) :
    id < turn.pools.nextId := by
  obtain ⟨track, member, rfl⟩ := known
  refine standing.lt_nextId ?_
  rw [ids, ids, ← List.map_append]
  exact List.mem_map_of_mem member

omit [Scalar α] in
/-- A number stands for one track. -/
theorem eq_of_number (standing : turn.pools.Standing removed) {track other : Track α}
    (member : track ∈ turn.pools.tracked ++ turn.pools.lost)
    (another : other ∈ turn.pools.tracked ++ turn.pools.lost) (same : track.id = other.id) :
    track = other := by
  have distinct := (List.nodup_append.mp standing.nodup).1
  rw [ids, ids, ← List.map_append] at distinct
  exact List.inj_on_of_nodup_map distinct member another same

/-- A track takes one detection. -/
theorem index_of_takes (standing : turn.pools.Standing removed) {other : Nat}
    (takes : turn.Takes id index) (again : turn.Takes id other) : index = other := by
  obtain ⟨track, seen, number, place⟩ := takes
  obtain ⟨another, seenToo, same, placeToo⟩ := again
  have distinct : (ids turn.seen).Nodup :=
    (List.nodup_append.mp (List.nodup_append.mp (nodup_numbers standing)).1).1
  obtain rfl := List.inj_on_of_nodup_map distinct seen seenToo (number.trans same.symm)
  exact Option.some.inj (place.symm.trans placeToo)

theorem id_of_takes {other : Nat} (takes : turn.Takes id index) (also : turn.Takes other index) :
    other = id := by
  obtain ⟨track, seen, number, place⟩ := takes
  obtain ⟨another, seenToo, same, placeToo⟩ := also
  obtain rfl := List.inj_on_of_nodup_map (nodup_sighting_seen turn) seen seenToo
    (place.trans placeToo.symm)
  exact same.symm.trans number

theorem mem_ids_started (turn : Turn α) (id : Nat) :
    id ∈ ids turn.started ↔ turn.pools.nextId ≤ id ∧ id < turn.after.nextId := by
  have later : turn.after.nextId = turn.pools.nextId + turn.started.length := rfl
  have length : turn.started.length = (Tracker.seeds turn.pools.settings
      (turn.pools.associations turn.observations)).length := by
    simp [started, TrackPools.started, Tracker.begun]
  unfold started TrackPools.started at later length ⊢
  rw [ids_begun, List.mem_range'_1, later, length]

theorem detects_functional {other : α} (detects : turn.Detects index score)
    (again : turn.Detects index other) : other = score := by
  obtain ⟨observation, here, _, rfl⟩ := detects
  obtain ⟨another, there, _, rfl⟩ := again
  rw [Option.some.inj (here.symm.trans there)]

/-- What takes a detection and was not there before is one of the tracks that begin. -/
theorem begun_of_takes (standing : turn.pools.Standing removed) (unknown : ¬ turn.Knows id)
    (takes : turn.Takes id index) (detects : turn.Detects index score) :
    id ∈ ids turn.started ∧ turn.pools.settings.trackThreshold < score ∧
      ¬ score ≤ turn.pools.settings.newTrackThreshold := by
  cases band_of_takes standing.staged takes detects with
  | confident before member number _ => exact absurd ⟨before, member, number⟩ unknown
  | doubtful before member _ number _ _ =>
      exact absurd ⟨before, List.mem_append_left _ member, number⟩ unknown
  | begun new above seeds => exact ⟨new, above, seeds⟩

theorem exists_takes_of_started (new : id ∈ ids turn.started) :
    ∃ index score, turn.Takes id index ∧ turn.Detects index score := by
  obtain ⟨track, member, rfl⟩ := List.mem_map.mp new
  obtain ⟨index, score, _, takes, detects⟩ := takes_of_seen (List.mem_append_right _ member)
  exact ⟨index, score, takes, detects⟩

/-- Where numbers are ordered as they should be, each turn keeps the discipline. -/
theorem disciplined (apart : ∀ low high : α, low < high → ¬ high ≤ low)
    (total : ∀ score bound : α, Scalar.isFinite score = true → bound ≤ bound → ¬ score ≤ bound →
      bound < score)
    (standing : turn.pools.Standing removed) : Disciplined turn.pools.settings turn := by
  have unknown {id : Nat} (new : id ∈ ids turn.started) : ¬ turn.Knows id := fun known => by
    have before := lt_nextId_of_knows standing known
    have bound := (mem_ids_started turn id).mp new
    omega
  constructor
  case reported =>
    intro object member
    obtain ⟨track, inside, rfl⟩ := List.mem_map.mp member
    exact takes_of_seen ((perm_tracked_after turn.pools turn.frame turn.observations).subset
      (List.mem_append_left _ inside))
  case waiting =>
    intro track member state index score takes detects
    cases band_of_takes standing.staged takes detects with
    | confident _ _ _ above => exact above
    | doubtful before inside tracked number _ _ =>
        obtain rfl := eq_of_number standing (List.mem_append_left _ inside) member number
        rw [tracked] at state
        exact absurd state (by decide)
    | begun new _ _ => exact absurd ⟨track, member, rfl⟩ (unknown new)
  case doubtful =>
    intro id index score takes detects _ notAbove
    refine ⟨?_, fun other otherScore takesOther detectsOther => ?_⟩
    · cases band_of_takes standing.staged takes detects with
      | confident _ _ _ above => exact absurd notAbove (apart _ _ above)
      | doubtful before inside tracked number _ _ => exact ⟨before, inside, number, tracked⟩
      | begun _ above _ => exact absurd notAbove (apart _ _ above)
    · obtain rfl := index_of_takes standing takes takesOther
      rw [detects_functional detects detectsOther]
      exact fun above => apart _ _ above notAbove
  case created =>
    intro id index score new takes detects
    obtain ⟨_, above, seeds⟩ := begun_of_takes standing new takes detects
    refine ⟨above, seeds, fun number => ?_, fun other also => id_of_takes takes also⟩
    obtain ⟨observation, _, wellFormed, rfl⟩ := detects
    exact total _ _ (Observation.isFinite_score wellFormed) number seeds
  case numbered =>
    intro id
    rw [← mem_ids_started]
    constructor
    · exact fun new => ⟨unknown new, exists_takes_of_started new⟩
    · rintro ⟨new, index, score, takes, detects⟩
      exact (begun_of_takes standing new takes detects).1
  case ignored =>
    intro index observation here unfit id takes
    obtain ⟨track, seen, rfl, place⟩ := takes
    obtain ⟨index', score, place', takes, detects⟩ := takes_of_seen seen
    obtain rfl : index' = index := Option.some.inj (place'.symm.trans place)
    have band := band_of_takes standing.staged takes detects
    obtain ⟨other, there, wellFormed, rfl⟩ := detects
    obtain rfl := Option.some.inj (here.symm.trans there)
    rcases unfit with malformed | ⟨notAbove, notFloor⟩
    · rw [wellFormed] at malformed
      exact absurd malformed (by decide)
    · cases band with
      | confident _ _ _ above => exact apart _ _ above notAbove
      | doubtful _ _ _ _ _ above => exact apart _ _ above notFloor
      | begun _ above _ => exact apart _ _ above notAbove

/-- The pools of every turn are in order. -/
theorem exists_standing_of_mem_turns {pools : TrackPools α} (standing : pools.Standing removed)
    {inputs : List (Nat × List (Observation α))} (member : turn ∈ pools.turns inputs) :
    ∃ removed, turn.pools.Standing removed := by
  have preserved (before : TrackPools α) (frame : Nat) (observations : List (Observation α))
      (stands : ∃ removed, before.Standing removed) :
      ∃ removed, (before.after frame observations).Standing removed := by
    obtain ⟨removed, standing⟩ := stands
    exact ⟨_, standing_after standing frame observations⟩
  exact invariant_of_mem_turns preserved ⟨removed, standing⟩ member

end Turn

/-- In a valid configuration the threshold for new tracks is a number. -/
theorem TrackerConfig.newTrackThreshold_le_self {config : TrackerConfig} (valid : config.fault? = none)
    (fps : Float) :
    (config.settings fps).newTrackThreshold ≤ (config.settings fps).newTrackThreshold := by
  have listed : config.newTrackThreshold ∈ config.thresholds := by simp [thresholds]
  exact le_self_of_lt_single ((fault?_eq_none_iff.mp valid).thresholds _ listed).1

namespace Tracker

/-- Every turn of every run keeps the discipline, and a run reports its turns. -/
theorem disciplined_of_run (className : String) (settings : TrackerSettings Float32)
    (inputs : List (Nat × List (Observation Float32))) :
    ∃ last : Tracker Float32,
      (start className settings : Tracker Float32).run? inputs =
          some (last, ((TrackPools.start settings).turns inputs).map Turn.report) ∧
        ∀ turn ∈ (TrackPools.start settings).turns inputs, turn.Disciplined settings := by
  obtain ⟨last, ran⟩ := (followed_start (σ := Slots) className settings).run?_eq inputs
  refine ⟨last, ran, fun turn member => ?_⟩
  obtain ⟨removed, standing⟩ :=
    Turn.exists_standing_of_mem_turns (TrackPools.standing_start settings) member
  have kept : turn.pools.settings = settings := Turn.settings_of_mem_turns member
  exact kept ▸ Turn.disciplined not_le_of_lt_single lt_of_not_le_single standing

/-- A doubtful detection near the first one. -/
def fading : Observation Float32 := ⟨⟨11, 100, 51, 200⟩, .ofScientific 3 true 1⟩

/-- A confident detection with its sides the wrong way round. -/
def reversed : Observation Float32 := ⟨⟨400, 100, 300, 200⟩, .ofScientific 9 true 1⟩

/-- A confident detection begins a track, which takes a doubtful one on the next frame, where nothing takes
the malformed one. -/
theorem disciplined_of_run_fading :
    let settings := TrackerConfig.settings {} 10
    let turns := (TrackPools.start settings).turns [(1, [seenOnce]), (2, [fading, reversed])]
    ∃ first ∈ turns, ∃ second ∈ turns, first.frame = 1 ∧ second.frame = 2 ∧
      (first.Takes 1 0 ∧ first.Detects 0 seenOnce.score ∧ settings.newTrackThreshold < seenOnce.score) ∧
        (second.Takes 1 0 ∧ second.Detects 0 fading.score ∧
          settings.lowScoreFloor < fading.score ∧ fading.score ≤ settings.trackThreshold ∧
            ∃ track ∈ second.pools.tracked, track.id = 1 ∧ track.state = .tracked) ∧
          reversed.isWellFormed = false ∧ ∀ id, ¬ second.Takes id 1 := by
  intro settings turns
  let first : Turn Float32 := ⟨TrackPools.start settings, 1, [seenOnce]⟩
  let second : Turn Float32 := ⟨first.after, 2, [fading, reversed]⟩
  have earlier : first ∈ turns := List.mem_cons_self
  have later : second ∈ turns := List.mem_cons_of_mem _ (List.mem_singleton_self second)
  obtain ⟨_, _, keeps⟩ :=
    disciplined_of_run "person" settings [(1, [seenOnce]), (2, [fading, reversed])]
  have begins : first.Takes 1 0 := by
    unfold Turn.Takes
    decide +kernel
  have detects : first.Detects 0 seenOnce.score := ⟨seenOnce, rfl, by decide +kernel, rfl⟩
  have unknown : ¬ first.Knows 1 := by
    unfold Turn.Knows
    decide +kernel
  have valid : TrackerConfig.fault? {} = none := by decide +kernel
  have above := ((keeps first earlier).created 1 0 _ unknown begins detects).2.2.1
    (TrackerConfig.newTrackThreshold_le_self valid 10)
  have floor : settings.lowScoreFloor < fading.score := by decide +kernel
  have atMost : fading.score ≤ settings.trackThreshold := by decide +kernel
  have malformed : reversed.isWellFormed = false := by decide +kernel
  have takes : second.Takes 1 0 := by
    unfold Turn.Takes
    decide +kernel
  have fades : second.Detects 0 fading.score := ⟨fading, rfl, by decide +kernel, rfl⟩
  have disciplined := keeps second later
  exact ⟨first, earlier, second, later, rfl, rfl, ⟨begins, detects, above⟩,
    ⟨takes, fades, floor, atMost, (disciplined.doubtful 1 0 _ takes fades floor atMost).1⟩, malformed,
    disciplined.ignored 1 reversed rfl (Or.inl malformed)⟩

/-- A threshold for new tracks that is no number. -/
def unordered : TrackerConfig := { newTrackThreshold := Float32.ofBinaryValue .undefined }

/-- A track begins for a score that is not above such a threshold. No run is launched with one. -/
theorem begins_of_unordered :
    ∃ turn ∈ (TrackPools.start (unordered.settings 10)).turns [(1, [seenOnce])],
      ¬ turn.Knows 1 ∧ turn.Takes 1 0 ∧ turn.Detects 0 seenOnce.score ∧
        ¬ (unordered.settings 10).newTrackThreshold < seenOnce.score ∧
          unordered.fault?.isSome := by
  refine ⟨⟨TrackPools.start (unordered.settings 10), 1, [seenOnce]⟩, List.mem_cons_self, ?_, ?_,
    ⟨seenOnce, rfl, by decide +kernel, rfl⟩, by decide +kernel, by decide +kernel⟩
  · unfold Turn.Knows
    decide +kernel
  · unfold Turn.Takes
    decide +kernel

end Tracker

end ObjectQuery
