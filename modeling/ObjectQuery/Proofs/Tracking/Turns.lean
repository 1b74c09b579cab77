import ObjectQuery.Proofs.Tracking.Runs

/-!
# The turns of a run

A turn is one update of a run with the pools it starts from. Which tracks a turn continues, begins, loses
and gives up is told by their numbers: `perm_numbers` says that each of the tracks of a turn meets one of
these. `Remembered` is what the pools know of the turns before: the track of every number was last seen
on the last frame on which the number was matched.
-/

namespace ObjectQuery

open Storage

variable {α : Type} [Scalar α] {σ : Type → Type} [Storage σ]

/-- An update of a run. -/
structure Turn (α : Type) where
  /-- The tracks before the update. -/
  pools : TrackPools α
  frame : Nat
  observations : List (Observation α)

namespace TrackPools

/-- The updates that begin with given pools. -/
def turns (pools : TrackPools α) : List (Nat × List (Observation α)) → List (Turn α)
  | [] => []
  | (frame, observations) :: rest =>
      ⟨pools, frame, observations⟩ :: (pools.after frame observations).turns rest

/-- What an update preserves is so before every turn. -/
theorem invariant_of_mem_turns {invariant : TrackPools α → Prop}
    (preserved : ∀ pools frame observations, invariant pools → invariant (pools.after frame observations))
    {pools : TrackPools α} (holds : invariant pools) {inputs : List (Nat × List (Observation α))}
    {turn : Turn α} (member : turn ∈ pools.turns inputs) : invariant turn.pools := by
  induction inputs generalizing pools with
  | nil => exact absurd member List.not_mem_nil
  | cons input rest inductionHypothesis =>
      rcases List.mem_cons.mp member with rfl | later
      · exact holds
      · exact inductionHypothesis (preserved pools input.1 input.2 holds) later

end TrackPools

namespace Turn

open TrackPools

def after (turn : Turn α) : TrackPools α := turn.pools.after turn.frame turn.observations

def report (turn : Turn α) : TrackerReport α := turn.pools.report turn.frame turn.observations

/-- The tracks that begin. -/
def started (turn : Turn α) : List (Track α) := turn.pools.started turn.frame turn.observations

/-- The numbers of the tracks that a detection continues or begins. -/
def matched (turn : Turn α) : List Nat := ids (turn.pools.active turn.frame turn.observations)

/-- The confirmed tracks without a detection. -/
def absent (turn : Turn α) : List (Track α) := turn.pools.absent turn.observations

/-- The numbers of the tentative tracks without a detection. -/
def unconfirmed (turn : Turn α) : List Nat :=
  ids (turn.pools.associations turn.observations).third.leftRows

/-- The numbers of the tracks that are given up in favour of one close by. -/
def duplicates (turn : Turn α) : List Nat :=
  let kept := turn.pools.kept turn.frame turn.observations
  ids (Tracker.separate (turn.pools.active turn.frame turn.observations) kept.1).2 ++
    ids (Tracker.separate (turn.pools.waiting turn.frame turn.observations) kept.2).2

variable {turn : Turn α} {track : Track α} {removed : List Nat}

theorem removed_report (turn : Turn α) :
    turn.report.removed =
      turn.unconfirmed ++ ids (turn.pools.expired turn.frame turn.observations) ++
        turn.duplicates := by
  simp [report, TrackPools.report, ended, unconfirmed, duplicates, ids]

theorem map_id_tracked_report (turn : Turn α) :
    turn.report.tracked.map TrackReport.id = ids turn.after.tracked :=
  tracked_report turn.pools turn.frame turn.observations

theorem map_id_lost_report (turn : Turn α) :
    turn.report.lost.map TrackReport.id = ids turn.after.lost :=
  lost_report turn.pools turn.frame turn.observations

/-! ## What becomes of the tracks of a turn -/

theorem reported_or_duplicate
    (active : track ∈ turn.pools.active turn.frame turn.observations) :
    track ∈ turn.after.tracked ∨ track.id ∈ turn.duplicates := by
  rcases List.mem_append.mp ((perm_tracked_after turn.pools turn.frame turn.observations).symm.subset
    active) with kept | given
  · exact Or.inl kept
  · exact Or.inr (List.mem_append_left _ (List.mem_map_of_mem given))

theorem lost_or_duplicate
    (waiting : track ∈ turn.pools.waiting turn.frame turn.observations) :
    track ∈ turn.after.lost ∨ track.id ∈ turn.duplicates := by
  rcases List.mem_append.mp ((perm_lost_after turn.pools turn.frame turn.observations).symm.subset
    waiting) with kept | given
  · exact Or.inl kept
  · exact Or.inr (List.mem_append_right _ (List.mem_map_of_mem given))

theorem matched_of_mem_tracked (member : track ∈ turn.after.tracked) :
    track.id ∈ turn.matched :=
  List.mem_map_of_mem ((perm_tracked_after turn.pools turn.frame turn.observations).subset
    (List.mem_append_left _ member))

theorem waiting_of_mem_lost (member : track ∈ turn.after.lost) :
    track ∈ turn.pools.waiting turn.frame turn.observations :=
  (perm_lost_after turn.pools turn.frame turn.observations).subset (List.mem_append_left _ member)

theorem absent_of_mem_lost (member : track ∈ turn.after.lost) : track ∈ turn.absent :=
  absent_of_mem_lost_after member

/-- The tracks of a turn and the new ones are seen, lost or not confirmed, none in two ways. -/
theorem perm_numbers (staged : turn.pools.Staged) :
    (turn.matched ++ ids turn.absent ++ turn.unconfirmed).Perm
      (ids turn.pools.tracked ++ ids turn.pools.lost ++
        List.range' turn.pools.nextId turn.started.length) :=
  perm_ids_active staged turn.frame turn.observations

theorem nodup_numbers (standing : turn.pools.Standing removed) :
    (turn.matched ++ ids turn.absent ++ turn.unconfirmed).Nodup := by
  rw [(perm_numbers standing.staged).nodup_iff]
  refine List.nodup_append.mpr ⟨(List.nodup_append.mp standing.nodup).1, List.nodup_range', ?_⟩
  intro id known other new same
  have before := standing.lt_nextId known
  have bound := (List.mem_range'_1.mp new).1
  omega

theorem not_absent_of_matched (standing : turn.pools.Standing removed) {id : Nat}
    (matched : id ∈ turn.matched) :
    id ∉ ids turn.absent := by
  intro absent
  have distinct := (List.nodup_append.mp (nodup_numbers standing)).1
  exact (List.nodup_append.mp distinct).2.2 id matched id absent rfl

theorem not_absent_of_unconfirmed (standing : turn.pools.Standing removed) {id : Nat}
    (unconfirmed : id ∈ turn.unconfirmed) :
    id ∉ ids turn.absent := by
  intro absent
  exact (List.nodup_append.mp (nodup_numbers standing)).2.2 id (List.mem_append_right _ absent) id
    unconfirmed rfl

theorem lt_nextId_of_matched (standing : turn.pools.Standing removed) {id : Nat}
    (matched : id ∈ turn.matched) :
    id < turn.after.nextId := by
  have known := (perm_numbers standing.staged).subset
    (List.mem_append_left _ (List.mem_append_left _ matched))
  have later : turn.after.nextId = turn.pools.nextId + turn.started.length := rfl
  rw [later]
  rcases List.mem_append.mp known with before | new
  · exact Nat.lt_add_right _ (standing.lt_nextId before)
  · exact (List.mem_range'_1.mp new).2

theorem matched_or_absent (staged : turn.pools.Staged)
    (known : track ∈ turn.pools.tracked ++ turn.pools.lost) (confirmed : track.confirmed = true) :
    track.id ∈ turn.matched ∨
      ∃ gone ∈ turn.absent, gone.id = track.id ∧ gone.lastFrame = track.lastFrame := by
  let passed := turn.pools.associations turn.observations
  have inPool : track.unsighted.predict ∈ turn.pools.pool := by
    apply List.mem_map_of_mem
    rcases List.mem_append.mp known with tracked | lost
    · exact List.mem_append_left _ (List.mem_filter.mpr ⟨tracked, confirmed⟩)
    · exact List.mem_append_right _ lost
  have first : (passed.first.matched.map Prod.fst ++ passed.first.leftRows).Perm turn.pools.pool :=
    Pairing.perm_rows ..
  have second : (passed.second.matched.map Prod.fst ++ passed.second.leftRows).Perm
      (passed.first.leftRows.filter fun track => track.state = .tracked) :=
    Pairing.perm_rows ..
  have seen (row : Track α) (inside : row ∈ (Tracker.continued passed).map Prod.fst) :
      row.id ∈ turn.matched := by
    unfold matched
    rw [ids_active]
    exact List.mem_append_left _ (List.mem_map_of_mem inside)
  unfold Tracker.continued at seen
  rw [List.map_append, List.map_append] at seen
  rcases List.mem_append.mp (first.symm.subset inPool) with found | left
  · exact Or.inl (seen track.unsighted.predict
      (List.mem_append_left _ (List.mem_append_left _ found)))
  · -- what the first pairing leaves is paired again only if it has not been lost already
    rcases (confirmed_of_mem_pool staged inPool).2 with tracked | lost
    · have remaining : track.unsighted.predict ∈
          passed.first.leftRows.filter fun track => track.state = .tracked :=
        List.mem_filter.mpr ⟨left, decide_eq_true tracked⟩
      rcases List.mem_append.mp (second.symm.subset remaining) with found | left
      · exact Or.inl (seen track.unsighted.predict
          (List.mem_append_left _ (List.mem_append_right _ found)))
      · exact Or.inr ⟨_, List.mem_append_right _ (List.mem_map_of_mem left), rfl, rfl⟩
    · exact Or.inr ⟨_, List.mem_append_left _
        (List.mem_filter.mpr ⟨left, decide_eq_true lost⟩), rfl, rfl⟩

theorem observed_or_unconfirmed (member : track ∈ turn.pools.tracked)
    (tentative : track.confirmed = false) :
    (∃ sighting, track.unsighted.observe turn.frame sighting ∈
        turn.pools.active turn.frame turn.observations) ∨
      track.id ∈ turn.unconfirmed := by
  let passed := turn.pools.associations turn.observations
  have inside : track.unsighted ∈ turn.pools.tentative :=
    List.mem_map_of_mem (List.mem_filter.mpr ⟨member, by rw [tentative]; rfl⟩)
  have third : (passed.third.matched.map Prod.fst ++ passed.third.leftRows).Perm
      turn.pools.tentative :=
    Pairing.perm_rows ..
  rcases List.mem_append.mp (third.symm.subset inside) with found | left
  · obtain ⟨pair, listed, same⟩ := List.mem_map.mp found
    have seen : pair.1.observe turn.frame pair.2 ∈
        turn.pools.active turn.frame turn.observations :=
      List.mem_append_left _ (List.mem_map.mpr ⟨pair, List.mem_append_right _ listed, rfl⟩)
    rw [same] at seen
    exact Or.inl ⟨pair.2, seen⟩
  · have listed : track.unsighted.id ∈ turn.unconfirmed := List.mem_map_of_mem left
    exact Or.inr listed

theorem exists_of_mem_absent {gone : Track α} (member : gone ∈ turn.absent) :
    ∃ track ∈ turn.pools.tracked ++ turn.pools.lost,
      track.id = gone.id ∧ track.lastFrame = gone.lastFrame := by
  have pooled : ∃ row ∈ turn.pools.pool, row.id = gone.id ∧ row.lastFrame = gone.lastFrame := by
    rcases lost_or_marked_of_absent member with ⟨inPool, _⟩ | ⟨row, inPool, rfl⟩
    · exact ⟨gone, inPool, rfl, rfl⟩
    · exact ⟨row, inPool, rfl, rfl⟩
  obtain ⟨row, inPool, number, date⟩ := pooled
  obtain ⟨track, inside, rfl⟩ := List.mem_map.mp inPool
  exact ⟨track, (List.filter_sublist.append_right turn.pools.lost).subset inside, number, date⟩

/-- What is seen has been there before or begins. -/
theorem exists_of_matched {id : Nat} (matched : id ∈ turn.matched) :
    (∃ track ∈ turn.pools.tracked ++ turn.pools.lost, track.id = id) ∨
      ∃ track ∈ turn.started, track.id = id := by
  obtain ⟨track, active, rfl⟩ := List.mem_map.mp matched
  rcases List.mem_append.mp active with continued | new
  · left
    obtain ⟨pair, listed, rfl⟩ := List.mem_map.mp continued
    rcases pool_or_tentative_of_continued listed with inside | inside
    · obtain ⟨track, member, same⟩ := List.mem_map.mp inside
      have number : track.unsighted.predict.id = pair.1.id := congrArg Track.id same
      exact ⟨track, (List.filter_sublist.append_right turn.pools.lost).subset member, number⟩
    · obtain ⟨track, member, same⟩ := List.mem_map.mp inside
      have number : track.unsighted.id = pair.1.id := congrArg Track.id same
      exact ⟨track, List.mem_append_left _ (List.mem_filter.mp member).1, number⟩
  · exact Or.inr ⟨track, new, rfl⟩

theorem nextId_le_of_mem_started (member : track ∈ turn.started) :
    turn.pools.nextId ≤ track.id := by
  have numbered : track.id ∈ ids turn.started := List.mem_map_of_mem member
  unfold started TrackPools.started at numbered
  rw [ids_begun] at numbered
  exact (List.mem_range'_1.mp numbered).1

theorem state_of_mem_started (member : track ∈ turn.started) :
    track.state = if turn.pools.frameCount = 0 then .tracked else .new := by
  obtain ⟨entry, _, rfl⟩ := List.mem_map.mp member
  simp [Track.start]

theorem not_removed_of_live (standing : turn.pools.Standing removed) {id : Nat}
    (live : id ∈ ids turn.after.tracked ++ ids turn.after.lost) :
    id ∉ turn.report.removed := by
  intro gone
  have distinct := (standing_after standing turn.frame turn.observations).nodup
  exact (List.nodup_append.mp distinct).2.2 id live id (List.mem_append_right _ gone) rfl

end Turn

/-! ## What the pools know of the turns before -/

/-- The last of the turns that match a number is on a given frame. -/
def LastMatched (turns : List (Turn α)) (id frame : Nat) : Prop :=
  (∃ turn ∈ turns, turn.frame = frame ∧ id ∈ turn.matched) ∧
    ∀ later ∈ turns, frame < later.frame → id ∉ later.matched

namespace LastMatched

variable {turns : List (Turn α)} {turn : Turn α} {id frame : Nat}

theorem functional {other : Nat} (last : LastMatched turns id frame)
    (another : LastMatched turns id other) :
    frame = other := by
  obtain ⟨⟨turn, member, rfl, matched⟩, later⟩ := last
  obtain ⟨⟨second, secondMember, rfl, secondMatched⟩, secondLater⟩ := another
  rcases Nat.lt_trichotomy turn.frame second.frame with before | same | beyond
  · exact absurd secondMatched (later second secondMember before)
  · exact same
  · exact absurd matched (secondLater turn member beyond)

theorem concat (last : LastMatched turns id frame) (unmatched : id ∉ turn.matched) :
    LastMatched (turns ++ [turn]) id frame := by
  obtain ⟨⟨source, member, date, matched⟩, later⟩ := last
  refine ⟨⟨source, List.mem_append_left _ member, date, matched⟩, ?_⟩
  intro other listed beyond
  rcases List.mem_append.mp listed with old | here
  · exact later other old beyond
  · rw [List.mem_singleton.mp here]
    exact unmatched

theorem here (ahead : ∀ earlier ∈ turns, earlier.frame < turn.frame) (matched : id ∈ turn.matched) :
    LastMatched (turns ++ [turn]) id turn.frame := by
  refine ⟨⟨turn, by simp, rfl, matched⟩, ?_⟩
  intro other listed beyond
  rcases List.mem_append.mp listed with old | here
  · have before := ahead other old
    omega
  · rw [List.mem_singleton.mp here] at beyond
    omega

end LastMatched

/-- What holds of pools after turns on consecutive frames, the next of which is to come. -/
structure Remembered (patience : Nat) (past : List (Turn α)) (pools : TrackPools α) (next : Nat) :
    Prop where
  patience_eq : pools.settings.maxTimeLost = patience
  standing : ∃ removed, pools.Standing removed
  count : pools.frameCount = past.length
  ahead : ∀ turn ∈ past, turn.frame < next
  given : ∀ turn ∈ past, ∀ id ∈ turn.matched, id < pools.nextId
  remembers : ∀ track ∈ pools.tracked ++ pools.lost, LastMatched past track.id track.lastFrame
  tracked : ∀ track ∈ pools.tracked, track.lastFrame + 1 = next
  lost : ∀ track ∈ pools.lost, track.lastFrame + 1 < next ∧ next ≤ track.lastFrame + patience

namespace Remembered

open TrackPools

variable {patience next : Nat} {past : List (Turn α)} {turn : Turn α}

theorem start (settings : TrackerSettings α) (first : Nat) :
    Remembered settings.maxTimeLost [] (TrackPools.start settings) first where
  patience_eq := rfl
  standing := ⟨[], standing_start settings⟩
  count := rfl
  ahead := fun _ member => absurd member List.not_mem_nil
  given := fun _ member => absurd member List.not_mem_nil
  remembers := fun _ member => absurd member List.not_mem_nil
  tracked := fun _ member => absurd member List.not_mem_nil
  lost := fun _ member => absurd member List.not_mem_nil

theorem seenBefore {pools : TrackPools α} (remembered : Remembered patience past pools next) :
    pools.SeenBefore next := by
  intro track member
  rcases List.mem_append.mp member with tracked | lost
  · have date := remembered.tracked track tracked
    omega
  · have date := (remembered.lost track lost).1
    omega

/-- A track that is missed and waited for. -/
theorem date_of_mem_lost (remembered : Remembered patience past turn.pools turn.frame)
    {track : Track α} (member : track ∈ turn.after.lost) :
    track.lastFrame < turn.frame ∧ turn.frame < track.lastFrame + patience := by
  have waited := (List.mem_filter.mp (Turn.waiting_of_mem_lost member)).2
  have before := (unseen_of_mem_lost_after remembered.seenBefore member).1
  unfold Tracker.isExpired at waited
  rw [remembered.patience_eq] at waited
  simp only [Bool.not_eq_true', decide_eq_false_iff_not] at waited
  omega

theorem step (remembered : Remembered patience past turn.pools turn.frame) :
    Remembered patience (past ++ [turn]) turn.after (turn.frame + 1) := by
  obtain ⟨removed, standing⟩ := remembered.standing
  constructor
  · exact remembered.patience_eq
  · exact ⟨_, standing_after standing turn.frame turn.observations⟩
  · rw [List.length_append, ← remembered.count]
    rfl
  · intro other member
    rcases List.mem_append.mp member with old | here
    · exact Nat.lt_succ_of_lt (remembered.ahead other old)
    · rw [List.mem_singleton.mp here]
      exact Nat.lt_succ_self _
  · intro other member id matched
    rcases List.mem_append.mp member with old | here
    · exact Nat.lt_add_right _ (remembered.given other old id matched)
    · rw [List.mem_singleton.mp here] at matched
      exact Turn.lt_nextId_of_matched standing matched
  · intro track member
    rcases List.mem_append.mp member with tracked | lost
    · rw [(seen_of_mem_tracked_after tracked).1]
      exact LastMatched.here remembered.ahead (Turn.matched_of_mem_tracked tracked)
    · -- a missed track keeps its date, and its number is not matched by another
      have absent := Turn.absent_of_mem_lost lost
      obtain ⟨before, known, number, date⟩ := Turn.exists_of_mem_absent absent
      have last := remembered.remembers before known
      rw [number, date] at last
      apply last.concat
      intro matched
      exact Turn.not_absent_of_matched standing matched (List.mem_map_of_mem absent)
  · intro track member
    rw [(seen_of_mem_tracked_after member).1]
  · intro track member
    have date := remembered.date_of_mem_lost member
    omega

end Remembered

/-! ## Turns in a row -/

namespace Turn

/-- Turns on consecutive frames, each of which starts from what the one before has left. -/
def Linked (pools : TrackPools α) (next : Nat) : List (Turn α) → Prop
  | [] => True
  | turn :: rest => turn.pools = pools ∧ turn.frame = next ∧ Linked turn.after (next + 1) rest

theorem linked_turns {pools : TrackPools α} {inputs : List (Nat × List (Observation α))} {next : Nat}
    (steady : inputs.map Prod.fst = List.range' next inputs.length) :
    Linked pools next (pools.turns inputs) := by
  induction inputs generalizing pools next with
  | nil => trivial
  | cons input rest inductionHypothesis =>
      obtain ⟨frame, observations⟩ := input
      rw [List.map_cons, List.length_cons, List.range'_succ] at steady
      obtain ⟨here, later⟩ := List.cons.inj steady
      exact ⟨rfl, here, inductionHypothesis later⟩

/-- What is known before a turn, and the turns after it. -/
theorem remembered_of_linked
    {patience next : Nat} {past done rest : List (Turn α)} {pools : TrackPools α} {turn : Turn α}
    (remembered : Remembered patience past pools next)
    (linked : Linked pools next (done ++ turn :: rest)) :
    Remembered patience (past ++ done) turn.pools turn.frame ∧
      Linked turn.after (turn.frame + 1) rest := by
  induction done generalizing past pools next with
  | nil =>
      obtain ⟨rfl, rfl, linked⟩ := linked
      rw [List.append_nil]
      exact ⟨remembered, linked⟩
  | cons first done inductionHypothesis =>
      obtain ⟨rfl, rfl, linked⟩ := linked
      have later := inductionHypothesis remembered.step linked
      rwa [List.append_assoc] at later

end Turn

/-- The reports of a run are those of its turns. -/
theorem Tracker.Followed.run?_eq [LawfulStorage σ]
    {tracker : Tracker α σ} {reports : List (TrackerReport α)} {frames : List Nat}
    {pools : TrackPools α} {tracked lost : List (Nat × Track α)}
    (followed : tracker.Followed reports frames pools tracked lost)
    (inputs : List (Nat × List (Observation α))) :
    ∃ last, tracker.run? inputs = some (last, (pools.turns inputs).map Turn.report) := by
  induction inputs generalizing tracker reports frames pools tracked lost with
  | nil => exact ⟨tracker, rfl⟩
  | cons input rest inductionHypothesis =>
      obtain ⟨frame, observations⟩ := input
      obtain ⟨after, tracked', lost', updated, followed⟩ :=
        followed_update followed frame observations
      obtain ⟨last, ran⟩ := inductionHypothesis followed
      refine ⟨last, ?_⟩
      simp [Tracker.run?, updated, ran, TrackPools.turns, Turn.report]

end ObjectQuery
