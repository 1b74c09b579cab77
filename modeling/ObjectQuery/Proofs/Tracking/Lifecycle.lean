import ObjectQuery.Proofs.Tracking.Turns

/-!
# The life of a track

A track begins tentative, unless on the first frame, and its second frame confirms or ends it. A confirmed
track that is not seen is lost for as long as the tracker is patient, and ends on the very frame on which
its patience is over. A detection on that frame still saves it: tracks are matched before they expire.
-/

namespace ObjectQuery

open TrackPools

variable {α : Type} [Scalar α]

/-! ## After the last match -/

/-- Where a confirmed track last seen on a frame stands afterwards: it is waited for, or it has been
given up. -/
inductive Fate (patience : Nat) (pools : TrackPools α) (next id seen : Nat) : Prop where
  | waiting (track : Track α) (known : track ∈ pools.tracked ++ pools.lost)
      (confirmed : track.confirmed = true) (number : track.id = id) (date : track.lastFrame = seen)
  | ended (given : id < pools.nextId) (absent : id ∉ ids pools.tracked ++ ids pools.lost)
      (late : seen + patience < next)

namespace Fate

variable {patience next id seen : Nat} {past : List (Turn α)} {turn : Turn α}

/-- A turn that neither sees a track that is waited for nor takes it for a duplicate. -/
theorem step_waiting (remembered : Remembered patience past turn.pools turn.frame)
    {track : Track α} (known : track ∈ turn.pools.tracked ++ turn.pools.lost)
    (patient : 1 ≤ patience) (confirmed : track.confirmed = true)
    (unmatched : track.id ∉ turn.matched) (single : track.id ∉ turn.duplicates) :
    (turn.frame < track.lastFrame + patience ∧
        ∃ gone ∈ turn.after.lost, gone.id = track.id ∧ gone.lastFrame = track.lastFrame) ∨
      (turn.frame = track.lastFrame + patience ∧ track.id ∈ turn.report.removed) := by
  obtain ⟨removed, standing⟩ := remembered.standing
  -- it has not expired so far, so that it can do so on the last frame of its patience only
  have inTime : turn.frame ≤ track.lastFrame + patience := by
    rcases List.mem_append.mp known with tracked | lost
    · have date := remembered.tracked track tracked
      omega
    · exact (remembered.lost track lost).2
  rcases Turn.matched_or_absent standing.staged known confirmed with matched | absent
  · exact absurd matched unmatched
  · obtain ⟨gone, absent, number, date⟩ := absent
    cases expires : Tracker.isExpired turn.pools.settings turn.frame gone with
    | true =>
        have expired : gone ∈ turn.pools.expired turn.frame turn.observations :=
          List.mem_filter.mpr ⟨absent, expires⟩
        have late := of_decide_eq_true expires
        rw [remembered.patience_eq, date] at late
        right
        constructor
        · omega
        · rw [Turn.removed_report, ← number]
          apply List.mem_append_left
          exact List.mem_append_right _ (List.mem_map_of_mem expired)
    | false =>
        have waiting : gone ∈ turn.pools.waiting turn.frame turn.observations :=
          List.mem_filter.mpr ⟨absent, by rw [expires]; rfl⟩
        have lost : gone ∈ turn.after.lost := by
          rcases Turn.lost_or_duplicate waiting with lost | duplicate
          · exact lost
          · rw [number] at duplicate
            exact absurd duplicate single
        have waited := (remembered.date_of_mem_lost lost).2
        rw [date] at waited
        exact Or.inl ⟨waited, gone, lost, number, date⟩

/-- What has been given up is not in a later report. -/
theorem step_ended (remembered : Remembered patience past turn.pools turn.frame)
    (given : id < turn.pools.nextId) (absent : id ∉ ids turn.pools.tracked ++ ids turn.pools.lost) :
    id ∉ ids turn.after.tracked ++ ids turn.after.lost ∧ id ∉ turn.report.removed := by
  obtain ⟨removed, standing⟩ := remembered.standing
  have unknown : id ∉ ids turn.pools.tracked ++ ids turn.pools.lost ++
      List.range' turn.pools.nextId turn.started.length := by
    intro member
    rcases List.mem_append.mp member with known | new
    · exact absent known
    · have bound := (List.mem_range'_1.mp new).1
      omega
  have missing := fun member =>
    unknown ((perm_ids_after standing.staged turn.frame turn.observations).subset member)
  constructor
  · intro live
    exact missing (List.mem_append_left _ live)
  · intro gone
    exact missing (List.mem_append_right _ gone)

/-- What a turn reports of a number it does not match. -/
structure Tells (patience : Nat) (turn : Turn α) (id seen : Nat) : Prop where
  lost : id ∈ turn.report.lost.map TrackReport.id ↔ turn.frame < seen + patience
  removed : id ∈ turn.report.removed ↔ turn.frame = seen + patience

/-- A turn after which the number stands where it has to. -/
theorem step (fate : Fate patience turn.pools turn.frame id seen) (patient : 1 ≤ patience)
    (remembered : Remembered patience past turn.pools turn.frame)
    (unmatched : id ∉ turn.matched) (single : id ∉ turn.duplicates) :
    Fate patience turn.after (turn.frame + 1) id seen ∧ Tells patience turn id seen := by
  obtain ⟨removed, standing⟩ := remembered.standing
  have later := remembered.step
  have reported := turn.map_id_lost_report
  cases fate with
  | waiting track known confirmed number date =>
      subst number date
      rcases step_waiting remembered known patient confirmed unmatched single with
        ⟨inTime, gone, lost, number, date⟩ | ⟨late, given⟩
      · have listed : track.id ∈ ids turn.after.lost := number ▸ List.mem_map_of_mem lost
        have kept := Turn.not_removed_of_live standing (List.mem_append_right _ listed)
        have missing := (staged_after standing.staged turn.frame turn.observations).lost gone lost
        refine ⟨.waiting gone (List.mem_append_right _ lost) missing.2 number date, ?_, ?_⟩
        · rw [reported]
          exact iff_of_true listed inTime
        · exact iff_of_false kept (Nat.ne_of_lt inTime)
      · have absent := fun live => Turn.not_removed_of_live standing live given
        have issued : track.id < turn.after.nextId := by
          apply Nat.lt_add_right
          apply standing.lt_nextId
          rw [ids, ids, ← List.map_append]
          exact List.mem_map_of_mem known
        refine ⟨.ended issued absent (by omega), ?_, ?_⟩
        · rw [reported]
          exact iff_of_false (fun lost => absent (List.mem_append_right _ lost)) (by omega)
        · exact iff_of_true given late
  | ended given absent late =>
      obtain ⟨gone, silent⟩ := step_ended remembered given absent
      refine ⟨.ended (Nat.lt_add_right _ given) gone (by omega), ?_, ?_⟩
      · rw [reported]
        exact iff_of_false (fun lost => gone (List.mem_append_right _ lost)) (by omega)
      · exact iff_of_false silent (by omega)

/-- Turns in a row that do not match the number, and the last of them. -/
theorem tells (patient : 1 ≤ patience) {pools : TrackPools α}
    (fate : Fate patience pools next id seen) (remembered : Remembered patience past pools next)
    {between rest : List (Turn α)} (linked : Turn.Linked pools next (between ++ turn :: rest))
    (unmatched : ∀ later ∈ between ++ [turn], id ∉ later.matched ∧ id ∉ later.duplicates) :
    Tells patience turn id seen := by
  -- `Fate` is what the turns between preserve
  induction between generalizing past pools next with
  | nil =>
      obtain ⟨rfl, rfl, _⟩ := linked
      obtain ⟨absent, single⟩ := unmatched turn (by simp)
      exact (fate.step patient remembered absent single).2
  | cons first between inductionHypothesis =>
      obtain ⟨rfl, rfl, linked⟩ := linked
      obtain ⟨absent, single⟩ := unmatched first (by simp)
      have stepped := fate.step patient remembered absent single
      apply inductionHypothesis stepped.1 remembered.step linked
      intro later member
      exact unmatched later (List.mem_cons_of_mem first member)

end Fate

/-! ## Whole lives -/

/-- What the reports of turns on consecutive frames tell of the tracks. -/
structure Lifecycle (patience : Nat) (turns : List (Turn α)) : Prop where
  /-- What is matched is reported as tracked, unless it is a duplicate, and duplicates are removed. -/
  sees : ∀ turn ∈ turns, (∀ report ∈ turn.report.tracked, report.id ∈ turn.matched) ∧
    (∀ id ∈ turn.matched, id ∈ turn.report.tracked.map TrackReport.id ∨ id ∈ turn.duplicates) ∧
      ∀ id ∈ turn.duplicates, id ∈ turn.report.removed
  /-- A track that begins on the first of the turns is tracked, any other is new; it is reported, unless
  it is a duplicate. -/
  begins : ∀ done turn rest, turns = done ++ turn :: rest → ∀ id ∈ turn.matched,
    (∀ earlier ∈ done, id ∉ earlier.matched) →
      ∃ track ∈ turn.started, track.id = id ∧
        track.state = (if done.isEmpty then .tracked else .new) ∧
          (Tracker.reportOf track ∈ turn.report.tracked ∨ id ∈ turn.duplicates)
  /-- A new track is tracked or removed by the next turn, and not lost. -/
  settles : ∀ done turn next rest, turns = done ++ turn :: next :: rest →
    ∀ report ∈ turn.report.tracked, report.state = .new →
      ((∃ later ∈ next.report.tracked, later.id = report.id ∧ later.state = .tracked) ∨
        report.id ∈ next.report.removed) ∧
        report.id ∉ next.report.lost.map TrackReport.id
  /-- A lost track has been matched before, less than the patience ago. -/
  waits : ∀ done turn rest, turns = done ++ turn :: rest →
    ∀ id ∈ turn.report.lost.map TrackReport.id,
      ∃ seen, LastMatched (done ++ [turn]) id seen ∧ 1 ≤ turn.frame - seen ∧
        turn.frame - seen < patience
  /-- Two successive matches of a track are no further apart than the patience. -/
  returns : ∀ done turn rest, turns = done ++ turn :: rest → ∀ id ∈ turn.matched,
    ∀ seen, LastMatched done id seen → turn.frame - seen ≤ patience
  /-- A track that is tracked, then not matched and no duplicate up to a turn is lost there as long as
  the patience is not over, and removed on the frame on which it is. -/
  ends : ∀ done turn between last rest, turns = done ++ turn :: (between ++ last :: rest) →
    ∀ report ∈ turn.report.tracked, report.state = .tracked →
      (∀ later ∈ between ++ [last],
        report.id ∉ later.matched ∧ report.id ∉ later.duplicates) →
        Fate.Tells patience last report.id turn.frame

section Facts

variable {patience : Nat} {past : List (Turn α)} {turn next : Turn α}

theorem Turn.sees (turn : Turn α) :
    (∀ report ∈ turn.report.tracked, report.id ∈ turn.matched) ∧
      (∀ id ∈ turn.matched,
        id ∈ turn.report.tracked.map TrackReport.id ∨ id ∈ turn.duplicates) ∧
        ∀ id ∈ turn.duplicates, id ∈ turn.report.removed := by
  refine ⟨?_, ?_, ?_⟩
  · intro report member
    obtain ⟨track, inside, rfl⟩ := List.mem_map.mp member
    exact Turn.matched_of_mem_tracked inside
  · intro id matched
    obtain ⟨track, active, rfl⟩ := List.mem_map.mp matched
    rcases Turn.reported_or_duplicate active with kept | duplicate
    · rw [turn.map_id_tracked_report]
      exact Or.inl (List.mem_map_of_mem kept)
    · exact Or.inr duplicate
  · intro id duplicate
    rw [Turn.removed_report]
    exact List.mem_append_right _ duplicate

theorem Remembered.begins (remembered : Remembered patience past turn.pools turn.frame) {id : Nat}
    (matched : id ∈ turn.matched) (fresh : ∀ earlier ∈ past, id ∉ earlier.matched) :
    ∃ track ∈ turn.started, track.id = id ∧
      track.state = (if past.isEmpty then .tracked else .new) ∧
        (Tracker.reportOf track ∈ turn.report.tracked ∨ id ∈ turn.duplicates) := by
  rcases Turn.exists_of_matched matched with known | begins
  · obtain ⟨track, inside, rfl⟩ := known
    obtain ⟨earlier, member, _, already⟩ := (remembered.remembers track inside).1
    exact absurd already (fresh earlier member)
  · obtain ⟨track, new, rfl⟩ := begins
    refine ⟨track, new, rfl, ?_, ?_⟩
    · rw [Turn.state_of_mem_started new, remembered.count]
      cases past <;> rfl
    · rcases Turn.reported_or_duplicate (List.mem_append_right _ new) with kept | duplicate
      · exact Or.inl (List.mem_map_of_mem kept)
      · exact Or.inr duplicate

theorem Remembered.settles (remembered : Remembered patience past next.pools next.frame)
    {track : Track α} (member : track ∈ next.pools.tracked) (tentative : track.state = .new) :
    ((∃ later ∈ next.report.tracked, later.id = track.id ∧ later.state = .tracked) ∨
      track.id ∈ next.report.removed) ∧
      track.id ∉ next.report.lost.map TrackReport.id := by
  obtain ⟨removed, standing⟩ := remembered.standing
  have notLost {id : Nat} (present : id ∉ ids next.absent) :
      id ∉ next.report.lost.map TrackReport.id := by
    rw [next.map_id_lost_report]
    intro lost
    obtain ⟨gone, inside, rfl⟩ := List.mem_map.mp lost
    exact present (List.mem_map_of_mem (Turn.absent_of_mem_lost inside))
  have unconfirmed : track.confirmed = false := by
    rcases standing.staged.tracked track member with ⟨_, unconfirmed⟩ | ⟨tracked, _⟩
    · exact unconfirmed
    · rw [tentative] at tracked
      exact absurd tracked (by decide)
  rcases Turn.observed_or_unconfirmed member unconfirmed with ⟨sighting, active⟩ | left
  · have matched : (track.unsighted.observe next.frame sighting).id ∈ next.matched :=
      List.mem_map_of_mem active
    refine ⟨?_, notLost (Turn.not_absent_of_matched standing matched)⟩
    rcases Turn.reported_or_duplicate active with kept | duplicate
    · exact Or.inl ⟨_, List.mem_map_of_mem kept, rfl, rfl⟩
    · exact Or.inr (next.sees.2.2 _ duplicate)
  · refine ⟨Or.inr ?_, notLost (Turn.not_absent_of_unconfirmed standing left)⟩
    rw [Turn.removed_report]
    exact List.mem_append_left _ (List.mem_append_left _ left)

theorem Remembered.waits (remembered : Remembered patience past turn.pools turn.frame) {id : Nat}
    (lost : id ∈ turn.report.lost.map TrackReport.id) :
    ∃ seen, LastMatched (past ++ [turn]) id seen ∧ 1 ≤ turn.frame - seen ∧
      turn.frame - seen < patience := by
  rw [turn.map_id_lost_report] at lost
  obtain ⟨track, member, rfl⟩ := List.mem_map.mp lost
  have date := remembered.date_of_mem_lost member
  refine ⟨track.lastFrame, ?_, by omega, by omega⟩
  exact remembered.step.remembers track (List.mem_append_right _ member)

theorem Remembered.returns (remembered : Remembered patience past turn.pools turn.frame)
    (patient : 1 ≤ patience) {id seen : Nat} (matched : id ∈ turn.matched)
    (last : LastMatched past id seen) :
    turn.frame - seen ≤ patience := by
  -- a number that has been matched before is not given out again, so its track is still known
  rcases Turn.exists_of_matched matched with known | begins
  · obtain ⟨track, inside, rfl⟩ := known
    have same := last.functional (remembered.remembers track inside)
    rcases List.mem_append.mp inside with tracked | lost
    · have date := remembered.tracked track tracked
      omega
    · have date := (remembered.lost track lost).2
      omega
  · obtain ⟨track, new, rfl⟩ := begins
    obtain ⟨earlier, member, _, already⟩ := last.1
    have issued := remembered.given earlier member track.id already
    have fresh := Turn.nextId_le_of_mem_started new
    omega

theorem Remembered.fate (remembered : Remembered patience past turn.pools turn.frame)
    {track : Track α} (member : track ∈ turn.after.tracked) (state : track.state = .tracked) :
    Fate patience turn.after (turn.frame + 1) track.id turn.frame := by
  obtain ⟨removed, standing⟩ := remembered.standing
  have followed := (staged_after standing.staged turn.frame turn.observations).tracked track member
  refine .waiting track (List.mem_append_left _ member) ?_ rfl (seen_of_mem_tracked_after member).1
  rcases followed with ⟨tentative, _⟩ | ⟨_, confirmed⟩
  · rw [state] at tentative
    exact absurd tentative (by decide)
  · exact confirmed

end Facts

theorem lifecycle_of_linked
    (settings : TrackerSettings α) (patient : 1 ≤ settings.maxTimeLost) (first : Nat)
    {turns : List (Turn α)} (linked : Turn.Linked (TrackPools.start settings) first turns) :
    Lifecycle settings.maxTimeLost turns := by
  have started := Remembered.start settings first
  constructor
  · intro turn _
    exact turn.sees
  · intro done turn rest split id matched fresh
    obtain ⟨remembered, _⟩ := Turn.remembered_of_linked started (split ▸ linked)
    exact remembered.begins matched fresh
  · intro done turn next rest split report member tentative
    obtain ⟨remembered, follows⟩ := Turn.remembered_of_linked started (split ▸ linked)
    obtain ⟨pools, frame, _⟩ := follows
    obtain ⟨track, inside, rfl⟩ := List.mem_map.mp member
    have later := remembered.step
    rw [← frame, ← pools] at later
    apply later.settles _ tentative
    rw [pools]
    exact inside
  · intro done turn rest split id lost
    obtain ⟨remembered, _⟩ := Turn.remembered_of_linked started (split ▸ linked)
    exact remembered.waits lost
  · intro done turn rest split id matched seen last
    obtain ⟨remembered, _⟩ := Turn.remembered_of_linked started (split ▸ linked)
    exact remembered.returns patient matched last
  · intro done turn between last rest split report member state unmatched
    obtain ⟨remembered, follows⟩ := Turn.remembered_of_linked started (split ▸ linked)
    obtain ⟨track, inside, rfl⟩ := List.mem_map.mp member
    exact (remembered.fate inside state).tells patient remembered.step follows unmatched

namespace Tracker

variable {σ : Type → Type} [Storage σ] [LawfulStorage σ]

/-- In every run over consecutive frames the tracks live as they should. -/
theorem lifecycle_of_run
    (className : String) (settings : TrackerSettings α) (patient : 1 ≤ settings.maxTimeLost)
    (inputs : List (Nat × List (Observation α))) (first : Nat)
    (steady : inputs.map Prod.fst = List.range' first inputs.length) :
    ∃ last : Tracker α σ,
      (start className settings : Tracker α σ).run? inputs =
          some (last, ((TrackPools.start settings).turns inputs).map Turn.report) ∧
        Lifecycle settings.maxTimeLost ((TrackPools.start settings).turns inputs) := by
  obtain ⟨last, ran⟩ := (followed_start (σ := σ) className settings).run?_eq inputs
  exact ⟨last, ran, lifecycle_of_linked settings patient first (Turn.linked_turns steady)⟩

/-- An object that is seen on one frame of four. -/
theorem lifecycle_of_run_seenOnce :
    1 ≤ (TrackerConfig.settings {} 2).maxTimeLost ∧
      [(7, [seenOnce]), (8, []), (9, []), (10, [])].map Prod.fst = List.range' 7 4 ∧
        ∃ last : Tracker Float32,
          (start "person" (TrackerConfig.settings {} 2) : Tracker Float32).run?
              [(7, [seenOnce]), (8, []), (9, []), (10, [])] =
            some (last, ((TrackPools.start (TrackerConfig.settings {} 2)).turns
              [(7, [seenOnce]), (8, []), (9, []), (10, [])]).map Turn.report) ∧
          Lifecycle (TrackerConfig.settings {} 2).maxTimeLost
            ((TrackPools.start (TrackerConfig.settings {} 2)).turns
              [(7, [seenOnce]), (8, []), (9, []), (10, [])]) :=
  ⟨by decide, rfl, lifecycle_of_run "person" (TrackerConfig.settings {} 2) (by decide)
    [(7, [seenOnce]), (8, []), (9, []), (10, [])] 7 rfl⟩

example :
    ((start "person" (TrackerConfig.settings {} 2) : Tracker Float32).run?
      [(7, [seenOnce]), (8, []), (9, []), (10, [])]).map (fun result =>
        result.2.map fun report =>
          (report.tracked.map TrackReport.id, report.lost.map TrackReport.id, report.removed)) =
      some [([1], [], []), ([], [1], []), ([], [], [1]), ([], [], [])] := by
  decide +kernel

end Tracker

end ObjectQuery
