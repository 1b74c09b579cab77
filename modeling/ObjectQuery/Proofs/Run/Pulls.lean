import ObjectQuery.Proofs.Run.Plays

/-!
# A run call by call

Whoever asks a run for its items one by one does not see how many frames are pulled for each of them.
`Run.Pulls` counts them: a call pulls some frames, and what becomes of these are the next ones of
`Run.outcomes`. So the answers of a run are the items of its outcomes in their order (`answer?_eq`).
-/

namespace ObjectQuery

namespace Run

variable {run later last : Run} {clock : Nat → Float} {front rest : List Outcome}

/-! ## Pulling frames -/

/-- A run pulls frames one after another, and each time the video is asked once. -/
inductive Pulls (clock : Nat → Float) : Run → List Outcome → Run → Prop
  | none {run : Run} : Pulls clock run [] run
  | frame {run later : Run} {outcomes : List Outcome} :
      run.hasNext = true →
      Pulls clock (run.settle run.pull (clock run.framesProcessed)) outcomes later →
      Pulls clock run (run.pull :: outcomes) later

/-- Whether a frame has gone through all stages. -/
def Outcome.passed (outcome : Outcome) : Bool := outcome.result.isOk

def Outcome.report? (outcome : Outcome) : Option FrameReport := outcome.result.toOption.join

/-- What becomes of at most the given number of frames. -/
def outcomesWithin (clock : Nat → Float) : Nat → Run → List Outcome
  | 0, _ => []
  | count + 1, run =>
    if run.hasNext then
      run.pull :: outcomesWithin clock count (run.settle run.pull (clock run.framesProcessed))
    else []

/-- What becomes of the frames of a run, up to the one that fails. -/
def outcomes (clock : Nat → Float) (run : Run) : List Outcome :=
  run.outcomesWithin clock run.pipeline.playback.remaining

theorem Pulls.trans (first : Pulls clock run front later) (second : Pulls clock later rest last) :
    Pulls clock run (front ++ rest) last := by
  induction first with
  | none => exact second
  | frame more _ inductionHypothesis => exact .frame more (inductionHypothesis second)

/-- A run at its end stays as it is. -/
theorem Pulls.of_end (pulls : Pulls clock run front later) (ended : run.hasNext = false) :
    front = [] ∧ later = run := by
  cases pulls with
  | none => exact ⟨rfl, rfl⟩
  | frame more => exact absurd more (by simp [ended])

theorem outcomesWithin_of_end (ended : run.hasNext = false) (count : Nat) :
    run.outcomesWithin clock count = [] := by
  cases count with
  | zero => rfl
  | succ count => rw [outcomesWithin, if_neg (by simp [ended])]

theorem outcomes_of_end (ended : run.hasNext = false) : run.outcomes clock = [] :=
  outcomesWithin_of_end ended _

/-- More than the frames to come are not pulled. -/
theorem outcomesWithin_eq (count other : Nat) (enough : run.toCome ≤ count)
    (enoughToo : run.toCome ≤ other) :
    run.outcomesWithin clock count = run.outcomesWithin clock other := by
  induction count generalizing run other with
  | zero =>
      have ended : run.hasNext = false :=
        eq_false_of_ne_true fun more => absurd (toCome_pos more) (by omega)
      rw [outcomesWithin_of_end ended, outcomesWithin_of_end ended]
  | succ count inductionHypothesis =>
      by_cases more : run.hasNext = true
      · have fewer := toCome_settle more (clock run.framesProcessed)
        obtain ⟨other, rfl⟩ : ∃ less, other = less + 1 := ⟨other - 1, by omega⟩
        rw [outcomesWithin, outcomesWithin, if_pos more, if_pos more,
          inductionHypothesis other (by omega) (by omega)]
      · rw [outcomesWithin_of_end (eq_false_of_ne_true more),
          outcomesWithin_of_end (eq_false_of_ne_true more)]

theorem outcomes_of_next (more : run.hasNext = true) :
    run.outcomes clock =
      run.pull :: (run.settle run.pull (clock run.framesProcessed)).outcomes clock := by
  have fewer := toCome_settle more (clock run.framesProcessed)
  have bound := toCome_le run
  have left := toCome_le (run.settle run.pull (clock run.framesProcessed))
  unfold outcomes
  rw [outcomesWithin_eq _ (run.toCome - 1 + 1) bound (by omega), outcomesWithin, if_pos more,
    outcomesWithin_eq _ (run.toCome - 1) left (by omega)]

/-- The frames that are pulled are the next ones. -/
theorem Pulls.outcomes_eq (pulls : Pulls clock run front later) :
    run.outcomes clock = front ++ later.outcomes clock := by
  induction pulls with
  | none => rfl
  | frame more _ inductionHypothesis =>
      rw [outcomes_of_next more, inductionHypothesis, List.cons_append]

theorem passed_pull {frame : Frame} (pulled : run.pipeline.pull.frame = .ok frame) :
    run.pull.passed = true := by
  rw [pull_of_ok pulled]
  rfl

theorem not_passed_pull {error : RunError} (pulled : run.pipeline.pull.frame = .error error) :
    run.pull.passed = false := by
  rw [pull_of_error pulled]
  rfl

/-- A run counts the frames that have gone through all stages. -/
theorem Pulls.framesProcessed_eq (pulls : Pulls clock run front later) :
    later.framesProcessed = run.framesProcessed + front.countP Outcome.passed := by
  induction pulls with
  | none => rfl
  | @frame run _ _ _ _ inductionHypothesis =>
      rw [inductionHypothesis]
      cases pulled : run.pipeline.pull.frame with
      | ok frame =>
          rw [(continues_settle pulled _).framesProcessed,
            List.countP_cons_of_pos (passed_pull pulled)]
          omega
      | error error =>
          rw [List.countP_cons_of_neg (by simp [not_passed_pull pulled]), pull_of_error pulled]
          rfl

/-- A frame that fails is the last one. -/
theorem pairwise_outcomes (clock : Nat → Float) (run : Run) :
    (run.outcomes clock).Pairwise fun earlier _ => earlier.passed = true := by
  unfold outcomes
  generalize run.pipeline.playback.remaining = count
  induction count generalizing run with
  | zero => exact List.Pairwise.nil
  | succ count inductionHypothesis =>
      rw [outcomesWithin]
      split
      · refine List.pairwise_cons.mpr ⟨fun later member => ?_, inductionHypothesis _⟩
        cases pulled : run.pipeline.pull.frame with
        | ok frame => exact passed_pull pulled
        | error error =>
            rw [outcomesWithin_of_end (hasNext_of_error pulled _)] at member
            exact absurd member List.not_mem_nil
      · exact List.Pairwise.nil

/-! ## Calls -/

/-- A call pulls frames until there is something to say of one, or there are no more. -/
structure Serves (clock : Nat → Float) (run : Run) (yielded : Yield) (front : List Outcome) :
    Prop where
  pulls : Pulls clock run front yielded.run
  items : front.flatMap Outcome.items = yielded.item.toList
  ended : yielded.item = none → yielded.run.hasNext = false

theorem exists_serves_nextWithin {frames : Nat} (enough : run.toCome ≤ frames) :
    ∃ front, Serves clock run (run.nextWithin clock frames) front := by
  induction frames generalizing run with
  | zero =>
      have ended : run.hasNext = false :=
        eq_false_of_ne_true fun more => absurd (toCome_pos more) (by omega)
      exact ⟨[], .none, rfl, fun _ => ended⟩
  | succ frames inductionHypothesis =>
      rw [nextWithin]
      split
      · rename_i more
        have fewer := toCome_settle more (clock run.framesProcessed)
        have one : Pulls clock run [run.pull] (run.settle run.pull (clock run.framesProcessed)) :=
          .frame more .none
        cases result : run.pull.result with
        | error error =>
            simp only [result]
            exact ⟨_, one, by simp [Outcome.items, result], fun none => absurd none (by simp)⟩
        | ok report =>
            cases report with
            | some report =>
                simp only [result]
                exact ⟨_, one, by simp [Outcome.items, result], fun none => absurd none (by simp)⟩
            | none =>
                simp only [result]
                obtain ⟨front, pulls, items, ended⟩ := @inductionHypothesis
                  (run.settle run.pull (clock run.framesProcessed)) (by omega)
                exact ⟨run.pull :: front, one.trans pulls,
                  by simpa [Outcome.items, result] using items, ended⟩
      · rename_i ended
        exact ⟨[], .none, rfl, fun _ => eq_false_of_ne_true ended⟩

theorem exists_serves (clock : Nat → Float) (run : Run) :
    ∃ front, Serves clock run (run.next clock) front :=
  exists_serves_nextWithin (toCome_le run)

/-- The run after a number of calls. -/
def afterCalls (clock : Nat → Float) : Nat → Run → Run
  | 0, run => run
  | calls + 1, run => afterCalls clock calls (run.next clock).run

/-- What a run answers to a call, the calls counted from zero. -/
def answer? (clock : Nat → Float) (run : Run) (call : Nat) : Option Item :=
  ((run.afterCalls clock call).next clock).item

theorem afterCalls_succ (clock : Nat → Float) (run : Run) (calls : Nat) :
    run.afterCalls clock (calls + 1) = ((run.afterCalls clock calls).next clock).run := by
  induction calls generalizing run with
  | zero => rfl
  | succ calls inductionHypothesis => exact inductionHypothesis (run.next clock).run

theorem exists_pulls_afterCalls (clock : Nat → Float) (run : Run) (calls : Nat) :
    ∃ front, Pulls clock run front (run.afterCalls clock calls) := by
  induction calls generalizing run with
  | zero => exact ⟨[], .none⟩
  | succ calls inductionHypothesis =>
      obtain ⟨front, serves⟩ := exists_serves clock run
      obtain ⟨rest, pulls⟩ := inductionHypothesis (run.next clock).run
      exact ⟨front ++ rest, serves.pulls.trans pulls⟩

/-- An answer is an item of one of the frames that have been pulled. -/
theorem exists_pulls_of_answer {call : Nat} {item : Item}
    (answered : run.answer? clock call = some item) :
    ∃ front outcome, Pulls clock run front (run.afterCalls clock (call + 1)) ∧ outcome ∈ front ∧
      item ∈ outcome.items := by
  obtain ⟨before, pulls⟩ := exists_pulls_afterCalls clock run call
  obtain ⟨front, serves⟩ := exists_serves clock (run.afterCalls clock call)
  have member : item ∈ front.flatMap Outcome.items := by
    rw [serves.items, show ((run.afterCalls clock call).next clock).item = some item from answered]
    exact List.mem_singleton_self item
  obtain ⟨outcome, listed, member⟩ := List.mem_flatMap.mp member
  refine ⟨before ++ front, outcome, ?_, List.mem_append_right _ listed, member⟩
  rw [afterCalls_succ]
  exact pulls.trans serves.pulls

/-- A call takes the first item of those to come. -/
theorem items_next (clock : Nat → Float) (run : Run) :
    (run.outcomes clock).flatMap Outcome.items =
      (run.next clock).item.toList ++
        ((run.next clock).run.outcomes clock).flatMap Outcome.items := by
  obtain ⟨front, serves⟩ := exists_serves clock run
  rw [serves.pulls.outcomes_eq, List.flatMap_append, serves.items]

theorem items_of_none (none : (run.next clock).item = none) :
    ((run.next clock).run.outcomes clock).flatMap Outcome.items = [] := by
  obtain ⟨front, serves⟩ := exists_serves clock run
  rw [outcomes_of_end (serves.ended none), List.flatMap_nil]

/-- The answers are the items of the frames in their order, and then nothing for ever. -/
theorem answer?_eq (clock : Nat → Float) (run : Run) (call : Nat) :
    run.answer? clock call = ((run.outcomes clock).flatMap Outcome.items)[call]? := by
  induction call generalizing run with
  | zero =>
      rw [items_next]
      change (run.next clock).item = _
      cases yielded : (run.next clock).item with
      | some item => rfl
      | none =>
          rw [items_of_none yielded]
          rfl
  | succ call inductionHypothesis =>
      rw [items_next]
      refine (inductionHypothesis (run.next clock).run).trans ?_
      cases yielded : (run.next clock).item with
      | some item => rfl
      | none =>
          rw [items_of_none yielded]
          rfl

theorem Plays.eq_outcomes {items : List Item} (plays : Plays clock run items last) :
    items = (run.outcomes clock).flatMap Outcome.items := by
  induction plays with
  | ended ended => rw [outcomes_of_end ended]; rfl
  | frame more _ inductionHypothesis =>
      rw [outcomes_of_next more, List.flatMap_cons, inductionHypothesis]

/-- What a run yields in all. -/
theorem items_eq (clock : Nat → Float) (run : Run) :
    (run.items clock).1 = (run.outcomes clock).flatMap Outcome.items :=
  (plays_items clock run).eq_outcomes

end Run

end ObjectQuery
