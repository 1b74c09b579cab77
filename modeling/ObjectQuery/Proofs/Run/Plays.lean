import ObjectQuery.Proofs.Run.Deliveries

/-!
# A run frame by frame

A run pulls as many frames as it takes until there is a report, or an error. `Run.Plays` says what it
yields in terms of single frames, so that what is to be known of its items can be shown by induction on
the frames; `Run.plays_items` is the main statement.
-/

namespace ObjectQuery

namespace Run

/-- What a run yields for one frame. -/
def Outcome.items (outcome : Outcome) : List Item :=
  match outcome.result with
  | .ok report => report.toList.map .ok
  | .error error => [.error error]

/-- A run yields the items and comes to its end. -/
inductive Plays (clock : Nat → Float) : Run → List Item → Run → Prop
  | ended {run : Run} : run.hasNext = false → Plays clock run [] run
  | frame {run final : Run} {items : List Item} :
      run.hasNext = true →
      Plays clock (run.settle run.pull (clock run.framesProcessed)) items final →
      Plays clock run (run.pull.items ++ items) final

variable {run final : Run} {clock : Nat → Float} {items : List Item}

theorem items_of_ok {frame : Frame} (pulled : run.pipeline.pull.frame = .ok frame) :
    run.pull.items = (run.reporter.apply frame).2.toList.map .ok := by
  rw [pull_of_ok pulled]
  rfl

theorem items_of_error {error : RunError} (pulled : run.pipeline.pull.frame = .error error) :
    run.pull.items = [.error error] := by
  rw [pull_of_error pulled]
  rfl

theorem hasNext_of_error {error : RunError} (pulled : run.pipeline.pull.frame = .error error)
    (seconds : Float) : (run.settle run.pull seconds).hasNext = false := by
  rw [pull_of_error pulled]
  rfl

theorem Plays.eq_nil (plays : Plays clock run items final) (ended : run.hasNext = false) :
    items = [] := by
  cases plays with
  | ended => rfl
  | frame more => exact absurd more (by simp [ended])

/-- How many frames a run can still pull. -/
def toCome (run : Run) : Nat := if run.hasNext then run.pipeline.playback.remaining else 0

theorem toCome_le (run : Run) : run.toCome ≤ run.pipeline.playback.remaining := by
  unfold toCome
  split <;> omega

theorem toCome_pos (more : run.hasNext = true) : 0 < run.toCome := by
  rw [toCome, if_pos more]
  exact remaining_pos more

theorem toCome_settle (more : run.hasNext = true) (seconds : Float) :
    (run.settle run.pull seconds).toCome < run.toCome := by
  cases pulled : run.pipeline.pull.frame with
  | error error =>
      rw [toCome, if_neg (by simp [hasNext_of_error pulled])]
      exact toCome_pos more
  | ok frame =>
      have fewer := remaining_of_pull pulled
      rw [← (continues_settle pulled seconds).pipeline] at fewer
      have bound := toCome_le (run.settle run.pull seconds)
      rw [toCome, toCome, if_pos more] at *
      omega

/-- What is left to play after the next item. -/
def Resumes (clock : Nat → Float) (run next : Run) : Option Item → Prop
  | some item =>
    (∀ items final, Plays clock next items final → Plays clock run (item :: items) final) ∧
      next.toCome < run.toCome
  | none => Plays clock run [] next

/-- A frame without a report adds nothing. -/
theorem Resumes.skip {next : Run} {item : Option Item} (more : run.hasNext = true)
    (silent : run.pull.items = [])
    (resumes : Resumes clock (run.settle run.pull (clock run.framesProcessed)) next item) :
    Resumes clock run next item := by
  have skip : ∀ items final,
      Plays clock (run.settle run.pull (clock run.framesProcessed)) items final →
        Plays clock run items final := fun items final later => by
    have played := Plays.frame more later
    rwa [silent] at played
  cases item with
  | none => exact skip _ _ resumes
  | some item =>
      exact ⟨fun items final later => skip _ _ (resumes.1 items final later),
        Nat.lt_trans resumes.2 (toCome_settle more _)⟩

theorem Resumes.of_yield {item : Item} (more : run.hasNext = true)
    (yielded : run.pull.items = [item]) :
    Resumes clock run (run.settle run.pull (clock run.framesProcessed)) (some item) := by
  refine ⟨fun items final later => ?_, toCome_settle more _⟩
  have played := Plays.frame more later
  rwa [yielded] at played

theorem resumes_nextWithin {frames : Nat} (enough : run.toCome ≤ frames) :
    Resumes clock run (run.nextWithin clock frames).run (run.nextWithin clock frames).item := by
  induction frames generalizing run with
  | zero =>
      refine Plays.ended (eq_false_of_ne_true fun more => ?_)
      have left := toCome_pos more
      omega
  | succ frames inductionHypothesis =>
      by_cases more : run.hasNext = true
      · rw [nextWithin, if_pos more]
        cases result : run.pull.result with
        | error error =>
            simp only [result]
            exact Resumes.of_yield more (by rw [Outcome.items, result])
        | ok report =>
            have fewer := toCome_settle more (clock run.framesProcessed)
            cases report with
            | some report =>
                simp only [result]
                exact Resumes.of_yield more (by rw [Outcome.items, result]; rfl)
            | none =>
                -- a frame without a report is played within the same call
                simp only [result]
                exact Resumes.skip more (by rw [Outcome.items, result]; rfl)
                  (inductionHypothesis (Nat.le_of_lt_succ (Nat.lt_of_lt_of_le fewer enough)))
      · rw [nextWithin, if_neg more]
        exact Plays.ended (eq_false_of_ne_true more)

theorem plays_itemsWithin {count : Nat} (enough : run.toCome < count) :
    Plays clock run (run.itemsWithin clock count).1 (run.itemsWithin clock count).2 := by
  induction count generalizing run with
  | zero => exact absurd enough (Nat.not_lt_zero _)
  | succ count inductionHypothesis =>
      have resumes : Resumes clock run (run.next clock).run (run.next clock).item :=
        resumes_nextWithin (toCome_le run)
      unfold itemsWithin
      cases yielded : (run.next clock).item with
      | none =>
          rw [yielded] at resumes
          simp only [yielded]
          exact resumes
      | some item =>
          rw [yielded] at resumes
          simp only [yielded]
          exact resumes.1 _ _ (inductionHypothesis (Nat.lt_of_lt_of_le resumes.2
            (Nat.le_of_lt_succ enough)))

/-- What a run yields it yields frame by frame. -/
theorem plays_items (clock : Nat → Float) (run : Run) :
    Plays clock run (run.items clock).1 (run.items clock).2 :=
  plays_itemsWithin (Nat.lt_succ_of_le (toCome_le run))

end Run

end ObjectQuery
