import ObjectQuery.Proofs.Stage.Arrivals

/-!
# What is stored of tracks

A projector is never told that a track has been given up: after each frame it keeps the rows of the tracks
that the frame names, on an object or as lost, and of these no more than a window reaches. `stored_applyAll`
takes this through the projectors and filters that a frame goes through one after another, none of which
changes what the frame names.
-/

namespace ObjectQuery

open History

namespace Projector

variable {projector : Projector} {className : String} {bound : Nat} {frame : Frame}
  {positions : List Nat}

/-- A projector of a class that has stored rows of frames below a bound. -/
structure StocksUp (projector : Projector) (className : String) (bound : Nat) : Prop where
  className : projector.className = className
  own : projector.property.name ≠ Field.trackId
  once : projector.history.Distinct
  capacity : projector.history.capacity = projector.property.maxWindow
  unused : projector.history.columns.isEmpty → projector.history.rows = []
  ascending : ∀ track, Ascending (projector.history.rowsOf track)
  before : ∀ track, ∀ row ∈ projector.history.rowsOf track, row.frame < bound

/-- Rows are stored of live tracks only, and as far back from a frame as a window reaches. -/
structure KeepsLive (projector : Projector) (live : Nat → Prop) (frame : Nat) : Prop where
  live : ∀ entry ∈ projector.history.rows, live entry.1
  few : ∀ entry ∈ projector.history.rows, entry.2.length ≤ projector.property.maxWindow
  near : ∀ entry ∈ projector.history.rows, ∀ row ∈ entry.2,
    row.frame ≤ frame ∧ frame < row.frame + projector.property.maxWindow

namespace StocksUp

theorem rows_next_of_unused (unused : projector.history.columns.isEmpty) :
    (projector.next frame).history = projector.history := by
  cases found : frame.positions? projector.index projector.className with
  | none => rw [next_of_none found]
  | some positions =>
      rw [next_of_positions found]
      simp only [settled_eq, remembered, if_pos unused]

variable (stocks : projector.StocksUp className bound) (ahead : bound ≤ frame.id)
  (found : frame.positions? projector.index projector.className = some positions)

include stocks ahead in
theorem before_frame (track : Nat) :
    ∀ row ∈ projector.history.rowsOf track, row.frame < frame.id :=
  fun row member => Nat.lt_of_lt_of_le (stocks.before track row member) ahead

include stocks ahead found in
/-- One frame. -/
theorem next : (projector.next frame).StocksUp className (frame.id + 1) := by
  obtain ⟨shape, rows⟩ := settled_next stocks.own stocks.once found
  have kept := projector.kept_next frame
  have property := congrArg Projector.property kept
  refine
    { className := (congrArg Projector.className kept).trans stocks.className
      own := property ▸ stocks.own
      once := shape.distinct stocks.once
      capacity := by rw [shape.capacity, property, stocks.capacity]
      unused := fun unused => ?_
      ascending := fun track => ?_
      before := fun track row member => ?_ }
  · rw [shape.columns] at unused
    rw [rows_next_of_unused unused, stocks.unused unused]
  · rw [rows]
    exact ascending_trackRows (stocks.ascending track)
  · rw [rows] at member
    rcases mem_trackRows (stocks.before_frame ahead track) member with old | ⟨_, here⟩ | ⟨_, here, _⟩
    · exact Nat.lt_succ_of_lt (stocks.before_frame ahead track row old)
    · exact Nat.lt_succ_of_le (Nat.le_of_eq here)
    · exact Nat.lt_succ_of_le (Nat.le_of_eq here)

include stocks ahead found in
theorem keepsLive_next :
    (projector.next frame).KeepsLive (fun track => frame.isLive className track) frame.id := by
  obtain ⟨shape, rows⟩ := settled_next stocks.own stocks.once found
  have stocksNext := stocks.next ahead found
  have window : (projector.next frame).property.maxWindow = projector.history.capacity := by
    rw [← stocksNext.capacity, shape.capacity]
  have entries : ∀ entry ∈ (projector.next frame).history.rows,
      frame.isLive className entry.1 ∧ ∀ row ∈ entry.2,
        row.frame ≤ frame.id ∧ frame.id < row.frame + projector.history.capacity := by
    intro entry member
    have stored := Keyed.find?_of_mem stocksNext.once.nodup_keys member
    have rowsEq := rows entry.1
    rw [rowsOf, stored, Option.getD_some] at rowsEq
    -- without a column nothing is stored at all, not even a track without rows
    cases used : projector.history.columns.isEmpty with
    | true =>
        rw [rows_next_of_unused used, stocks.unused used] at member
        exact absurd member List.not_mem_nil
    | false =>
        have filled := ne_nil_of_find?_next stocks.once used found stored
        have dated := stocksNext.before entry.1
        rw [rowsOf, stored, Option.getD_some] at dated
        unfold trackRows at rowsEq
        rw [used, if_neg Bool.false_ne_true] at rowsEq
        by_cases live : frame.isLive projector.className entry.1
        · refine ⟨stocks.className ▸ live, fun row inside => ⟨Nat.le_of_lt_succ (dated row inside), ?_⟩⟩
          rw [rowsEq, if_pos live] at inside
          have late := of_decide_eq_true (List.mem_filter.mp inside).2
          unfold cutoff at late
          omega
        · rw [if_neg live] at rowsEq
          exact absurd rowsEq filled
  refine ⟨fun entry member => (entries entry member).1, fun entry member => ?_,
    fun entry member => window ▸ (entries entry member).2⟩
  -- of ascending rows within the reach of the window there are no more than its size
  have near := (entries entry member).2
  have ascending := stocksNext.ascending entry.1
  rw [rowsOf, Keyed.find?_of_mem stocksNext.once.nodup_keys member, Option.getD_some] at ascending
  have few := @length_le_of_ascending _ ascending (frame.id + 1 - projector.history.capacity)
    (frame.id + 1) fun row inside => by
      have := near row inside
      omega
  rw [window]
  omega

end StocksUp

end Projector

/-- A frame names the tracks that another one of its number names. -/
structure Frame.NamesAs (frame other : Frame) (className : String) : Prop where
  id : frame.id = other.id
  isLive : frame.isLive className = other.isLive className

namespace Stage

variable {className : String} {bound : Nat} {frame next final : Frame} {place : Nat}

/-- One projector. -/
theorem stored_apply {projector : Projector} (stocks : projector.StocksUp className bound)
    (ahead : bound ≤ frame.id)
    (applied : ((Stage.project projector).apply place frame).frame = .ok next) :
    (projector.next frame).StocksUp className (frame.id + 1) ∧
      (projector.next frame).KeepsLive (fun track => frame.isLive className track) frame.id ∧
        next.NamesAs frame className := by
  cases found : frame.positions? projector.index projector.className with
  | none => simp [Stage.apply, Projector.apply, found] at applied
  | some positions =>
      have written : projector.written frame (projector.evaluations frame positions) = next := by
        simpa [Stage.apply, Projector.apply, found] using applied
      refine ⟨stocks.next ahead found, stocks.keepsLive_next ahead found, ?_, ?_⟩
      · rw [← written, Projector.framed_written]
      · funext track
        rw [← written, ← stocks.className]
        exact Projector.isLive_written stocks.own frame _ track

/-- Projectors one after another, and what comes after them. -/
theorem stored_applyAll {projectors : List Projector} {rest : List Stage}
    (stocks : ∀ projector ∈ projectors, projector.StocksUp className bound)
    (ahead : bound ≤ frame.id)
    (through : (applyAll place (projectors.map Stage.project ++ rest) frame).frame = .ok final) :
    ∃ (nexts : List Projector) (middle : Frame) (later : Nat),
      (applyAll place (projectors.map Stage.project ++ rest) frame).state =
          nexts.map Stage.project ++ (applyAll later rest middle).state ∧
        (applyAll later rest middle).frame = .ok final ∧ middle.NamesAs frame className ∧
          ∀ next ∈ nexts, next.StocksUp className (frame.id + 1) ∧
            next.KeepsLive (fun track => frame.isLive className track) frame.id := by
  induction projectors generalizing frame place with
  | nil => exact ⟨[], frame, place, rfl, through, ⟨rfl, rfl⟩, List.forall_mem_nil _⟩
  | cons projector projectors inductionHypothesis =>
      rw [List.map_cons, List.cons_append] at through ⊢
      obtain ⟨next, applied, through⟩ := exists_applied through
      obtain ⟨stocksNext, live, same⟩ :=
        stored_apply (stocks projector List.mem_cons_self) ahead applied
      obtain ⟨nexts, middle, later, states, through, names, others⟩ := inductionHypothesis
        (fun other member => stocks other (List.mem_cons_of_mem _ member)) (same.id ▸ ahead) through
      rw [same.id, same.isLive] at others
      refine ⟨projector.next frame :: nexts, middle, later, ?_, through,
        ⟨names.id.trans same.id, names.isLive.trans same.isLive⟩,
        List.forall_mem_cons.mpr ⟨⟨stocksNext, live⟩, others⟩⟩
      rw [state_applyAll_cons applied, state_apply_project, states]
      rfl

end Stage

end ObjectQuery
