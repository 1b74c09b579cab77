import Mathlib.Data.List.Infix
import ObjectQuery.Proofs.Number.Exact
import ObjectQuery.Property.Continuing

/-!
# What a condition that goes on has open

The open period of a condition is told from the observations alone: it is the longest suffix of them on
which the condition holds and no gap is too large (`IsCurrent`). Whatever has been observed before, the
state has that suffix open, from its first frame to its last, and the condition has held long enough exactly
if the suffix has reached the duration (`follows_of_steps`).
-/

namespace ObjectQuery

namespace Continuing

/-- What is observed on a frame. -/
structure Sample where
  frame : Nat
  holds : Bool
deriving DecidableEq

/-- Samples on ascending frames. -/
abbrev Ascending (samples : List Sample) : Prop :=
  samples.Pairwise fun earlier later => earlier.frame < later.frame

/-! ## Unbroken runs -/

/-- Samples in a row on which the condition holds, each of them close enough to the next. -/
structure Unbroken (tolerance : Nat) (run : List Sample) : Prop where
  holds : ∀ sample ∈ run, sample.holds = true
  close : run.IsChain fun earlier later => later.frame - earlier.frame ≤ tolerance

/-- The longest unbroken suffix. -/
structure IsCurrent (tolerance : Nat) (samples run : List Sample) : Prop where
  suffix : run <:+ samples
  unbroken : Unbroken tolerance run
  longest : ∀ other, other <:+ samples → Unbroken tolerance other → other.length ≤ run.length

section Runs

variable {tolerance : Nat} {samples run : List Sample} {sample : Sample}

theorem unbroken_nil : Unbroken tolerance [] := ⟨by simp, List.isChain_nil⟩

theorem unbroken_concat_iff : Unbroken tolerance (run ++ [sample]) ↔
    Unbroken tolerance run ∧ sample.holds = true ∧
      ∀ last ∈ run.getLast?, sample.frame - last.frame ≤ tolerance := by
  constructor
  · rintro ⟨holds, close⟩
    obtain ⟨before, -, gap⟩ := List.isChain_append.mp close
    exact ⟨⟨fun other member => holds other (List.mem_append_left _ member), before⟩,
      holds sample (by simp), fun last atEnd => gap last atEnd sample (by simp)⟩
  · rintro ⟨⟨holds, close⟩, here, gap⟩
    refine ⟨fun other member => ?_, close.append (List.isChain_singleton sample) fun last atEnd => ?_⟩
    · rcases List.mem_append.mp member with before | new
      · exact holds other before
      · rwa [List.mem_singleton.mp new]
    · simpa using gap last atEnd

theorem unbroken_singleton (holds : sample.holds = true) : Unbroken tolerance [sample] :=
  unbroken_concat_iff.mpr ⟨unbroken_nil, holds, by simp⟩

theorem isCurrent_nil : IsCurrent tolerance [] [] :=
  ⟨List.suffix_rfl, unbroken_nil, fun _ suffix _ => suffix.length_le⟩

namespace IsCurrent

/-- Two longest suffixes are one. -/
theorem unique {other : List Sample} (current : IsCurrent tolerance samples run)
    (another : IsCurrent tolerance samples other) : run = other := by
  have length : run.length = other.length :=
    Nat.le_antisymm (another.longest run current.suffix current.unbroken)
      (current.longest other another.suffix another.unbroken)
  exact (List.suffix_of_suffix_length_le current.suffix another.suffix length.le).eq_of_length length

/-- Where the condition does not hold nothing is left. -/
theorem broken (samples : List Sample) (fails : sample.holds = false) :
    IsCurrent tolerance (samples ++ [sample]) [] where
  suffix := List.nil_suffix
  unbroken := unbroken_nil
  longest := by
    intro other suffix unbroken
    rcases List.suffix_concat_iff.mp suffix with rfl | ⟨before, rfl, _⟩
    · exact Nat.le_refl _
    · rw [(unbroken_concat_iff.mp unbroken).2.1] at fails
      exact absurd fails (by decide)

theorem extended (current : IsCurrent tolerance samples run)
    (unbroken : Unbroken tolerance (run ++ [sample])) :
    IsCurrent tolerance (samples ++ [sample]) (run ++ [sample]) where
  suffix := List.suffix_concat_iff.mpr (.inr ⟨run, rfl, current.suffix⟩)
  unbroken := unbroken
  longest := by
    intro other suffix unbrokenToo
    rcases List.suffix_concat_iff.mp suffix with rfl | ⟨before, rfl, within⟩
    · exact Nat.zero_le _
    · have shorter := current.longest before within (unbroken_concat_iff.mp unbrokenToo).1
      simpa using shorter

/-- A sample that does not go on from the run before it stands alone. -/
theorem begun (current : IsCurrent tolerance samples run) (holds : sample.holds = true)
    (apart : ¬ Unbroken tolerance (run ++ [sample])) :
    IsCurrent tolerance (samples ++ [sample]) [sample] where
  suffix := List.suffix_append samples [sample]
  unbroken := unbroken_singleton holds
  longest := by
    intro other suffix unbroken
    rcases List.suffix_concat_iff.mp suffix with rfl | ⟨before, rfl, within⟩
    · exact Nat.zero_le _
    · obtain ⟨unbrokenBefore, _, gap⟩ := unbroken_concat_iff.mp unbroken
      -- a longer suffix would end as the run before it does
      suffices empty : before = [] by rw [empty]; exact Nat.le_refl _
      by_contra filled
      have shorter := current.longest before within unbrokenBefore
      obtain ⟨front, rfl⟩ := List.suffix_of_suffix_length_le within current.suffix shorter
      refine apart (unbroken_concat_iff.mpr ⟨current.unbroken, holds, ?_⟩)
      rwa [List.getLast?_append_of_ne_nil _ filled]

/-- Where the condition holds the run ends with the last sample. -/
theorem exists_eq_concat (current : IsCurrent tolerance (samples ++ [sample]) run)
    (holds : sample.holds = true) : ∃ before, run = before ++ [sample] := by
  rcases List.suffix_concat_iff.mp current.suffix with rfl | ⟨before, rfl, _⟩
  · have longer := current.longest [sample] (List.suffix_append samples [sample])
      (unbroken_singleton holds)
    exact absurd longer (Nat.not_succ_le_zero 0)
  · exact ⟨before, rfl⟩

end IsCurrent

/-- The first and the last frame of a run. -/
def span? (run : List Sample) : Option (Nat × Nat) :=
  run.head?.bind fun first => run.getLast?.map fun last => (first.frame, last.frame)

@[simp] theorem span?_singleton : span? [sample] = some (sample.frame, sample.frame) := rfl

theorem span?_concat (run : List Sample) (sample : Sample) :
    span? (run ++ [sample]) = some ((run.head?.getD sample).frame, sample.frame) := by
  unfold span?
  rw [List.getLast?_concat]
  cases run <;> rfl

end Runs

/-! ## One step -/

section Step

variable {α : Type} [Scalar α] (rule : Continuing α) {fps : α} {state : ContinuingState}
  {tolerance : Nat} {run : List Sample} {sample : Sample}

/-- Whether a number of frames reaches the duration. -/
def Reaches (rule : Continuing α) (fps : α) (length : Nat) : Prop :=
  rule.duration * fps ≤ Scalar.ofNat length

instance (fps : α) (length : Nat) : Decidable (rule.Reaches fps length) :=
  inferInstanceAs (Decidable (rule.duration * fps ≤ Scalar.ofNat length))

theorem tolerance_eq (positive : Scalar.zero < fps) :
    rule.tolerance fps = rule.gapTolerance.getD (Scalar.wholePart fps) := by
  rw [tolerance, Scalar.positivePart, if_pos positive]

theorem step_false (state : ContinuingState) (frame : Nat) (fps : α) :
    rule.step state frame fps false = ⟨false, none, state.periods⟩ := rfl

/-- What a step leaves where the condition holds. -/
theorem step_true (state : ContinuingState) (frame : Nat) (fps : α) {bounds : Nat × Nat}
    (opened : extend (rule.tolerance fps) state.opened frame = bounds) :
    rule.step state frame fps true =
      ⟨decide (rule.Reaches fps (bounds.2 - bounds.1)), some bounds,
        if rule.Reaches fps (bounds.2 - bounds.1) then
          recordPeriod state.periods (second fps bounds.1, second fps bounds.2)
        else state.periods⟩ := by
  subst opened
  by_cases reached : rule.Reaches fps
      ((extend (rule.tolerance fps) state.opened frame).2 -
        (extend (rule.tolerance fps) state.opened frame).1)
  · rw [if_pos reached, decide_eq_true reached]
    exact if_pos reached
  · rw [if_neg reached, decide_eq_false reached]
    exact if_neg reached

/-- A sample that goes on from a run moves the end of what is open. -/
theorem extend_of_unbroken (unbroken : Unbroken tolerance (run ++ [sample])) :
    extend tolerance (span? run) sample.frame = ((run.head?.getD sample).frame, sample.frame) := by
  cases run using List.reverseRecOn with
  | nil => rfl
  | append_singleton before last =>
      have gap := (unbroken_concat_iff.mp unbroken).2.2 last (by simp)
      rw [span?_concat]
      unfold extend
      dsimp only
      rw [if_pos gap]
      cases before <;> rfl

theorem extend_of_apart (unbroken : Unbroken tolerance run) (holds : sample.holds = true)
    (apart : ¬ Unbroken tolerance (run ++ [sample])) :
    extend tolerance (span? run) sample.frame = (sample.frame, sample.frame) := by
  cases run using List.reverseRecOn with
  | nil => rfl
  | append_singleton before last =>
      have gap : ¬ sample.frame - last.frame ≤ tolerance := fun close =>
        apart (unbroken_concat_iff.mpr ⟨unbroken, holds, by simpa using close⟩)
      rw [span?_concat]
      unfold extend
      dsimp only
      rw [if_neg gap]

/-- A state that has the run open with which samples end. -/
structure HasOpen (rule : Continuing α) (fps : α) (samples run : List Sample)
    (state : ContinuingState) : Prop where
  current : IsCurrent (rule.tolerance fps) samples run
  opened : state.opened = span? run
  holding : state.holding = true ↔ ∃ bounds ∈ span? run, rule.Reaches fps (bounds.2 - bounds.1)

theorem hasOpen_fresh (fps : α) : rule.HasOpen fps [] [] .fresh where
  current := isCurrent_nil
  opened := rfl
  holding := by simp [ContinuingState.fresh, span?]

variable {rule} {samples : List Sample}

/-- One more sample breaks off the run, goes on from it, or begins a new one. -/
theorem HasOpen.step (before : rule.HasOpen fps samples run state) :
    ∃ next, rule.HasOpen fps (samples ++ [sample]) next
      (rule.step state sample.frame fps sample.holds) := by
  obtain ⟨current, opened, -⟩ := before
  cases holds : sample.holds with
  | false =>
      rw [step_false]
      exact ⟨[], .broken samples holds, rfl, by simp [span?]⟩
  | true =>
      by_cases unbroken : Unbroken (rule.tolerance fps) (run ++ [sample])
      · have bounds := extend_of_unbroken unbroken
        rw [← opened] at bounds
        rw [rule.step_true state sample.frame fps bounds]
        exact ⟨run ++ [sample], current.extended unbroken, (span?_concat run sample).symm,
          by simp [span?_concat]⟩
      · have bounds := extend_of_apart current.unbroken holds unbroken
        rw [← opened] at bounds
        rw [rule.step_true state sample.frame fps bounds]
        exact ⟨[sample], current.begun holds unbroken, rfl, by simp⟩

end Step

/-! ## Whatever has been observed -/

section After

variable {α : Type} [Scalar α]

/-- The state after samples, from a fresh one. -/
def after (rule : Continuing α) (fps : α) (samples : List Sample) : ContinuingState :=
  samples.foldl (fun state sample => rule.step state sample.frame fps sample.holds) .fresh

@[simp] theorem after_concat (rule : Continuing α) (fps : α) (samples : List Sample) (sample : Sample) :
    rule.after fps (samples ++ [sample]) =
      rule.step (rule.after fps samples) sample.frame fps sample.holds := by
  simp [after]

theorem exists_hasOpen (rule : Continuing α) (fps : α) (samples : List Sample) :
    ∃ run, rule.HasOpen fps samples run (rule.after fps samples) := by
  induction samples using List.reverseRecOn with
  | nil => exact ⟨[], hasOpen_fresh rule fps⟩
  | append_singleton samples sample inductionHypothesis =>
      obtain ⟨run, before⟩ := inductionHypothesis
      rw [after_concat]
      exact before.step

/-- What is open and whether it has lasted, told by the run that ends with the last sample. -/
structure Follows (rule : Continuing α) (fps : α) (run : List Sample) (last : Sample)
    (state : ContinuingState) : Prop where
  opened_eq_none_iff : state.opened = none ↔ last.holds = false
  /-- What is open begins where the run does, and ends with the last sample. -/
  spans : last.holds = true → ∃ first ∈ run.head?, state.opened = some (first.frame, last.frame)
  holding_iff : state.holding = true ↔
    ∃ first ∈ run.head?, rule.duration * fps ≤ Scalar.ofNat (last.frame - first.frame)
  ordered : ∀ bounds ∈ state.opened, bounds.1 ≤ bounds.2

variable {rule : Continuing α} {fps : α} {samples run : List Sample} {last : Sample}
  {state : ContinuingState}

theorem HasOpen.follows (hasOpen : rule.HasOpen fps (samples ++ [last]) run state)
    (ascending : Ascending (samples ++ [last])) : rule.Follows fps run last state := by
  obtain ⟨current, opened, holding⟩ := hasOpen
  cases holds : last.holds with
  | false =>
      obtain rfl := current.unique (.broken samples holds)
      have nothing : state.opened = none := opened
      refine ⟨?_, ?_, ?_, ?_⟩
      · simp [nothing, holds]
      · simp [holds]
      · simpa [span?] using holding
      · simp [nothing]
  | true =>
      obtain ⟨before, rfl⟩ := current.exists_eq_concat holds
      have first : (before ++ [last]).head? = some (before.head?.getD last) := by
        cases before <;> rfl
      have ordered : (before.head?.getD last).frame ≤ last.frame := by
        cases before with
        | nil => exact Nat.le_refl _
        | cons head rest =>
            have within := ascending.sublist current.suffix.sublist
            exact Nat.le_of_lt (List.rel_of_pairwise_cons within (by simp))
      rw [span?_concat] at opened holding
      refine ⟨?_, ?_, ?_, ?_⟩
      · simp [opened, holds]
      · exact fun _ => ⟨_, first, opened⟩
      · simpa [first, Reaches] using holding
      · simpa [opened] using ordered

/-- After each step the longest unbroken suffix of what has been observed is open, and the condition has
lasted exactly if that suffix has reached the duration. This is so for the numbers of any kind; with exact
ones the product is not rounded. -/
theorem follows_of_steps (rule : Continuing α) {fps : α} (positive : Scalar.zero < fps)
    (samples : List Sample) (last : Sample) (ascending : Ascending (samples ++ [last])) :
    ∃ run, IsCurrent (rule.gapTolerance.getD (Scalar.wholePart fps)) (samples ++ [last]) run ∧
      rule.Follows fps run last (rule.after fps (samples ++ [last])) := by
  obtain ⟨run, hasOpen⟩ := rule.exists_hasOpen fps (samples ++ [last])
  rw [← rule.tolerance_eq positive]
  exact ⟨run, hasOpen.current, hasOpen.follows ascending⟩

/-- A condition that has to hold for one second of video. -/
def aSecond : Continuing ExactNumber := ⟨.finite 1, none⟩

/-- It fails on the second frame, and is not observed on the third and the fifth. -/
def resumed : List Sample := [⟨1, true⟩, ⟨2, false⟩, ⟨4, true⟩, ⟨6, true⟩]

/-- At two and a half frames a second one frame may be missed. Three frames are the first to reach the
second. -/
theorem follows_of_steps_resumed :
    (Scalar.zero : ExactNumber) < .finite (5 / 2) ∧ Ascending (resumed ++ [⟨7, true⟩]) ∧
      (∃ run, IsCurrent 2 (resumed ++ [⟨7, true⟩]) run ∧
        aSecond.Follows (.finite (5 / 2)) run ⟨7, true⟩
          (aSecond.after (.finite (5 / 2)) (resumed ++ [⟨7, true⟩]))) ∧
      aSecond.after (.finite (5 / 2)) (resumed ++ [⟨7, true⟩]) = ⟨true, some (4, 7), [(1, 2)]⟩ := by
  have positive : (Scalar.zero : ExactNumber) < .finite (5 / 2) := by decide +kernel
  have ascending : Ascending (resumed ++ [⟨7, true⟩]) := by decide
  have tolerance : aSecond.gapTolerance.getD (Scalar.wholePart (.finite (5 / 2) : ExactNumber)) = 2 := by
    decide +kernel
  have follows := follows_of_steps aSecond positive resumed ⟨7, true⟩ ascending
  rw [tolerance] at follows
  exact ⟨positive, ascending, follows, by decide +kernel⟩

end After

end Continuing

end ObjectQuery
