import Mathlib.Data.List.SplitBy
import Mathlib.Tactic.Linarith
import Mathlib.Tactic.Positivity
import ObjectQuery.Proofs.Property.Continuing

/-!
# The recorded periods of a condition

The observations fall into maximal runs (`runs`). Every run that reaches the duration is recorded when it
does, and its end is moved as it goes on. What is recorded is known by the second in which it begins, so
that of runs that begin in one second only the last is left (`recorded_of_steps`). From a duration of one
second on no two recorded runs do, and every one of them has its period; below, a run may be recorded in
place of the one before it (`period_overwritten`).
-/

namespace ObjectQuery

namespace Continuing

/-! ## Maximal runs -/

/-- Whether a sample and the next one belong to one run. -/
def joins (tolerance : Nat) (earlier later : Sample) : Bool :=
  earlier.holds && later.holds && decide (later.frame - earlier.frame ≤ tolerance)

/-- The maximal unbroken runs, in their order. -/
def runs (tolerance : Nat) (samples : List Sample) : List (List Sample) :=
  (samples.splitBy (joins tolerance)).filter fun run => run.all Sample.holds

section Runs

variable {tolerance : Nat} {samples run before later : List Sample} {sample : Sample}

theorem joins_iff {earlier : Sample} : joins tolerance earlier sample = true ↔
    earlier.holds = true ∧ sample.holds = true ∧ sample.frame - earlier.frame ≤ tolerance := by
  simp [joins, and_assoc]

theorem Unbroken.chain (unbroken : Unbroken tolerance run) :
    run.IsChain fun earlier later => joins tolerance earlier later = true := by
  induction run using List.reverseRecOn with
  | nil => exact List.isChain_nil
  | append_singleton run sample inductionHypothesis =>
      obtain ⟨before, holds, gap⟩ := unbroken_concat_iff.mp unbroken
      refine (inductionHypothesis before).append (List.isChain_singleton sample) fun last atEnd => ?_
      have held := before.holds last (List.mem_of_mem_getLast? atEnd)
      simpa [joins_iff, held, holds] using gap last atEnd

theorem unbroken_of_chain (holds : ∀ sample ∈ run, sample.holds = true)
    (chain : run.IsChain fun earlier later => joins tolerance earlier later = true) :
    Unbroken tolerance run :=
  ⟨holds, chain.imp fun _ _ joined => (joins_iff.mp joined).2.2⟩

theorem unbroken_cons_iff {last first : Sample} (unbroken : Unbroken tolerance run)
    (isHead : first ∈ run.head?) :
    Unbroken tolerance (last :: run) ↔ joins tolerance last first = true := by
  have held := unbroken.holds first (List.mem_of_mem_head? isHead)
  constructor
  · intro longer
    exact (List.isChain_cons.mp longer.chain).1 first isHead
  · intro joined
    refine unbroken_of_chain ?_ (List.isChain_cons.mpr ⟨fun next atHead => ?_, unbroken.chain⟩)
    · simpa [(joins_iff.mp joined).1] using unbroken.holds
    · rwa [Option.mem_unique atHead isHead]

theorem joins_eq_false {last first : Sample} (unbroken : Unbroken tolerance run)
    (isHead : first ∈ run.head?) (apart : ¬ Unbroken tolerance (last :: run)) :
    joins tolerance last first = false :=
  eq_false_of_ne_true fun joined => apart ((unbroken_cons_iff unbroken isHead).mpr joined)

/-- The run that samples end with is the last one of theirs. -/
theorem runs_append (current : IsCurrent tolerance (before ++ run) run) (filled : run ≠ []) :
    runs tolerance (before ++ run) = runs tolerance before ++ [run] := by
  have apart : ∀ last ∈ before.getLast?, ∀ first ∈ run.head?, joins tolerance last first = false := by
    intro last atEnd first isHead
    refine joins_eq_false current.unbroken isHead fun longer => ?_
    obtain ⟨front, rfl⟩ := List.getLast?_eq_some_iff.mp atEnd
    have shorter := current.longest (last :: run) ⟨front, by simp⟩ longer
    exact absurd shorter (by simp)
  have held : run.all Sample.holds = true := List.all_eq_true.mpr current.unbroken.holds
  unfold runs
  rw [List.splitBy_append apart, List.splitBy_of_isChain filled current.unbroken.chain,
    List.filter_append]
  simp [held]

/-- A run is listed exactly if it is a stretch of the samples that is unbroken and would not be so with the
sample before it or the one after it. -/
theorem mem_runs_iff : run ∈ runs tolerance samples ↔
    run ≠ [] ∧ Unbroken tolerance run ∧ ∃ before later, samples = before ++ (run ++ later) ∧
      (∀ last ∈ before.getLast?, ¬ Unbroken tolerance (last :: run)) ∧
      ∀ next ∈ later.head?, ¬ Unbroken tolerance (run ++ [next]) := by
  constructor
  · intro listed
    obtain ⟨split, held⟩ := List.mem_filter.mp listed
    have filled := List.ne_nil_of_mem_splitBy split
    have unbroken := unbroken_of_chain (List.all_eq_true.mp held) (List.isChain_of_mem_splitBy split)
    obtain ⟨front, back, parts⟩ := List.append_of_mem split
    have nonempty := List.nil_notMem_splitBy (joins tolerance) samples
    have apart := List.isChain_getLast_head_splitBy (joins tolerance) samples
    rw [parts] at nonempty apart
    obtain ⟨-, after, between⟩ := List.isChain_append.mp apart
    refine ⟨filled, unbroken, front.flatten, back.flatten, ?_, ?_, ?_⟩
    · rw [← List.flatten_cons, ← List.flatten_append, ← parts, List.flatten_splitBy]
    · intro last atEnd longer
      cases front using List.reverseRecOn with
      | nil => exact absurd atEnd (by simp)
      | append_singleton front neighbour =>
          obtain ⟨ends, _, separate⟩ := between neighbour (by simp) run (by simp)
          rw [List.flatten_append, List.flatten_singleton, List.getLast?_append_of_ne_nil _ ends] at atEnd
          rw [List.getLast_of_mem_getLast? atEnd] at separate
          have joined := (unbroken_cons_iff unbroken (List.head_mem_head? filled)).mp longer
          exact absurd (joined.symm.trans separate) (by decide)
    · intro next isHead longer
      cases back with
      | nil => exact absurd isHead (by simp)
      | cons neighbour back =>
          obtain ⟨_, begins, separate⟩ := (List.isChain_cons.mp after).1 neighbour (by simp)
          rw [List.flatten_cons, List.head?_append_of_ne_nil _ begins] at isHead
          rw [List.head_of_mem_head? isHead] at separate
          have joined := (List.isChain_append.mp longer.chain).2.2 (run.getLast filled)
            (List.getLast_mem_getLast? filled) next (by simp)
          exact absurd (joined.symm.trans separate) (by decide)
  · rintro ⟨filled, unbroken, before, later, rfl, begins, ends⟩
    have held : run.all Sample.holds = true := List.all_eq_true.mpr unbroken.holds
    have first : ∀ last ∈ before.getLast?, ∀ next ∈ (run ++ later).head?,
        joins tolerance last next = false := by
      intro last atEnd next isHead
      rw [List.head?_append_of_ne_nil _ filled] at isHead
      exact joins_eq_false unbroken isHead (begins last atEnd)
    have second : ∀ last ∈ run.getLast?, ∀ next ∈ later.head?, joins tolerance last next = false := by
      intro last atEnd next isHead
      refine eq_false_of_ne_true fun joined => ends next isHead ?_
      obtain ⟨_, holds, gap⟩ := joins_iff.mp joined
      refine unbroken_concat_iff.mpr ⟨unbroken, holds, fun other atEndToo => ?_⟩
      rwa [Option.mem_unique atEndToo atEnd]
    unfold runs
    rw [List.splitBy_append first, List.splitBy_append second,
      List.splitBy_of_isChain filled unbroken.chain, List.mem_filter]
    exact ⟨by simp, held⟩

theorem runs_concat_of_fails (samples : List Sample) (fails : sample.holds = false) :
    runs tolerance (samples ++ [sample]) = runs tolerance samples := by
  have apart : ∀ last ∈ samples.getLast?, joins tolerance last sample = false := by
    simp [joins, fails]
  unfold runs
  rw [List.splitBy_append_cons [] apart, List.filter_append]
  simp [List.splitBy_of_isChain, fails]

theorem exists_span?_concat (filled : run ≠ []) (ascending : Ascending (run ++ [sample])) :
    ∃ first last, last ≤ sample.frame ∧ span? run = some (first, last) ∧
      span? (run ++ [sample]) = some (first, sample.frame) := by
  cases run using List.reverseRecOn with
  | nil => exact absurd rfl filled
  | append_singleton front last =>
      have later : last.frame < sample.frame :=
        (List.pairwise_append.mp ascending).2.2 last (by simp) sample (by simp)
      refine ⟨_, _, later.le, span?_concat front last, ?_⟩
      rw [span?_concat]
      cases front <;> rfl

theorem exists_of_span? {bounds : Nat × Nat} (spans : span? run = some bounds) :
    ∃ first ∈ run, ∃ last ∈ run, bounds = (first.frame, last.frame) := by
  obtain ⟨first, isHead, rest⟩ := Option.bind_eq_some_iff.mp spans
  obtain ⟨last, atEnd, rfl⟩ := Option.map_eq_some_iff.mp rest
  exact ⟨first, List.mem_of_mem_head? isHead, last, List.mem_of_mem_getLast? atEnd, rfl⟩

theorem mem_of_mem_runs (listed : run ∈ runs tolerance samples) (member : sample ∈ run) :
    sample ∈ samples := by
  rw [← List.flatten_splitBy (joins tolerance) samples]
  exact List.mem_flatten_of_mem (List.mem_filter.mp listed).1 member

theorem ordered_runs (ascending : Ascending samples) : (runs tolerance samples).Pairwise fun first second =>
    ∀ a ∈ first, ∀ b ∈ second, a.frame < b.frame := by
  rw [← List.flatten_splitBy (joins tolerance) samples] at ascending
  exact (List.pairwise_flatten.mp ascending).2.sublist List.filter_sublist

end Runs

/-! ## One entry a second -/

/-- An entry is left out if the next one begins in the same second. -/
def lastInSecond : List (Nat × Nat) → List (Nat × Nat)
  | [] => []
  | [entry] => [entry]
  | entry :: next :: rest =>
    if next.1 = entry.1 then lastInSecond (next :: rest) else entry :: lastInSecond (next :: rest)

section Entries

variable {entry last : Nat × Nat} {entries : List (Nat × Nat)}

theorem recordPeriod_concat (entries : List (Nat × Nat)) (last entry : Nat × Nat) :
    recordPeriod (entries ++ [last]) entry =
      if last.1 = entry.1 then entries ++ [entry] else entries ++ [last] ++ [entry] := by
  simp [recordPeriod]

/-- What is recorded twice in one second is recorded once. -/
theorem recordPeriod_again (entries : List (Nat × Nat)) (same : last.1 = entry.1) :
    recordPeriod (recordPeriod entries last) entry = recordPeriod entries entry := by
  cases entries using List.reverseRecOn with
  | nil => simp [recordPeriod, same]
  | append_singleton entries before =>
      rw [recordPeriod_concat, recordPeriod_concat, same]
      split
      · rw [recordPeriod_concat, if_pos same]
      · rw [recordPeriod_concat, if_pos same]

theorem recordPeriod_cons (first : Nat × Nat) (filled : entries ≠ []) (entry : Nat × Nat) :
    recordPeriod (first :: entries) entry = first :: recordPeriod entries entry := by
  cases entries using List.reverseRecOn with
  | nil => exact absurd rfl filled
  | append_singleton entries last =>
      rw [← List.cons_append, recordPeriod_concat, recordPeriod_concat]
      split <;> rfl

theorem lastInSecond_ne_nil (filled : entries ≠ []) : lastInSecond entries ≠ [] := by
  induction entries using lastInSecond.induct with
  | case1 => exact absurd rfl filled
  | case2 entry => exact List.cons_ne_nil _ _
  | case3 entry next rest same inductionHypothesis =>
      rw [lastInSecond, if_pos same]
      exact inductionHypothesis (List.cons_ne_nil _ _)
  | case4 entry next rest different _ =>
      rw [lastInSecond, if_neg different]
      exact List.cons_ne_nil _ _

/-- To record an entry is to leave out the one before it where both begin in the same second. -/
theorem lastInSecond_concat (entries : List (Nat × Nat)) (entry : Nat × Nat) :
    lastInSecond (entries ++ [entry]) = recordPeriod (lastInSecond entries) entry := by
  induction entries using lastInSecond.induct with
  | case1 => rfl
  | case2 first => simp [lastInSecond, recordPeriod, eq_comm]
  | case3 first next rest same inductionHypothesis =>
      rw [List.cons_append, List.cons_append, lastInSecond, if_pos same, lastInSecond, if_pos same]
      exact inductionHypothesis
  | case4 first next rest different inductionHypothesis =>
      rw [List.cons_append, List.cons_append, lastInSecond, if_neg different, lastInSecond,
        if_neg different, recordPeriod_cons first (lastInSecond_ne_nil (List.cons_ne_nil _ _)),
        ← inductionHypothesis, List.cons_append]

theorem length_lastInSecond_le (entries : List (Nat × Nat)) :
    (lastInSecond entries).length ≤ entries.length := by
  induction entries using lastInSecond.induct with
  | case1 => exact Nat.le_refl _
  | case2 entry => exact Nat.le_refl _
  | case3 entry next rest same inductionHypothesis =>
      rw [lastInSecond, if_pos same]
      exact Nat.le_succ_of_le inductionHypothesis
  | case4 entry next rest different inductionHypothesis =>
      rw [lastInSecond, if_neg different]
      exact Nat.succ_le_succ inductionHypothesis

/-- Nothing is left out exactly if no entry begins in the second of the one before it. -/
theorem lastInSecond_eq_self_iff : lastInSecond entries = entries ↔
    entries.IsChain fun earlier later => earlier.1 ≠ later.1 := by
  induction entries using lastInSecond.induct with
  | case1 => exact iff_of_true rfl List.isChain_nil
  | case2 entry => exact iff_of_true rfl (List.isChain_singleton entry)
  | case3 entry next rest same _ =>
      rw [lastInSecond, if_pos same, List.isChain_cons_cons]
      refine iff_of_false (fun whole => ?_) fun apart => apart.1 same.symm
      have shorter := length_lastInSecond_le (next :: rest)
      rw [whole] at shorter
      exact absurd shorter (Nat.not_succ_le_self _)
  | case4 entry next rest different inductionHypothesis =>
      rw [lastInSecond, if_neg different, List.isChain_cons_cons, List.cons.injEq, and_iff_right rfl,
        inductionHypothesis]
      exact (and_iff_right fun same => different same.symm).symm

end Entries

/-! ## What runs have recorded -/

section Recorded

variable {α : Type} [Scalar α] {rule : Continuing α} {fps : α} {state : ContinuingState}
  {samples run : List Sample} {sample : Sample}

/-- The entry of a run, in whole seconds, if the run reaches the duration. -/
def period? (rule : Continuing α) (fps : α) (run : List Sample) : Option (Nat × Nat) :=
  ((span? run).filter fun bounds => rule.Reaches fps (bounds.2 - bounds.1)).map fun bounds =>
    (Scalar.wholePart (Scalar.ofNat bounds.1 / fps), Scalar.wholePart (Scalar.ofNat bounds.2 / fps))

/-- The entries of all maximal runs that reach the duration, in their order. -/
def entries (rule : Continuing α) (fps : α) (samples : List Sample) : List (Nat × Nat) :=
  (runs (rule.gapTolerance.getD (Scalar.wholePart fps)) samples).filterMap (rule.period? fps)

/-- Whether a run that has reached the duration has still reached it when it goes on. -/
def Lasts (rule : Continuing α) (fps : α) : Prop :=
  ∀ shorter longer, shorter ≤ longer → rule.Reaches fps shorter → rule.Reaches fps longer

theorem period?_eq {bounds : Nat × Nat} (spans : span? run = some bounds) :
    rule.period? fps run =
      if rule.Reaches fps (bounds.2 - bounds.1) then
        some (Scalar.wholePart (Scalar.ofNat bounds.1 / fps), Scalar.wholePart (Scalar.ofNat bounds.2 / fps))
      else none := by
  rw [period?, spans, Option.filter_some]
  by_cases reached : rule.Reaches fps (bounds.2 - bounds.1) <;> simp [reached]

theorem second_eq (positive : Scalar.zero < fps) (frame : Nat) :
    second fps frame = Scalar.wholePart (Scalar.ofNat frame / fps) := if_pos positive

/-- A step records the run that it leaves open. -/
theorem periods_step (positive : Scalar.zero < fps) {bounds : Nat × Nat}
    (opened : extend (rule.tolerance fps) state.opened sample.frame = bounds)
    (spans : span? run = some bounds) :
    (rule.step state sample.frame fps true).periods =
      (rule.period? fps run).elim state.periods (recordPeriod state.periods) := by
  rw [rule.step_true state sample.frame fps opened, period?_eq spans, second_eq positive,
    second_eq positive]
  by_cases reached : rule.Reaches fps (bounds.2 - bounds.1) <;> simp [reached]

theorem lastInSecond_append (before : List (Nat × Nat)) (entry : Option (Nat × Nat)) :
    lastInSecond (before ++ entry.toList) =
      entry.elim (lastInSecond before) (recordPeriod (lastInSecond before)) := by
  cases entry with
  | none => simp
  | some entry => exact lastInSecond_concat before entry

theorem entries_append {before : List Sample}
    (current : IsCurrent (rule.gapTolerance.getD (Scalar.wholePart fps)) (before ++ run) run)
    (filled : run ≠ []) :
    rule.entries fps (before ++ run) = rule.entries fps before ++ (rule.period? fps run).toList := by
  unfold entries
  rw [runs_append current filled, List.filterMap_append]
  cases spans : rule.period? fps run <;> simp [spans]

theorem entries_concat_of_fails (samples : List Sample) (fails : sample.holds = false) :
    rule.entries fps (samples ++ [sample]) = rule.entries fps samples := by
  rw [entries, runs_concat_of_fails samples fails, entries]

/-- When a run goes on its entry keeps the second in which it begins. -/
theorem recordPeriod_period? (lasts : rule.Lasts fps) (filled : run ≠ [])
    (ascending : Ascending (run ++ [sample])) (before : List (Nat × Nat)) :
    (rule.period? fps (run ++ [sample])).elim (lastInSecond (before ++ (rule.period? fps run).toList))
        (recordPeriod (lastInSecond (before ++ (rule.period? fps run).toList))) =
      lastInSecond (before ++ (rule.period? fps (run ++ [sample])).toList) := by
  obtain ⟨first, last, later, shorter, longer⟩ := exists_span?_concat filled ascending
  rw [period?_eq longer, period?_eq shorter, lastInSecond_append, lastInSecond_append]
  by_cases reachesNow : rule.Reaches fps (sample.frame - first)
  · rw [if_pos reachesNow]
    split
    · exact recordPeriod_again _ rfl
    · rfl
  · have unreached : ¬ rule.Reaches fps (last - first) := fun reached =>
      reachesNow (lasts _ _ (by omega) reached)
    rw [if_neg reachesNow, if_neg unreached]
    rfl

/-- What is recorded after samples. -/
theorem periods_after (positive : Scalar.zero < fps) (lasts : rule.Lasts fps)
    (ascending : Ascending samples) :
    (rule.after fps samples).periods = lastInSecond (rule.entries fps samples) := by
  induction samples using List.reverseRecOn with
  | nil => rfl
  | append_singleton samples sample inductionHypothesis =>
      have before := inductionHypothesis (List.pairwise_append.mp ascending).1
      obtain ⟨run, current, opened, -⟩ := rule.exists_hasOpen fps samples
      rw [after_concat]
      have tolerance := rule.tolerance_eq positive
      cases holds : sample.holds with
      | false =>
          rw [step_false, before, entries_concat_of_fails samples holds]
      | true =>
          by_cases unbroken : Unbroken (rule.tolerance fps) (run ++ [sample])
          · have bounds := extend_of_unbroken unbroken
            rw [← opened] at bounds
            rw [periods_step positive bounds (span?_concat run sample), before]
            obtain ⟨earlier, rfl⟩ := current.suffix
            have goesOn := current.extended unbroken
            rw [List.append_assoc] at goesOn ⊢
            rw [tolerance] at goesOn current
            rw [entries_append goesOn (by simp)]
            rcases eq_or_ne run [] with rfl | filled
            · rw [List.append_nil, List.nil_append, lastInSecond_append]
            · rw [entries_append current filled]
              refine recordPeriod_period? lasts filled ?_ _
              exact ascending.sublist (by simp)
          · have bounds := extend_of_apart current.unbroken holds unbroken
            rw [← opened] at bounds
            have begins := current.begun holds unbroken
            rw [tolerance] at begins
            rw [periods_step positive bounds span?_singleton, before, entries_append begins (by simp),
              lastInSecond_append]

end Recorded

/-! ## Exact numbers -/

section Exact

variable {rule : Continuing ExactNumber} {fps : ExactNumber} {samples : List Sample}

theorem lasts_exact (rule : Continuing ExactNumber) (fps : ExactNumber) : rule.Lasts fps := by
  intro shorter longer atMost reached
  unfold Reaches at *
  rw [ExactNumber.ofNat_eq] at *
  generalize rule.duration * fps = needed at *
  cases needed with
  | finite needed =>
      rw [ExactNumber.finite_le_iff] at *
      exact reached.trans (Nat.cast_le.mpr atMost)
  | infinite negative => exact reached
  | undefined => exact reached

/-- What reaches a duration of a second or more is not shorter than a second. -/
theorem exists_of_reaches (positive : Scalar.zero < fps) (long : Scalar.one ≤ rule.duration) {length : Nat}
    (reached : rule.Reaches fps length) : ∃ rate : ℚ, fps = .finite rate ∧ 0 < rate ∧ rate ≤ length := by
  unfold Reaches at reached
  generalize rule.duration = duration at *
  cases fps with
  | finite rate =>
      have positive : 0 < rate := by simpa [Scalar.zero] using positive
      cases duration with
      | finite seconds =>
          have long : 1 ≤ seconds := by simpa [Scalar.one] using long
          have reached : seconds * rate ≤ length := by simpa using reached
          exact ⟨rate, rfl, positive, (le_mul_of_one_le_left positive.le long).trans reached⟩
      | infinite negative =>
          cases negative with
          | false =>
              rw [ExactNumber.infinite_mul positive] at reached
              exact absurd reached (ExactNumber.not_infinite_le_finite _)
          | true => exact absurd long (by decide)
      | undefined => exact absurd long (by decide)
  | infinite negative =>
      cases negative with
      | false =>
          cases duration with
          | finite seconds =>
              have long : 1 ≤ seconds := by simpa [Scalar.one] using long
              rw [ExactNumber.mul_infinite (zero_lt_one.trans_le long)] at reached
              exact absurd reached (ExactNumber.not_infinite_le_finite _)
          | infinite negative =>
              cases negative with
              | false => exact absurd reached (ExactNumber.not_infinite_le_finite _)
              | true => exact absurd long (by decide)
          | undefined => exact absurd long (by decide)
      | true => exact absurd positive (by decide)
  | undefined => exact absurd positive (by decide)

/-- Frames that are a second apart lie in different seconds. -/
theorem wholePart_div_lt {rate : ℚ} (positive : 0 < rate) {early late : Nat} (apart : early + rate ≤ late)
    (fits : (Scalar.ofNat late : ExactNumber) / .finite rate ≤ .finite 18446744073709551615) :
    Scalar.wholePart ((Scalar.ofNat early : ExactNumber) / .finite rate) <
      Scalar.wholePart ((Scalar.ofNat late : ExactNumber) / .finite rate) := by
  rw [ExactNumber.ofNat_eq, ExactNumber.ofNat_eq, ExactNumber.finite_div positive.ne',
    ExactNumber.finite_div positive.ne'] at *
  have later : (early : ℚ) / rate + 1 ≤ late / rate := by
    rw [← div_self positive.ne', ← add_div]
    exact div_le_div_of_nonneg_right apart positive.le
  have bound : (late : ℚ) / rate ≤ 18446744073709551615 := ExactNumber.finite_le_iff.mp fits
  have seconds := Rat.floor_monotone later
  rw [Rat.floor_add_one] at seconds
  have first : 0 ≤ ((early : ℚ) / rate).floor := Rat.le_floor_iff.mpr (by positivity)
  rw [ExactNumber.wholePart_finite bound, ExactNumber.wholePart_finite (by linarith)]
  omega

theorem exists_of_period? {run : List Sample} {entry : Nat × Nat}
    (recorded : rule.period? fps run = some entry) :
    ∃ first ∈ run, ∃ last ∈ run, rule.Reaches fps (last.frame - first.frame) ∧
      entry.1 = Scalar.wholePart (Scalar.ofNat first.frame / fps) := by
  obtain ⟨bounds, kept, rfl⟩ := Option.map_eq_some_iff.mp recorded
  obtain ⟨spans, reached⟩ := Option.filter_eq_some_iff.mp kept
  obtain ⟨first, member, last, memberToo, rfl⟩ := exists_of_span? spans
  exact ⟨first, member, last, memberToo, of_decide_eq_true reached, rfl⟩

/-- Runs that last for a second or more begin in different seconds. -/
theorem entries_apart (positive : Scalar.zero < fps) (long : Scalar.one ≤ rule.duration)
    (ascending : Ascending samples) (fits : ∀ sample ∈ samples,
      (Scalar.ofNat sample.frame : ExactNumber) / fps ≤ .finite 18446744073709551615) :
    (rule.entries fps samples).IsChain fun earlier later => earlier.1 ≠ later.1 := by
  suffices ascends : (rule.entries fps samples).Pairwise fun earlier later => earlier.1 < later.1 from
    (ascends.imp fun below => Nat.ne_of_lt below).isChain
  refine List.pairwise_filterMap.mpr ((ordered_runs ascending).imp_of_mem ?_)
  intro run next _ listed ordered entry recorded other recordedToo
  obtain ⟨first, _, last, ends, reached, begins⟩ := exists_of_period? recorded
  obtain ⟨start, starts, _, _, _, beginsToo⟩ := exists_of_period? recordedToo
  obtain ⟨rate, rfl, positive, atMost⟩ := exists_of_reaches positive long reached
  have later := ordered last ends start starts
  have ascends : first.frame ≤ last.frame := by
    by_contra reversed
    rw [Nat.sub_eq_zero_of_le (by omega), Nat.cast_zero] at atMost
    exact absurd atMost positive.not_ge
  rw [begins, beginsToo]
  refine wholePart_div_lt positive ?_ (fits start (mem_of_mem_runs listed starts))
  rw [Nat.cast_sub ascends] at atMost
  have below : (last.frame : ℚ) ≤ start.frame := by exact_mod_cast later.le
  linarith

/-- What is recorded after samples. -/
structure Records (rule : Continuing ExactNumber) (fps : ExactNumber) (samples : List Sample)
    (state : ContinuingState) : Prop where
  /-- The entries of the runs, the last one of each second. -/
  periods_eq : state.periods = lastInSecond (rule.entries fps samples)
  /-- Every run has an entry of its own exactly if no two in a row begin in the same second. -/
  complete_iff : state.periods = rule.entries fps samples ↔
    (rule.entries fps samples).IsChain fun earlier later => earlier.1 ≠ later.1
  /-- So it is for a duration of a second or more, as long as the seconds fit 64 bits. -/
  complete_of_long : Scalar.one ≤ rule.duration →
    (∀ sample ∈ samples, Scalar.ofNat sample.frame / fps ≤ .finite 18446744073709551615) →
      state.periods = rule.entries fps samples
  /-- No step changes any entry but the last. -/
  kept : ∀ sample : Sample,
    state.periods.dropLast <+: (rule.step state sample.frame fps sample.holds).periods

theorem dropLast_prefix_step (rule : Continuing ExactNumber) (fps : ExactNumber) (state : ContinuingState)
    (sample : Sample) :
    state.periods.dropLast <+: (rule.step state sample.frame fps sample.holds).periods := by
  cases sample.holds with
  | false => exact List.dropLast_prefix _
  | true =>
      rw [rule.step_true state sample.frame fps rfl]
      dsimp only
      split
      · generalize state.periods = periods
        cases periods using List.reverseRecOn with
        | nil => exact List.nil_prefix
        | append_singleton periods last =>
            rw [recordPeriod_concat, List.dropLast_concat]
            split
            · exact List.prefix_append _ _
            · rw [List.append_assoc]
              exact List.prefix_append _ _
      · exact List.dropLast_prefix _

/-- After each step the state lists the maximal runs that have reached the duration, by the seconds in which
they begin and end, but for those that are followed by one that begins in the same second. -/
theorem recorded_of_steps (rule : Continuing ExactNumber) {fps : ExactNumber} (positive : Scalar.zero < fps)
    (samples : List Sample) (ascending : Ascending samples) :
    rule.Records fps samples (rule.after fps samples) := by
  have periods := periods_after positive (lasts_exact rule fps) ascending
  refine ⟨periods, ?_, fun long fits => ?_, dropLast_prefix_step rule fps _⟩
  · rw [periods, lastInSecond_eq_self_iff]
  · rw [periods, lastInSecond_eq_self_iff]
    exact entries_apart positive long ascending fits

/-- It fails on the fifth frame. -/
def parted : List Sample :=
  [⟨1, true⟩, ⟨2, true⟩, ⟨3, true⟩, ⟨4, true⟩, ⟨5, false⟩, ⟨6, true⟩, ⟨7, true⟩, ⟨8, true⟩]

/-- At two frames a second both runs last for a second, and each of them has its period. -/
theorem recorded_of_steps_parted :
    (Scalar.zero : ExactNumber) < .finite 2 ∧ Ascending parted ∧
      aSecond.Records (.finite 2) parted (aSecond.after (.finite 2) parted) ∧
      aSecond.entries (.finite 2) parted = [(0, 2), (3, 4)] := by
  have positive : (Scalar.zero : ExactNumber) < .finite 2 := by decide +kernel
  have ascending : Ascending parted := by decide
  exact ⟨positive, ascending, recorded_of_steps aSecond positive parted ascending, by decide +kernel⟩

/-! ### Two periods in one second -/

/-- A condition that has to hold for a fifth of a second. -/
def aFifth : Continuing ExactNumber := ⟨.finite (1 / 5), none⟩

/-- It fails on the fourth frame, and is not observed again between the fifth and the twelfth. -/
def interrupted : List Sample :=
  [⟨1, true⟩, ⟨2, true⟩, ⟨3, true⟩, ⟨4, false⟩, ⟨5, true⟩, ⟨12, true⟩]

/-- At ten frames a second two runs begin within the first second. The second one is recorded in place of
the first, which is not found any more. -/
theorem period_overwritten :
    (Scalar.zero : ExactNumber) ≤ aFifth.duration ∧ (Scalar.zero : ExactNumber) < .finite 10 ∧
      Ascending interrupted ∧
      runs 10 interrupted = [[⟨1, true⟩, ⟨2, true⟩, ⟨3, true⟩], [⟨5, true⟩, ⟨12, true⟩]] ∧
      aFifth.entries (.finite 10) interrupted = [(0, 0), (0, 1)] ∧
      (aFifth.after (.finite 10) (interrupted.take 5)).periods = [(0, 0)] ∧
      (aFifth.after (.finite 10) interrupted).periods = [(0, 1)] := by
  decide +kernel

end Exact

end Continuing

end ObjectQuery
