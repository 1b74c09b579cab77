import ObjectQuery.Proofs.Property.Continuing

/-!
# States as values

The integers of a value stand for frames, which are never negative, and for seconds, which use all of their 64
bits. A state is read back from its value exactly if its numbers fit (`ofValue_toValue_iff`). What is read
from any value fits (`storable_ofValue`), and what a step makes of such a state does as well
(`Continuing.storable_step`).
-/

namespace ObjectQuery

/-! ## Integers of a value -/

/-- A number that is not negative as an integer of 64 bits is read back. -/
theorem Value.nat?_ofNat {n : Nat} (fits : n < 2 ^ 63) : (Value.ofNat n).nat? = some n := by
  change (if 0 ≤ (Int64.ofNat n).toInt then some (Int64.ofNat n).toInt.toNat else none) = some n
  rw [Int64.toInt_ofNat_of_lt fits, if_pos (Int.natCast_nonneg n), Int.toNat_natCast]

theorem Value.lt_of_nat? {value : Value} {n : Nat} (read : value.nat? = some n) : n < 2 ^ 63 := by
  cases value with
  | int k =>
      have bound := k.toInt_lt
      change (if 0 ≤ k.toInt then some k.toInt.toNat else none) = some n at read
      split at read
      · have equal := Option.some.inj read
        omega
      · exact absurd read (by simp)
  | _ => exact absurd read (by simp [Value.nat?])

namespace ContinuingState

theorem wordOf_lt (n : Int64) : wordOf n < 2 ^ 64 := n.toUInt64.toNat_lt

/-- A number of 64 bits is read back, also where it is a negative integer in between. -/
theorem wordOf_ofNat {n : Nat} (fits : n < 2 ^ 64) : wordOf (Int64.ofNat n) = n :=
  UInt64.toNat_ofNat_of_lt fits

/-! ## States that are read back -/

/-- The open frames are not negative as integers, and the seconds are numbers of 64 bits. -/
structure Storable (state : ContinuingState) : Prop where
  opened : ∀ bounds ∈ state.opened, bounds.1 < 2 ^ 63 ∧ bounds.2 < 2 ^ 63
  periods : ∀ period ∈ state.periods, period.1 < 2 ^ 64 ∧ period.2 < 2 ^ 64

theorem storable_fresh : fresh.Storable := ⟨by simp [fresh], by simp [fresh]⟩

theorem period?_list {period : Nat × Nat} (fits : period.1 < 2 ^ 64 ∧ period.2 < 2 ^ 64) :
    period? (.list [.ofNat period.1, .ofNat period.2]) = some period := by
  change some (wordOf (Int64.ofNat period.1), wordOf (Int64.ofNat period.2)) = some period
  rw [wordOf_ofNat fits.1, wordOf_ofNat fits.2]

theorem lt_of_period? {value : Value} {period : Nat × Nat} (read : period? value = some period) :
    period.1 < 2 ^ 64 ∧ period.2 < 2 ^ 64 := by
  unfold period? at read
  split at read
  · simp only [Option.bind_eq_bind, Option.bind_eq_some_iff, Option.pure_def, Option.some.injEq] at read
    obtain ⟨first, -, last, -, rfl⟩ := read
    exact ⟨wordOf_lt first, wordOf_lt last⟩
  · exact absurd read (by simp)

/-- All periods of a list are read back. -/
theorem filterMap_period? {periods : List (Nat × Nat)}
    (fit : ∀ period ∈ periods, period.1 < 2 ^ 64 ∧ period.2 < 2 ^ 64) :
    (periods.map fun (first, last) => Value.list [.ofNat first, .ofNat last]).filterMap period? =
      periods := by
  rw [List.filterMap_map]
  refine (List.filterMap_congr fun period member => ?_).trans List.filterMap_some
  exact period?_list (fit period member)

theorem ofValue_toValue {state : ContinuingState} (storable : state.Storable) :
    ofValue state.toValue = state := by
  obtain ⟨holding, opened, periods⟩ := state
  have read := filterMap_period? storable.periods
  cases opened with
  | none => exact congrArg (ContinuingState.mk holding none) read
  | some bounds =>
      obtain ⟨first, last⟩ := storable.opened bounds rfl
      unfold toValue ofValue
      simp only [Value.nat?_ofNat first, Value.nat?_ofNat last]
      exact congrArg (ContinuingState.mk holding (some bounds)) read

/-- What is read from a value can be stored, whatever the value is. -/
theorem storable_ofValue (value : Value) : (ofValue value).Storable := by
  unfold ofValue
  split
  · rename_i holding first last periods
    refine ⟨fun bounds stored => ?_, fun period member => ?_⟩
    · dsimp only at stored
      split at stored
      · rename_i start finish starts finishes
        obtain rfl := Option.some.inj stored
        exact ⟨Value.lt_of_nat? starts, Value.lt_of_nat? finishes⟩
      · exact absurd stored (by simp)
    · obtain ⟨item, -, read⟩ := List.mem_filterMap.mp member
      exact lt_of_period? read
  · exact storable_fresh

/-- A state is read back from its value exactly if its numbers fit. -/
theorem ofValue_toValue_iff (state : ContinuingState) :
    ofValue state.toValue = state ↔ state.Storable :=
  ⟨fun same => same ▸ storable_ofValue state.toValue, ofValue_toValue⟩

end ContinuingState

/-! ## Steps -/

namespace Continuing

open ContinuingState

theorem second_lt (fps : Float) (frame : Nat) : second fps frame < 2 ^ 64 := by
  rw [second]
  split
  · exact (Scalar.ofNat frame / fps).toUInt64.toNat_lt
  · decide

theorem extend_lt {tolerance : Nat} {opened : Option (Nat × Nat)} {frame : Nat}
    (fits : frame < 2 ^ 63) (before : ∀ bounds ∈ opened, bounds.1 < 2 ^ 63 ∧ bounds.2 < 2 ^ 63) :
    (extend tolerance opened frame).1 < 2 ^ 63 ∧ (extend tolerance opened frame).2 < 2 ^ 63 := by
  unfold extend
  split
  · split
    · exact ⟨(before _ rfl).1, fits⟩
    · exact ⟨fits, fits⟩
  · exact ⟨fits, fits⟩

theorem mem_recordPeriod {periods : List (Nat × Nat)} {new period : Nat × Nat}
    (member : period ∈ recordPeriod periods new) : period = new ∨ period ∈ periods := by
  unfold recordPeriod at member
  split at member
  · split at member
    · rcases List.mem_append.mp member with early | here
      · exact Or.inr (List.mem_of_mem_dropLast early)
      · exact Or.inl (List.mem_singleton.mp here)
    · rcases List.mem_append.mp member with early | here
      · exact Or.inr early
      · exact Or.inl (List.mem_singleton.mp here)
  · exact Or.inl (List.mem_singleton.mp member)

/-- A step on a frame that fits makes a state that can be stored of one that can. -/
theorem storable_step (rule : Continuing Float) {state : ContinuingState} (storable : state.Storable)
    {frame : Nat} (fits : frame < 2 ^ 63) (fps : Float) (holds : Bool) :
    (rule.step state frame fps holds).Storable := by
  cases holds with
  | false => exact ⟨by simp [step_false], storable.periods⟩
  | true =>
      rw [rule.step_true state frame fps rfl]
      refine ⟨fun bounds opened => ?_, fun period member => ?_⟩
      · rw [← Option.some.inj opened]
        exact extend_lt fits storable.opened
      · dsimp only at member
        split at member
        · rcases mem_recordPeriod member with rfl | early
          · exact ⟨second_lt fps _, second_lt fps _⟩
          · exact storable.periods period early
        · exact storable.periods period member

end Continuing

end ObjectQuery
