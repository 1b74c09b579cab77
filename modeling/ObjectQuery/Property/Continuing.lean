import ObjectQuery.Number.Scalar
import ObjectQuery.Property.Basic
/-!
# Conditions that go on

A condition on an object continues once it has held for a given time. Observations that hold and
follow each other closely enough belong to one period; a period that has reached the duration is
recorded in whole seconds. The progress of an object is stored as the value of a property of its own,
so that it lives and ends with the object's track.
-/

namespace ObjectQuery

/-- The progress of one object under a condition. -/
structure ContinuingState where
  /-- Whether the condition had held long enough at the last observation. -/
  holding : Bool
  /-- The first and the last frame of the open period. -/
  opened : Option (Nat × Nat)
  /-- The first and the last second of each recorded period. -/
  periods : List (Nat × Nat)
deriving DecidableEq, Repr

namespace ContinuingState

def fresh : ContinuingState := ⟨false, none, []⟩

/-! ## The state as a value -/

/-- Periods as a list of pairs. -/
def periodsValue (state : ContinuingState) : Value :=
  .list (state.periods.map fun (first, last) => .list [.ofNat first, .ofNat last])

/-- The flag, the two frames of the open period or nulls, and the periods. -/
def toValue (state : ContinuingState) : Value :=
  match state.opened with
  | some (first, last) =>
    .list [.bool state.holding, .ofNat first, .ofNat last, state.periodsValue]
  | none => .list [.bool state.holding, .null, .null, state.periodsValue]

/-- An integer read as a number of 64 bits without sign. -/
def wordOf (n : Int64) : Nat := n.toUInt64.toNat

def period? : Value → Option (Nat × Nat)
  | .list [first, last] => do
    let first ← first.int?
    let last ← last.int?
    return (wordOf first, wordOf last)
  | _ => none

/-- The state that a value stores; what does not have the form of one is a fresh state. -/
def ofValue : Value → ContinuingState
  | .list [holding, first, last, periods] =>
    { holding := holding.bool?.getD false
      opened := match first.nat?, last.nat? with
        | some first, some last => some (first, last)
        | _, _ => none
      periods := (periods.list?.getD []).filterMap period? }
  | _ => fresh

end ContinuingState

/-- How long a condition has to hold, and how many frames may pass between two observations of one
period; one second of video if that is not given. -/
structure Continuing (α : Type) where
  duration : α
  gapTolerance : Option Nat

namespace Continuing

variable {α : Type} [Scalar α]

/-- The number of frames that may pass between two observations of one period. -/
def tolerance (rule : Continuing α) (fps : α) : Nat :=
  rule.gapTolerance.getD (Scalar.wholePart (Scalar.positivePart fps))

def extend (tolerance : Nat) (opened : Option (Nat × Nat)) (frame : Nat) : Nat × Nat :=
  match opened with
  | some (first, last) => if frame - last ≤ tolerance then (first, frame) else (frame, frame)
  | none => (frame, frame)

/-- The second of the video in which a frame lies. -/
def second (fps : α) (frame : Nat) : Nat :=
  if Scalar.zero < fps then Scalar.wholePart (Scalar.ofNat frame / fps) else 0

/-- Record a period: in place of the last one if both begin in the same second, else after it. -/
def recordPeriod (periods : List (Nat × Nat)) (period : Nat × Nat) : List (Nat × Nat) :=
  match periods.getLast? with
  | some last => if last.1 = period.1 then periods.dropLast ++ [period] else periods ++ [period]
  | none => [period]

def step (rule : Continuing α) (state : ContinuingState) (frame : Nat) (fps : α) (holds : Bool) :
    ContinuingState :=
  if holds then
    let (first, last) := extend (rule.tolerance fps) state.opened frame
    if rule.duration * fps ≤ Scalar.ofNat (last - first) then
      ⟨true, some (first, last), recordPeriod state.periods (second fps first, second fps last)⟩
    else
      ⟨false, some (first, last), state.periods⟩
  else
    ⟨false, none, state.periods⟩

/-! ## As properties -/

/-- Three properties: the stored state under `<name>_state`, whether the condition on another
property continues under the name itself, and the recorded periods under `<name>_periods`. -/
def toProperties (rule : Continuing Float) (name property : String) (condition : Value → Bool) :
    List Property :=
  let stateName := name ++ "_state"
  let stored (inputs : PropertyInputs) : ContinuingState :=
    ((inputs.current? stateName).map ContinuingState.ofValue).getD .fresh
  let state := Property.declare stateName
    [⟨stateName, 1⟩, ⟨property, 0⟩, ⟨Field.frameId, 0⟩, ⟨Field.fps, 0⟩] fun inputs =>
      match inputs.current? Field.frameId >>= Value.int?, inputs.number? Field.fps with
      | some frame, some fps =>
        let before := (inputs.window? stateName >>= List.head?).map ContinuingState.ofValue
        let holds := match inputs.current? property with
          | some value => !value.isNull && condition value
          | none => false
        (rule.step (before.getD .fresh) (ContinuingState.wordOf frame) fps holds).toValue
      | _, _ => .invalid
  let flag := Property.declare name [⟨stateName, 0⟩] fun inputs => .bool (stored inputs).holding
  let periods := Property.declare (name ++ "_periods") [⟨stateName, 0⟩] fun inputs =>
    (stored inputs).periodsValue
  [state, flag, periods]

end Continuing

end ObjectQuery
