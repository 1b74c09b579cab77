import ObjectQuery.Stage.Filter

/-!
# The answer of a predicate

A predicate is answered from the fields that it reads (`answer?_congr`), and a conjunction is satisfied
exactly where both of its sides are: no answer on one side never makes up for the other (`holds_and`).
-/

namespace ObjectQuery

variable {record record' : ObjectRecord}

theorem Operand.value?_congr
    {operand : Operand}
    (same : ∀ reference, operand.reference? = some reference →
      record'.get? reference.name = record.get? reference.name) :
    operand.value? record' = operand.value? record := by
  cases operand with
  | literal value => rfl
  | property reference =>
      exact congrArg (Option.filter fun value => !value.isInvalid) (same reference rfl)

namespace Predicate

variable {predicate left right : Predicate} {className : String}

theorem mem_references_of_operand
    {first second operand : Operand} (member : operand ∈ [first, second]) {reference : PropertyRef}
    (read : operand.reference? = some reference) :
    reference ∈ [first, second].filterMap Operand.reference? :=
  List.mem_filterMap.mpr ⟨operand, member, read⟩

/-- Records with the same values in the fields that are read are answered the same. -/
theorem answer?_congr
    (same : ∀ reference ∈ predicate.references,
      record'.get? reference.name = record.get? reference.name) :
    predicate.answer? className record' = predicate.answer? className record := by
  -- both sides of a comparison
  have values {first second : Operand}
      (same : ∀ reference ∈ [first, second].filterMap Operand.reference?,
        record'.get? reference.name = record.get? reference.name) :
      first.value? record' = first.value? record ∧ second.value? record' = second.value? record :=
    ⟨Operand.value?_congr fun reference read =>
        same reference (mem_references_of_operand (by simp) read),
      Operand.value?_congr fun reference read =>
        same reference (mem_references_of_operand (by simp) read)⟩
  induction predicate with
  | isInstance type => rfl
  | and left right leftHypothesis rightHypothesis =>
      unfold answer?
      rw [leftHypothesis fun reference member => same reference (List.mem_append_left _ member),
        rightHypothesis fun reference member => same reference (List.mem_append_right _ member)]
  | or left right leftHypothesis rightHypothesis =>
      unfold answer?
      rw [leftHypothesis fun reference member => same reference (List.mem_append_left _ member),
        rightHypothesis fun reference member => same reference (List.mem_append_right _ member)]
  | not inner inductionHypothesis =>
      unfold answer?
      rw [inductionHypothesis same]
  | equal first second =>
      unfold answer?
      rw [(values same).1, (values same).2]
  | greater first second =>
      unfold answer?
      rw [(values same).1, (values same).2]
  | test reference holds =>
      unfold answer? ObjectRecord.valid?
      rw [same reference List.mem_cons_self]

theorem holds_congr
    (same : ∀ reference ∈ predicate.references,
      record'.get? reference.name = record.get? reference.name) :
    predicate.holds className record' = predicate.holds className record := by
  unfold holds
  rw [answer?_congr same]

/-- A conjunction is satisfied where both sides are, also where one of them has no answer. -/
theorem holds_and :
    (Predicate.and left right).holds className record =
      (left.holds className record && right.holds className record) := by
  unfold holds
  rw [answer?]
  cases left.answer? className record with
  | none =>
      cases right.answer? className record with
      | none => rfl
      | some answer => cases answer <;> rfl
  | some answer =>
      cases answer with
      | false => rfl
      | true =>
          cases right.answer? className record with
          | none => rfl
          | some answer => cases answer <;> rfl

end Predicate

namespace Frame

variable {frame frame' : Frame} {className : String} {position : Nat}

theorem satisfies_congr
    {predicate : Predicate} (here : (frame.recordsOf className)[position]? = some record)
    (here' : (frame'.recordsOf className)[position]? = some record')
    (same : ∀ reference ∈ predicate.references,
      record'.get? reference.name = record.get? reference.name) :
    frame'.satisfies predicate className position = frame.satisfies predicate className position := by
  unfold satisfies
  rw [here, here']
  exact Predicate.holds_congr same

theorem satisfies_and (frame : Frame) (left right : Predicate) (className : String)
    (position : Nat) :
    frame.satisfies (.and left right) className position =
      (frame.satisfies left className position && frame.satisfies right className position) := by
  unfold satisfies
  cases (frame.recordsOf className)[position]? with
  | none => rfl
  | some record => exact Predicate.holds_and

end Frame

end ObjectQuery
