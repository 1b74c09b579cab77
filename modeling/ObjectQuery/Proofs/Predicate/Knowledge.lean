import ObjectQuery.Predicate.Basic

/-!
# Answers and what is known

A record refines another one if it has all of its valid fields. An answer that a predicate gives on a record
it gives on every refinement as well (`answer?_of_refines`): a field that is missing or invalid may leave a
predicate without an answer, and never turns the answer round. With the three values of an answer this is
not obvious of a negation or a disjunction; it rests on when these have an answer at all.
-/

namespace ObjectQuery

/-- A record with all valid fields of another one. What is missing there or invalid may be anything. -/
def ObjectRecord.Refines (record earlier : ObjectRecord) : Prop :=
  ∀ name value, earlier.get? name = some value → value.isInvalid = false →
    record.get? name = some value

/-! ## Answers that are there -/

namespace Predicate

variable {left right : Option Bool}

theorem bothAnswers_eq_true_iff :
    bothAnswers left right = some true ↔ left = some true ∧ right = some true := by
  rcases left with _ | _ | _ <;> rcases right with _ | _ | _ <;> simp [bothAnswers]

theorem bothAnswers_eq_false_iff :
    bothAnswers left right = some false ↔ left = some false ∨ right = some false := by
  rcases left with _ | _ | _ <;> rcases right with _ | _ | _ <;> simp [bothAnswers]

theorem eitherAnswer_eq_true_iff :
    eitherAnswer left right = some true ↔ left = some true ∨ right = some true := by
  rcases left with _ | _ | _ <;> rcases right with _ | _ | _ <;> simp [eitherAnswer]

theorem eitherAnswer_eq_false_iff :
    eitherAnswer left right = some false ↔ left = some false ∧ right = some false := by
  rcases left with _ | _ | _ <;> rcases right with _ | _ | _ <;> simp [eitherAnswer]

end Predicate

/-! ## More knowledge -/

variable {record earlier : ObjectRecord}

theorem ObjectRecord.valid?_eq_some_iff {name : String} {value : Value} :
    record.valid? name = some value ↔
      record.get? name = some value ∧ value.isInvalid = false := by
  unfold valid?
  rw [Option.filter_eq_some_iff, Bool.not_eq_true']

theorem ObjectRecord.Refines.valid?_eq (refines : record.Refines earlier) {name : String}
    {value : Value} (known : earlier.valid? name = some value) :
    record.valid? name = some value := by
  obtain ⟨present, valid⟩ := valid?_eq_some_iff.mp known
  exact valid?_eq_some_iff.mpr ⟨refines name value present valid, valid⟩

theorem ObjectRecord.Refines.value?_eq (refines : record.Refines earlier) {operand : Operand}
    {value : Value} (known : operand.value? earlier = some value) :
    operand.value? record = some value := by
  cases operand with
  | property reference => exact refines.valid?_eq known
  | literal constant => exact known

/-- What two operands are known to be to each other stays so. -/
theorem ObjectRecord.Refines.bind_values (refines : record.Refines earlier) {left right : Operand}
    {relate : Value → Value → Option Bool} {answer : Bool}
    (answered : ((left.value? earlier).bind fun first =>
      (right.value? earlier).bind (relate first)) = some answer) :
    ((left.value? record).bind fun first => (right.value? record).bind (relate first)) =
      some answer := by
  obtain ⟨first, firstKnown, answered⟩ := Option.bind_eq_some_iff.mp answered
  obtain ⟨second, secondKnown, related⟩ := Option.bind_eq_some_iff.mp answered
  rw [refines.value?_eq firstKnown, refines.value?_eq secondKnown]
  exact related

namespace Predicate

variable {predicate : Predicate} {className : String} {answer : Bool}

/-- An answer stays what it is when more becomes known of an object. -/
theorem answer?_of_refines (refines : record.Refines earlier)
    (answered : predicate.answer? className earlier = some answer) :
    predicate.answer? className record = some answer := by
  induction predicate generalizing answer with
  | isInstance type => exact answered
  | and left right leftHypothesis rightHypothesis =>
      cases answer with
      | true =>
          obtain ⟨both, holds⟩ := bothAnswers_eq_true_iff.mp answered
          exact bothAnswers_eq_true_iff.mpr ⟨leftHypothesis both, rightHypothesis holds⟩
      | false =>
          have one := bothAnswers_eq_false_iff.mp answered
          exact bothAnswers_eq_false_iff.mpr (one.imp leftHypothesis rightHypothesis)
  | or left right leftHypothesis rightHypothesis =>
      cases answer with
      | true =>
          have one := eitherAnswer_eq_true_iff.mp answered
          exact eitherAnswer_eq_true_iff.mpr (one.imp leftHypothesis rightHypothesis)
      | false =>
          obtain ⟨neither, fails⟩ := eitherAnswer_eq_false_iff.mp answered
          exact eitherAnswer_eq_false_iff.mpr ⟨leftHypothesis neither, rightHypothesis fails⟩
  | not inner inductionHypothesis =>
      obtain ⟨opposite, given, turned⟩ := Option.map_eq_some_iff.mp answered
      exact Option.map_eq_some_iff.mpr ⟨opposite, inductionHypothesis given, turned⟩
  | equal left right => exact refines.bind_values answered
  | greater left right => exact refines.bind_values answered
  | test reference holds =>
      obtain ⟨value, known, tested⟩ := Option.map_eq_some_iff.mp answered
      unfold answer?
      rw [refines.valid?_eq known]
      exact congrArg some tested

/-! ## Somebody of whom little is known -/

namespace Glimpses

def person : ObjectType := .declare "Person" "person" []

/-- Not slow, and with something told of the distance. -/
def near : Predicate :=
  .not (.or (.greater (.literal (.float 1)) (.property ⟨person, "speed"⟩))
    (.test ⟨person, "distance"⟩ Value.isNull))

/-- Not a person that is seen clearly. -/
def blurred : Predicate :=
  .not (.and (.isInstance person)
    (.greater (.property ⟨person, Field.score⟩) (.literal (.float 0.5))))

/-- The speed is missing and the distance is invalid. -/
def glimpsed : ObjectRecord :=
  ObjectRecord.empty |>.insert Field.score (.float 0.25) |>.insert "distance" .invalid

def observed : ObjectRecord :=
  glimpsed |>.insert "distance" .null |>.insert "speed" (.float 2)

theorem refines : observed.Refines glimpsed := by
  intro name value here valid
  unfold observed
  rw [ObjectRecord.get?_insert, ObjectRecord.get?_insert]
  split
  · rename_i same
    subst same
    rw [glimpsed, ObjectRecord.get?_insert, if_neg (by decide), ObjectRecord.get?_insert,
      if_neg (by decide)] at here
    exact absurd here (by simp [ObjectRecord.get?, ObjectRecord.empty])
  · split
    · rename_i same
      subst same
      rw [glimpsed, ObjectRecord.get?_insert, if_pos rfl] at here
      rw [← Option.some.inj here] at valid
      exact absurd valid (by decide)
    · exact here

end Glimpses

open Glimpses in
/-- One side has no answer at first and turns out false; the other one has settled the matter before. -/
theorem answer?_of_refines_glimpsed :
    observed.Refines glimpsed ∧ near.answer? "person" glimpsed = none ∧
      near.answer? "person" observed = some false ∧
        (Predicate.or near blurred).answer? "person" glimpsed = some true ∧
          (Predicate.or near blurred).answer? "person" observed = some true := by
  have answered : (Predicate.or near blurred).answer? "person" glimpsed = some true := by
    decide +kernel
  exact ⟨refines, by decide +kernel, by decide +kernel, answered, answer?_of_refines refines answered⟩

end Predicate

end ObjectQuery
