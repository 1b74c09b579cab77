import ObjectQuery.Predicate.Basic

/-!
# Comparisons with a property

A property can be compared with an operand in six ways, which are built from two: equality and being greater.
Equality and order of values are told apart from each other, so that it takes a proof that they agree
(`Value.looseEq_of_compare?`), and that the order is the same from both sides (`Value.compare?_swap`). From
this follows how the six hang together (`PropertyRef.comparisons_agree`).
-/

namespace ObjectQuery

/-! ## The order of values -/

theorem order?_swap {x y : Float} {order : Ordering} (ordered : x.order? y = some order) :
    y.order? x = some order.swap := by
  unfold Float.order? at ordered ⊢
  cases placed : x.place? with
  | none =>
      rw [placed] at ordered
      exact absurd ordered (by simp)
  | some first =>
      cases placed' : y.place? with
      | none =>
          rw [placed, placed'] at ordered
          exact absurd ordered (by simp)
      | some second =>
          rw [placed, placed'] at ordered
          rw [← Option.some.inj ordered]
          exact congrArg some Std.OrientedOrd.eq_swap

theorem textOrder_swap (s t : String) :
    (if t = s then Ordering.eq else if t < s then .lt else .gt) =
      (if s = t then Ordering.eq else if s < t then .lt else .gt).swap := by
  by_cases same : s = t
  · rw [if_pos same, if_pos same.symm]
    rfl
  · rw [if_neg same, if_neg (Ne.symm same)]
    rcases Std.lt_trichotomy s t with below | equal | above
    · rw [if_pos below, if_neg (String.lt_asymm below)]
      rfl
    · exact absurd equal same
    · rw [if_pos above, if_neg (String.lt_asymm above)]
      rfl

namespace Value

variable {a b : Value} {order : Ordering}

/-- Two values have an order if both are numbers, both texts or both truth values. -/
theorem kinds_of_compare? (compared : a.compare? b = some order) :
    (∃ x y, a.number? = some x ∧ b.number? = some y ∧ x.order? y = some order) ∨
      (∃ s t, a = .text s ∧ b = .text t ∧
        (if s = t then Ordering.eq else if s < t then .lt else .gt) = order) ∨
      ∃ s t, a = .bool s ∧ b = .bool t ∧ compare s t = order := by
  unfold compare? at compared
  split at compared
  · rename_i x y first second
    exact .inl ⟨x, y, first, second, compared⟩
  · split at compared
    · rename_i s t apart
      exact .inr (.inl ⟨s, t, rfl, rfl, Option.some.inj compared⟩)
    · rename_i s t apart
      exact .inr (.inr ⟨s, t, rfl, rfl, Option.some.inj compared⟩)
    · exact absurd compared (by simp)

theorem looseEq_of_number? {x y : Float} (first : a.number? = some x) (second : b.number? = some y) :
    a.looseEq b = some (x.sameNumber y) := by
  cases a <;> simp only [number?, Option.some.injEq, reduceCtorEq] at first <;>
    cases b <;> simp only [number?, Option.some.injEq, reduceCtorEq] at second <;>
      simp only [looseEq, first, second]

theorem valid_of_number? {x : Float} (numeric : a.number? = some x) : a.isInvalid = false := by
  cases a with
  | invalid => exact absurd numeric (by simp [number?])
  | _ => rfl

theorem valid_of_compare? (compared : a.compare? b = some order) :
    a.isInvalid = false ∧ b.isInvalid = false := by
  rcases kinds_of_compare? compared with ⟨x, y, first, second, -⟩ | ⟨s, t, rfl, rfl, -⟩ | ⟨s, t, rfl, rfl, -⟩
  · exact ⟨valid_of_number? first, valid_of_number? second⟩
  · exact ⟨rfl, rfl⟩
  · exact ⟨rfl, rfl⟩

/-- The order of two values is turned round with them. -/
theorem compare?_swap (compared : a.compare? b = some order) : b.compare? a = some order.swap := by
  rcases kinds_of_compare? compared with
    ⟨x, y, first, second, ordered⟩ | ⟨s, t, rfl, rfl, rfl⟩ | ⟨s, t, rfl, rfl, rfl⟩
  · unfold compare?
    rw [first, second]
    exact order?_swap ordered
  · exact congrArg some (textOrder_swap s t)
  · exact congrArg some Std.OrientedOrd.eq_swap

/-- Values that have an order are equal exactly if neither comes first. -/
theorem looseEq_of_compare? (compared : a.compare? b = some order) :
    a.looseEq b = some (order == .eq) := by
  rcases kinds_of_compare? compared with
    ⟨x, y, first, second, ordered⟩ | ⟨s, t, rfl, rfl, rfl⟩ | ⟨s, t, rfl, rfl, rfl⟩
  · rw [looseEq_of_number? first second, Float.sameNumber, ordered]
    cases order <;> rfl
  · refine congrArg some ?_
    by_cases same : s = t
    · rw [if_pos same]
      exact beq_iff_eq.mpr same
    · rw [if_neg same, beq_eq_false_iff_ne.mpr same]
      split <;> rfl
  · cases s <;> cases t <;> rfl

end Value

/-! ## Both sides of a comparison -/

namespace Operand

variable {operand : Operand} {record : ObjectRecord} {value : Value}

/-- What stands on a side of a comparison, also if it is invalid. -/
def stored? (record : ObjectRecord) : Operand → Option Value
  | .property reference => record.get? reference.name
  | .literal value => some value

theorem value?_eq_filter (operand : Operand) (record : ObjectRecord) :
    operand.value? record = (operand.stored? record).filter fun value => !value.isInvalid := by
  cases operand with
  | property reference => rfl
  | literal value => cases value <;> rfl

theorem value?_eq_of_stored? (stored : operand.stored? record = some value)
    (valid : value.isInvalid = false) : operand.value? record = some value := by
  rw [value?_eq_filter, Option.filter_eq_some_iff, Bool.not_eq_true']
  exact ⟨stored, valid⟩

theorem value?_eq_none (unknown : operand.stored? record = none ∨ operand.stored? record = some .invalid) :
    operand.value? record = none := by
  rw [value?_eq_filter]
  rcases unknown with missing | invalid
  · rw [missing]
    rfl
  · rw [invalid]
    rfl

end Operand

/-- A comparison needs a valid value on both sides. -/
theorem Predicate.answers_of_unknown (className : String) {left right : Operand} {record : ObjectRecord}
    (unknown : left.value? record = none ∨ right.value? record = none) :
    (Predicate.equal left right).answer? className record = none ∧
      (Predicate.greater left right).answer? className record = none := by
  rw [answer?, answer?]
  rcases unknown with missing | missing
  · rw [missing]
    exact ⟨rfl, rfl⟩
  · rw [missing]
    exact ⟨Option.bind_fun_none _, Option.bind_fun_none _⟩

/-! ## The six comparisons -/

namespace PropertyRef

/-- The six comparisons of a property with an operand. -/
def comparisons (reference : PropertyRef) (operand : Operand) : List Predicate :=
  [reference.lt operand, reference.eq operand, reference.gt operand, reference.ge operand,
    reference.le operand, reference.ne operand]

variable {reference : PropertyRef} {operand : Operand} {record : ObjectRecord}

/-- Three of the comparisons are put together from the other three. -/
theorem answers_comparisons {className : String} {less equality greater : Option Bool}
    (below : (reference.lt operand).answer? className record = less)
    (same : (reference.eq operand).answer? className record = equality)
    (above : (reference.gt operand).answer? className record = greater) :
    (reference.comparisons operand).map (Predicate.answer? className record) =
      [less, equality, greater, Predicate.eitherAnswer equality greater,
        Predicate.eitherAnswer equality less, equality.map (!·)] := by
  rw [← below, ← same, ← above]
  rfl

theorem answers_of_compare? (className : String) {value other : Value} {order : Ordering}
    (here : record.get? reference.name = some value) (there : operand.stored? record = some other)
    (compared : value.compare? other = some order) :
    (reference.comparisons operand).map (Predicate.answer? className record) =
      [some (order == .lt), some (order == .eq), some (order == .gt), some (order != .lt),
        some (order != .gt), some (order != .eq)] := by
  obtain ⟨valid, otherValid⟩ := Value.valid_of_compare? compared
  have left : (Operand.property reference).value? record = some value :=
    Operand.value?_eq_of_stored? here valid
  have right : operand.value? record = some other := Operand.value?_eq_of_stored? there otherValid
  have equality : (reference.eq operand).answer? className record = some (order == .eq) := by
    rw [eq, Predicate.answer?, left, right]
    exact Value.looseEq_of_compare? compared
  have greater : (reference.gt operand).answer? className record = some (order == .gt) := by
    rw [gt, Predicate.answer?, left, right]
    exact congrArg (Option.map _) compared
  -- the sides are the other way round here
  have less : (reference.lt operand).answer? className record = some (order == .lt) := by
    rw [lt, Predicate.answer?, left, right]
    refine (congrArg (Option.map _) (Value.compare?_swap compared)).trans ?_
    cases order <;> rfl
  rw [answers_comparisons less equality greater]
  cases order <;> rfl

/-- Without a valid value on either side none of the six is answered. -/
theorem answers_of_unknown (className : String)
    (unknown : (Operand.property reference).value? record = none ∨ operand.value? record = none) :
    (reference.comparisons operand).map (Predicate.answer? className record) =
      [none, none, none, none, none, none] := by
  obtain ⟨equality, greater⟩ := Predicate.answers_of_unknown className unknown
  have less := (Predicate.answers_of_unknown className unknown.symm).2
  exact answers_comparisons less equality greater

/-- If the values on both sides have an order, then exactly one of being less, equality and being greater
holds, the one that the order says, and the other three comparisons are the negations of these. If a side
is missing or invalid, none of the six holds. -/
theorem comparisons_agree (reference : PropertyRef) (operand : Operand) (className : String)
    (record : ObjectRecord) :
    (∀ value other order, record.get? reference.name = some value →
      operand.stored? record = some other → value.compare? other = some order →
        [reference.lt operand, reference.eq operand, reference.gt operand].countP
            (Predicate.holds · className record) = 1 ∧
          (reference.lt operand).holds className record = (order == .lt) ∧
          (reference.eq operand).holds className record = (order == .eq) ∧
          (reference.gt operand).holds className record = (order == .gt) ∧
          (reference.ge operand).holds className record =
            !(reference.lt operand).holds className record ∧
          (reference.le operand).holds className record =
            !(reference.gt operand).holds className record ∧
          (reference.ne operand).holds className record =
            !(reference.eq operand).holds className record) ∧
    (record.get? reference.name = none ∨ record.get? reference.name = some .invalid ∨
      operand.stored? record = none ∨ operand.stored? record = some .invalid →
        ∀ comparison ∈ reference.comparisons operand, comparison.holds className record = false) := by
  constructor
  · intro value other order here there compared
    have answers := answers_of_compare? className here there compared
    simp only [comparisons, List.map_cons, List.map_nil, List.cons.injEq, and_true] at answers
    obtain ⟨less, equality, greater, notLess, notGreater, notEqual⟩ := answers
    simp only [Predicate.holds, less, equality, greater, notLess, notGreater, notEqual,
      List.countP_cons, List.countP_nil, Option.getD_some]
    cases order <;> decide
  · intro unknown comparison member
    have sides : (Operand.property reference).value? record = none ∨ operand.value? record = none := by
      rcases unknown with missing | invalid | missing | invalid
      · exact .inl (Operand.value?_eq_none (.inl missing))
      · exact .inl (Operand.value?_eq_none (.inr invalid))
      · exact .inr (Operand.value?_eq_none (.inl missing))
      · exact .inr (Operand.value?_eq_none (.inr invalid))
    have answered := List.mem_map_of_mem (f := Predicate.answer? className record) member
    rw [answers_of_unknown className sides] at answered
    have unanswered : comparison.answer? className record = none :=
      List.eq_of_mem_replicate (n := 6) answered
    rw [Predicate.holds, unanswered]
    rfl

end PropertyRef

/-! ## A standing car -/

namespace Standstill

def car : ObjectType := .declare "Car" "car" []

def speed : PropertyRef := ⟨car, "speed"⟩

/-- A car that stands still after it has rolled back. -/
def parked : ObjectRecord := ObjectRecord.empty.insert "speed" (.float (-0.0))

def obscured : ObjectRecord := ObjectRecord.empty.insert "speed" .invalid

end Standstill

open Standstill in
/-- The zeros are equal, of whatever sign and kind. -/
theorem PropertyRef.comparisons_agree_standstill :
    (Value.float (-0.0)).compare? (.int 0) = some .eq ∧
      [speed.lt (.literal (.int 0)), speed.eq (.literal (.int 0)),
        speed.gt (.literal (.int 0))].countP (Predicate.holds · "car" parked) = 1 ∧
      (speed.eq (.literal (.int 0))).holds "car" parked = true ∧
      (speed.ne (.literal (.int 0))).holds "car" obscured = false := by
  have compared : (Value.float (-0.0)).compare? (.int 0) = some .eq := by decide +kernel
  have ordered := (PropertyRef.comparisons_agree speed (.literal (.int 0)) "car" parked).1
    (.float (-0.0)) (.int 0) .eq rfl rfl compared
  have unanswered := (PropertyRef.comparisons_agree speed (.literal (.int 0)) "car" obscured).2
    (.inr (.inl rfl))
  exact ⟨compared, ordered.1, ordered.2.2.1, unanswered _ (by simp [PropertyRef.comparisons])⟩

end ObjectQuery
