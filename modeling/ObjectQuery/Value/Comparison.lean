import ObjectQuery.Value.Basic
/-!
# Comparing values

Predicates compare values of different kinds: `looseEq` and `compare?` have no answer when a side is
invalid or when the kinds cannot be compared. Numbers are compared as floats in the order of the
number line. `same` is the two-valued equality of values.
-/

namespace ObjectQuery.Value

/-- Equality of boxes, coordinate by coordinate. -/
def sameBox (a b : Box Float) : Bool :=
  a.left.sameNumber b.left && a.top.sameNumber b.top && a.right.sameNumber b.right &&
    a.bottom.sameNumber b.bottom

mutual

/-- Equality as predicates read it. Lists of different lengths differ; otherwise the first pair of
items that differs, or that has no answer, decides. -/
def looseEq : Value → Value → Option Bool
  | .invalid, _ => none
  | .null, b => match b with
    | .invalid => none
    | .null => some true
    | _ => some false
  | .bool a, b => match b with
    | .bool b => some (a == b)
    | .null => some false
    | _ => none
  | .int a, b => match b with
    | .int b => some ((Float.nearestInt a.toInt).sameNumber (Float.nearestInt b.toInt))
    | .float b => some ((Float.nearestInt a.toInt).sameNumber b)
    | .null => some false
    | _ => none
  | .float a, b => match b with
    | .int b => some (a.sameNumber (Float.nearestInt b.toInt))
    | .float b => some (a.sameNumber b)
    | .null => some false
    | _ => none
  | .text a, b => match b with
    | .text b => some (a == b)
    | .null => some false
    | _ => none
  | .box a, b => match b with
    | .box b => some (sameBox a b)
    | .null => some false
    | _ => none
  | .list a, b => match b with
    | .list b => if a.length = b.length then looseEqItems a b else some false
    | .null => some false
    | _ => none
  | .picture a, b => match b with
    | .picture b => some (a.origin == b.origin)
    | .null => some false
    | _ => none

/-- Items compared in order until a pair differs or has no answer. -/
def looseEqItems : List Value → List Value → Option Bool
  | a :: as, b :: bs => match looseEq a b with
    | some true => looseEqItems as bs
    | answer => answer
  | _, _ => some true

end

/-- Order as predicates read it: numbers, texts and truth values only. Texts are ordered by their
characters, and false is below true. -/
def compare? (a b : Value) : Option Ordering :=
  match a.number?, b.number? with
  | some x, some y => x.order? y
  | _, _ => match a, b with
    | .text s, .text t => some (if s = t then .eq else if s < t then .lt else .gt)
    | .bool s, .bool t => some (compare s t)
    | _, _ => none

/-- Whether two values are equal. Integers are compared as integers, invalid values are equal to each
other, and otherwise what has no answer is not equal. -/
def same : Value → Value → Bool
  | .invalid, .invalid => true
  | .int a, .int b => a == b
  | .float a, .float b => a.sameNumber b
  | a, b => (looseEq a b).getD false

end ObjectQuery.Value
