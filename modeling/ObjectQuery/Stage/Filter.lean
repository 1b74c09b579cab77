import ObjectQuery.Error
import ObjectQuery.Frame
import ObjectQuery.Predicate.Basic
/-!
# Filters

A class filter lists the objects of a class under an index; a predicate filter strikes those off the
list that do not satisfy a predicate. The objects themselves stay on the frame, so that the
properties of one object can look at all the others.
-/

namespace ObjectQuery.Frame

/-- List all objects of a class under an index that has no list of the class yet. -/
def selectClass (frame : Frame) (className : String) (index : Nat) : Except RunError Frame :=
  match frame.positions? index className with
  | some _ => .error (.duplicateClassFilter index className)
  | none => .ok (frame.setPositions index className (List.range (frame.recordsOf className).length))

/-- Whether there is an object at a position, and it satisfies the predicate. -/
def satisfies (frame : Frame) (predicate : Predicate) (className : String) (position : Nat) : Bool :=
  match (frame.recordsOf className)[position]? with
  | some record => predicate.holds className record
  | none => false

def keepSatisfying (frame : Frame) (predicate : Predicate) (className : String) (index : Nat) :
    Except RunError Frame :=
  match frame.positions? index className with
  | none => .error (.missingFilterIndex index className)
  | some positions =>
    .ok (frame.setPositions index className
      (positions.filter fun position => frame.satisfies predicate className position))

end ObjectQuery.Frame
