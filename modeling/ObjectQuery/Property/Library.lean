import ObjectQuery.Property.Basic
/-!
# Ready-made properties

Properties of the box of an object: its centre, its area, how fast it moves in units of its own
height, and the direction in which it has moved.
-/

namespace ObjectQuery

namespace Property

def centreOf (box : Box Float) : Float × Float :=
  ((box.left + box.right) / 2.0, (box.top + box.bottom) / 2.0)

def pairValue (x y : Float) : Value := .list [.float x, .float y]

/-- A length that counts as zero when it is negative or undefined. -/
def extent (length : Float) : Float := if 0.0 < length then length else 0.0

def center : Property :=
  declare "center" [⟨Field.box, 0⟩] fun inputs =>
    match inputs.box? Field.box with
    | some box =>
      let (x, y) := centreOf box
      pairValue x y
    | none => .invalid

def area : Property :=
  declare "area" [⟨Field.box, 0⟩] fun inputs =>
    match inputs.box? Field.box with
    | some box => .float (extent (box.right - box.left) * extent (box.bottom - box.top))
    | none => .invalid

def endBoxes? (inputs : PropertyInputs) : Option (Box Float × Box Float) := do
  let boxes ← inputs.window? Field.box
  let first ← boxes.head? >>= Value.box?
  let last ← boxes.getLast? >>= Value.box?
  return (first, last)

/-- The distance that the centre moves in a second, in units of two thirds of the box height averaged
over two frames. -/
def bboxVelocity : Property :=
  declare "bbox_velocity" [⟨Field.box, 1⟩, ⟨Field.fps, 0⟩] fun inputs =>
    match endBoxes? inputs, inputs.number? Field.fps with
    | some (before, now), some fps =>
      let scale := ((now.bottom - now.top) + (before.bottom - before.top)) / 2.0 / 1.5
      if scale ≤ 0.0 then .invalid
      else
        let (x, y) := centreOf now
        let (oldX, oldY) := centreOf before
        .float (((x - oldX) / scale * fps).hypotenuse ((y - oldY) / scale * fps))
    | _, _ => .invalid

/-- The unit vector from the centre some frames ago to the current one, null without a movement. -/
def direction (window : Nat) : Property :=
  declare "direction" [⟨Field.box, max window 1⟩] fun inputs =>
    match endBoxes? inputs with
    | some (first, last) =>
      let (x, y) := centreOf last
      let (oldX, oldY) := centreOf first
      let length := (x - oldX).hypotenuse (y - oldY)
      if length == 0.0 then .null
      else pairValue ((x - oldX) / length) ((y - oldY) / length)
    | none => .invalid

end Property

end ObjectQuery
