import ObjectQuery.Proofs.Stage.Recall

/-!
# The meaning of a property

What a declared property means for a track on a frame is told without stages or histories, from the frames
alone: `Means` goes back along the dependencies, and along the frames of their windows. It gives a track
at most one value on a frame (`Means.functional`).
-/

namespace ObjectQuery

/-- The object of a track on the frame of a number. -/
def sighting? (frames : List Frame) (className : String) (track id : Nat) :
    Option (Frame × Nat × ObjectRecord) :=
  (frames.find? fun frame => frame.id = id).bind fun frame =>
    (frame.recordOf? className track).map fun place => (frame, place)

/-- A name that means the same for every type: a field of the object, the picture inside its box as the
reader is handed it, or a fact of the frame. -/
def fixedValue (reader : String) (frame : Frame) (position : Nat) (record : ObjectRecord)
    (name : String) : Value :=
  if Field.isBuiltin name then (record.get? name).getD .invalid
  else if name = Field.image then
    match frame.picture, record.box? with
    | some bitmap, some box =>
      match bitmap.cut? box with
      | some cut => .picture ⟨.cut reader 0 frame.id position, cut⟩
      | none => .invalid
    | _, _ => .invalid
  else (frame.fact? name).getD .invalid

/-- What a dependency hands to a function on a frame if it has the given values. -/
def Dependency.inputAt (dependency : Dependency) (values : Nat → Value) (id : Nat) : PropertyInput :=
  if dependency.window = 0 then .current (values id)
  else .window ((List.range' (id - dependency.window) (dependency.window + 1)).map values)

/-- The arguments of a function that does not look at the other objects. -/
def Property.inputsAt (property : Property) (values : String → Nat → Value) (id : Nat) :
    PropertyInputs where
  inputs := property.dependencies.map fun dependency =>
    (dependency.name, dependency.inputAt (values dependency.name) id)
  snapshot := []

/-- What a name means to a reader, for a track on the frame of a number. -/
inductive Means (type : ObjectType) (frames : List Frame) (track : Nat) :
    (reader name : String) → (id : Nat) → Value → Prop where
  | fixed {reader name : String} {id : Nat} {frame : Frame} {position : Nat} {record : ObjectRecord}
      (fixed : Field.isFixed name = true)
      (seen : sighting? frames type.className track id = some (frame, position, record)) :
      Means type frames track reader name id (fixedValue reader frame position record name)
  /-- All values are there and none is invalid. -/
  | computed {reader name : String} {id : Nat} {property : Property} {values : String → Nat → Value}
      (free : Field.isFixed name = false) (declared : type.property? name = some property)
      (seen : (sighting? frames type.className track id).isSome)
      (reach : ∀ dependency ∈ property.dependencies, dependency.window ≤ id)
      (means : ∀ dependency ∈ property.dependencies, ∀ past, id ≤ past + dependency.window →
        past ≤ id → Means type frames track property.name dependency.name past
          (values dependency.name past))
      (valid : ∀ dependency ∈ property.dependencies, ∀ past, id ≤ past + dependency.window →
        past ≤ id → (values dependency.name past).isInvalid = false) :
      Means type frames track reader name id (property.compute (property.inputsAt values id))
  /-- One of the values is invalid. -/
  | invalid {reader name : String} {id past : Nat} {property : Property} {dependency : Dependency}
      {value : Value} (free : Field.isFixed name = false)
      (declared : type.property? name = some property)
      (seen : (sighting? frames type.className track id).isSome)
      (member : dependency ∈ property.dependencies) (early : id ≤ past + dependency.window)
      (late : past ≤ id) (means : Means type frames track property.name dependency.name past value)
      (invalid : value.isInvalid = true) :
      Means type frames track reader name id .invalid
  /-- The track is missing on one of the frames looked back on. -/
  | missing {reader name : String} {id : Nat} {property : Property} {dependency : Dependency}
      (free : Field.isFixed name = false) (declared : type.property? name = some property)
      (seen : (sighting? frames type.className track id).isSome)
      (member : dependency ∈ property.dependencies)
      (gap : id < dependency.window ∨ ∃ past, id ≤ past + dependency.window ∧ past < id ∧
        sighting? frames type.className track past = none) :
      Means type frames track reader name id .invalid

namespace Means

variable {type : ObjectType} {frames : List Frame} {track : Nat} {reader name : String} {id : Nat}
  {value other : Value}

theorem isSome_sighting (means : Means type frames track reader name id value) :
    (sighting? frames type.className track id).isSome := by
  cases means with
  | fixed _ seen => rw [seen]; rfl
  | computed _ _ seen => exact seen
  | invalid _ _ seen => exact seen
  | missing _ _ seen => exact seen

theorem inputsAt_congr
    {property : Property} {values others : String → Nat → Value}
    (reach : ∀ dependency ∈ property.dependencies, dependency.window ≤ id)
    (same : ∀ dependency ∈ property.dependencies, ∀ past, id ≤ past + dependency.window →
      past ≤ id → values dependency.name past = others dependency.name past) :
    property.inputsAt values id = property.inputsAt others id := by
  unfold Property.inputsAt
  congr 1
  refine List.map_congr_left fun dependency member => ?_
  have short := reach dependency member
  unfold Dependency.inputAt
  split
  · rw [same dependency member id (by omega) (Nat.le_refl id)]
  · congr 2
    refine List.map_congr_left fun past inside => ?_
    obtain ⟨lower, upper⟩ := List.mem_range'_1.mp inside
    exact same dependency member past (by omega) (by omega)

/-- A track has one value on a frame. -/
theorem functional
    (first : Means type frames track reader name id value)
    (second : Means type frames track reader name id other) :
    value = other := by
  induction first generalizing other with
  | fixed isFixed seen =>
      cases second with
      | fixed _ again =>
          obtain ⟨rfl, place⟩ := Prod.mk.inj (Option.some.inj (seen.symm.trans again))
          obtain ⟨rfl, rfl⟩ := Prod.mk.inj place
          rfl
      | computed free => exact absurd (isFixed.symm.trans free) (by simp)
      | invalid free => exact absurd (isFixed.symm.trans free) (by simp)
      | missing free => exact absurd (isFixed.symm.trans free) (by simp)
  | computed free declared seen reach means valid inductionHypothesis =>
      cases second with
      | fixed isFixed => exact absurd (isFixed.symm.trans free) (by simp)
      | computed _ again _ _ means' _ =>
          obtain rfl := Option.some.inj (declared.symm.trans again)
          rw [inputsAt_congr reach fun dependency member past lower upper =>
            inductionHypothesis dependency member past lower upper
              (means' dependency member past lower upper)]
      | invalid _ again _ member early late means' invalid =>
          obtain rfl := Option.some.inj (declared.symm.trans again)
          rw [← inductionHypothesis _ member _ early late means',
            valid _ member _ early late] at invalid
          exact absurd invalid (by simp)
      | missing _ again _ member gap =>
          obtain rfl := Option.some.inj (declared.symm.trans again)
          rcases gap with short | ⟨past, lower, upper, absent⟩
          · exact absurd (reach _ member) (Nat.not_le_of_lt short)
          · have present := (means _ member past lower (Nat.le_of_lt upper)).isSome_sighting
            rw [absent] at present
            exact absurd present (by simp)
  | invalid free declared seen member early late means invalid inductionHypothesis =>
      cases second with
      | fixed isFixed => exact absurd (isFixed.symm.trans free) (by simp)
      | computed _ again _ _ means' valid =>
          obtain rfl := Option.some.inj (declared.symm.trans again)
          rw [inductionHypothesis (means' _ member _ early late),
            valid _ member _ early late] at invalid
          exact absurd invalid (by simp)
      | invalid => rfl
      | missing => rfl
  | missing free declared seen member gap =>
      cases second with
      | fixed isFixed => exact absurd (isFixed.symm.trans free) (by simp)
      | computed _ again _ reach means' _ =>
          obtain rfl := Option.some.inj (declared.symm.trans again)
          rcases gap with short | ⟨past, lower, upper, absent⟩
          · exact absurd (reach _ member) (Nat.not_le_of_lt short)
          · have present := (means' _ member past lower (Nat.le_of_lt upper)).isSome_sighting
            rw [absent] at present
            exact absurd present (by simp)
      | invalid => rfl
      | missing => rfl

end Means

end ObjectQuery
