import ObjectQuery.Proofs.Property.Encoding
import ObjectQuery.Proofs.Stage.OwnPast

/-!
# States carried from frame to frame

A projector keeps the state of each track as a value, reads it back on the next frame, and carries it along
while the track is lost. `states` tells the states of a track without values in between. They are what is
read back from the values that the projector keeps, after any number of frames (`unaltered_by_storing`).
-/

namespace ObjectQuery

/-- A name that is mentioned without a window leaves the dependencies that are there as they are. -/
theorem Dependency.mem_add_of_mem {dependencies : List Dependency} {dependency : Dependency}
    (member : dependency ∈ dependencies) (other : String) :
    dependency ∈ add dependencies ⟨other, 0⟩ := by
  induction dependencies with
  | nil => exact absurd member List.not_mem_nil
  | cons present rest inductionHypothesis =>
      unfold add
      split
      · rwa [Nat.max_zero]
      · rcases List.mem_cons.mp member with rfl | later
        · exact List.mem_cons_self
        · exact List.mem_cons_of_mem _ (inductionHypothesis later)

/-! ## The property that stores the state -/

namespace Continuing

open ContinuingState

variable (rule : Continuing Float) (name observed : String) (condition : Value → Bool)

/-- The first of the properties of a rule, which stores the state. -/
def stateProperty : Property :=
  (rule.toProperties name observed condition).head (List.cons_ne_nil _ _)

/-- The state after an observation, from the one before it. Where the number of the frame or the frame rate
is not known it is a fresh one. -/
def observe (inputs : PropertyInputs) (before : ContinuingState) : ContinuingState :=
  match inputs.current? Field.frameId >>= Value.int?, inputs.number? Field.fps with
  | some frame, some fps =>
    rule.step before (wordOf frame) fps
      ((inputs.current? observed).any fun value => !value.isNull && condition value)
  | _, _ => .fresh

/-- The state that a function is handed as its own last value. -/
def handedState (inputs : PropertyInputs) : ContinuingState :=
  ((inputs.window? (name ++ "_state") >>= List.head?).map ofValue).getD .fresh

theorem storable_handedState (inputs : PropertyInputs) : (handedState name inputs).Storable := by
  unfold handedState
  cases inputs.window? (name ++ "_state") >>= List.head? with
  | none => exact storable_fresh
  | some value => exact storable_ofValue value

/-- The value of a call is that of a state, or not valid. -/
theorem compute_stateProperty (inputs : PropertyInputs) :
    (rule.stateProperty name observed condition).compute inputs =
      match inputs.current? Field.frameId >>= Value.int?, inputs.number? Field.fps with
      | some frame, some fps =>
        (rule.step (handedState name inputs) (wordOf frame) fps
          ((inputs.current? observed).any fun value => !value.isNull && condition value)).toValue
      | _, _ => .invalid := by
  unfold stateProperty toProperties handedState
  simp only [List.head_cons, Property.declare]
  cases inputs.current? observed <;> rfl

/-- What is read back from the value of a call is the state that the call has made. -/
theorem ofValue_compute (inputs : PropertyInputs)
    (fits : ∀ frame, inputs.current? Field.frameId >>= Value.int? = some frame → wordOf frame < 2 ^ 63) :
    ofValue ((rule.stateProperty name observed condition).compute inputs) =
      rule.observe observed condition inputs (handedState name inputs) := by
  rw [compute_stateProperty, observe]
  split
  · rename_i numbered _
    exact ofValue_toValue
      (rule.storable_step (storable_handedState name inputs) (fits _ numbered) _ _)
  · rfl

/-- Of what is handed to a call only the current values count for the step. -/
theorem observe_congr {inputs other : PropertyInputs}
    (same : ∀ wanted, inputs.current? wanted = other.current? wanted) (before : ContinuingState) :
    rule.observe observed condition inputs before = rule.observe observed condition other before := by
  unfold observe PropertyInputs.number?
  rw [same, same, same]

/-! ## What it depends on -/

/-- It looks back on its own last value. -/
theorem own_mem_dependencies :
    ⟨name ++ "_state", 1⟩ ∈ (rule.stateProperty name observed condition).dependencies :=
  Dependency.mem_add_of_mem (Dependency.mem_add_of_mem
    (Dependency.mem_add_of_mem (List.mem_singleton_self _) observed) Field.frameId) Field.fps

theorem append_state_ne_trackId : name ++ "_state" ≠ Field.trackId := by
  intro same
  have last := congrArg (fun text : String => text.toList.getLast?) same
  rw [String.toList_append, List.getLast?_append_of_ne_nil _ (by decide)] at last
  exact absurd last (by decide)

end Continuing

/-! ## What a projector hands it -/

namespace Projector

open ContinuingState Continuing

variable {start : Projector} {frames : List Frame} {track position : Nat} {frame : Frame}
  {record : ObjectRecord} {rule : Continuing Float} {name observed : String}
  {condition : Value → Bool}

/-- Of a dependency the value on the frame is current, and of the property itself the default, whatever its
last value has been. -/
theorem current?_inputsAfter (projector : Projector) (frames : List Frame) (track : Nat) (frame : Frame)
    (position : Nat) (record : ObjectRecord) (previous : Value) (wanted : String) :
    (projector.inputsAfter frames track frame position record previous).current? wanted =
      if wanted ∈ projector.property.dependencies.map Dependency.name then
        some (if wanted = projector.property.name then projector.property.default
          else projector.currentValue frame position record wanted)
      else none := by
  unfold PropertyInputs.current? PropertyInputs.input? inputsAfter
  induction projector.property.dependencies with
  | nil => rfl
  | cons first rest inductionHypothesis =>
      by_cases here : first.name = wanted
      · subst here
        by_cases own : first.name = projector.property.name
        · simp [Keyed.find?, own]
        · by_cases now : first.window = 0 <;> simp [Keyed.find?, own, handed, now]
      · simpa [Keyed.find?, here, Ne.symm here] using inductionHypothesis

theorem window?_inputsAfter (projector : Projector) (frames : List Frame) (track : Nat) (frame : Frame)
    (position : Nat) (record : ObjectRecord) (previous : Value)
    (own : projector.property.name ∈ projector.property.dependencies.map Dependency.name) :
    (projector.inputsAfter frames track frame position record previous).window? projector.property.name =
      some [previous, projector.property.default] := by
  unfold PropertyInputs.window? PropertyInputs.input? inputsAfter
  generalize projector.property.dependencies = dependencies at own
  induction dependencies with
  | nil => exact absurd own List.not_mem_nil
  | cons first rest inductionHypothesis =>
      by_cases here : first.name = projector.property.name
      · simp [Keyed.find?, here]
      · have later := (List.mem_cons.mp own).resolve_left (Ne.symm here)
        simpa [Keyed.find?, here] using inductionHypothesis later

/-! ## From frame to frame -/

/-- Whether all that a call for an object needs is there. -/
def isReady (projector : Projector) (frames : List Frame) (track : Nat) (frame : Frame) (position : Nat)
    (record : ObjectRecord) : Bool :=
  projector.property.dependencies.all fun dependency =>
    dependency.name = projector.property.name ||
      projector.available frames track frame position record dependency

/-- The state of a track after one more frame: a step makes it of the one before wherever the track is seen
and all is there that the step needs, and it stays while the track is lost. -/
def stateAfter (projector : Projector) (rule : Continuing Float) (observed : String)
    (condition : Value → Bool) (track : Nat) (frames : List Frame) (before : Option ContinuingState)
    (frame : Frame) : Option ContinuingState :=
  match projector.firstOf? frame track with
  | some (position, record) =>
    some (if projector.isReady frames track frame position record then
        rule.observe observed condition
          (projector.inputsAfter frames track frame position record .null) (before.getD .fresh)
      else before.getD .fresh)
  | none => if (frame.lostOf projector.className).contains track then before else none

/-- The state of a track after some frames, each made of the one before without a value in between. -/
def states (projector : Projector) (rule : Continuing Float) (observed : String)
    (condition : Value → Bool) (frames : List Frame) (track : Nat) : Option ContinuingState :=
  along (projector.stateAfter rule observed condition track) none frames

/-- The frame has a number that is not negative as an integer, and no object has a field in its place. -/
structure Numbered (className : String) (frame : Frame) : Prop where
  fits : frame.id < 2 ^ 63
  bare : ∀ record ∈ frame.recordsOf className, record.get? Field.frameId = none

section Step

variable (property : start.property = rule.stateProperty name observed condition)

include property

theorem ofValue_previous (kept : Option Value) :
    ofValue (start.property.previous kept) = (kept.map ofValue).getD .fresh := by
  have default : start.property.default = .null := by
    rw [property]
    rfl
  cases kept with
  | none =>
      rw [Property.previous, default]
      rfl
  | some value =>
      rw [Property.previous, default]
      cases value <;> rfl

theorem handedState_inputsAfter (previous : Value) :
    handedState name (start.inputsAfter frames track frame position record previous) = ofValue previous := by
  have named : start.property.name = name ++ "_state" := by
    rw [property]
    rfl
  have own : start.property.name ∈ start.property.dependencies.map Dependency.name := by
    rw [named, property]
    exact List.mem_map_of_mem (own_mem_dependencies rule name observed condition)
  have window := window?_inputsAfter start frames track frame position record previous own
  rw [named] at window
  rw [handedState, window]
  rfl

/-- The number of a frame that a call is handed fits. -/
theorem Numbered.wordOf_lt (numbered : Numbered start.className frame)
    (here : (frame.recordsOf start.className)[position]? = some record) {previous : Value} {n : Int64}
    (found : (start.inputsAfter frames track frame position record previous).current? Field.frameId >>=
      Value.int? = some n) : wordOf n < 2 ^ 63 := by
  have default : start.property.default.int? = none := by
    rw [property]
    rfl
  have fact : start.currentValue frame position record Field.frameId = .ofNat frame.id := by
    unfold currentValue
    rw [numbered.bare record (List.mem_of_getElem? here)]
    rfl
  rw [current?_inputsAfter, fact] at found
  split at found
  · split at found
    · rw [Option.bind_eq_bind, Option.bind_some, default] at found
      exact absurd found (by simp)
    · have equal : Int64.ofNat frame.id = n := Option.some.inj found
      rw [← equal, wordOf_ofNat (Nat.lt_trans numbered.fits (by decide))]
      exact numbered.fits
  · exact absurd found (by simp)

/-- What is read back from the value of a call is made of the state that the call has read. -/
theorem ofValue_compute_inputsAfter (numbered : Numbered start.className frame)
    (here : (frame.recordsOf start.className)[position]? = some record) (previous : Value) :
    ofValue (start.property.compute
        (start.inputsAfter frames track frame position record previous)) =
      rule.observe observed condition
        (start.inputsAfter frames track frame position record .null) (ofValue previous) := by
  have compute : start.property.compute = (rule.stateProperty name observed condition).compute := by
    rw [property]
  rw [compute, rule.ofValue_compute name observed condition _ fun _ found =>
    numbered.wordOf_lt property here found, handedState_inputsAfter property]
  exact rule.observe_congr observed condition
    (fun wanted => by rw [current?_inputsAfter, current?_inputsAfter]) _

/-- What is kept of a track, read back, is its state. -/
theorem map_ofValue_life (numbered : ∀ frame ∈ frames, Numbered start.className frame) (track : Nat) :
    (start.life frames track).map ofValue = start.states rule observed condition frames track := by
  induction frames using List.reverseRecOn with
  | nil => rfl
  | append_singleton frames frame inductionHypothesis =>
      have before := inductionHypothesis fun other member => numbered other (List.mem_append_left _ member)
      have previous := ofValue_previous property (start.life frames track)
      rw [before] at previous
      rw [life_concat, states, along_concat, ← states, stateAfter, keptAfter]
      cases first : start.firstOf? frame track with
      | none =>
          dsimp only
          split
          · exact before
          · rfl
      | some item =>
          obtain ⟨position, record⟩ := item
          obtain ⟨_, _, _, here, _⟩ := firstOf?_eq_some first
          dsimp only
          rw [valueAfter, ← isReady, Option.map_some, apply_ite ofValue,
            ofValue_compute_inputsAfter property (numbered frame (by simp)) here, previous]

end Step

theorem readsLast_ofSpec {spec : ProjectionSpec}
    (property : spec.property = rule.stateProperty name observed condition) : (ofSpec spec).ReadsLast where
  columns := rfl
  reach _ member := (Property.window_le_maxWindow member).trans (Nat.le_max_right ..)
  distinct := by
    change (spec.property.dependencies.map Dependency.name).Nodup
    rw [property]
    exact Dependency.nodup_merge _
  own := by
    change spec.property.name ≠ Field.trackId
    rw [property]
    exact append_state_ne_trackId name
  last := by
    change ⟨spec.property.name, 1⟩ ∈ spec.property.dependencies
    rw [property]
    exact own_mem_dependencies rule name observed condition

end Projector

namespace Continuing

open ContinuingState Projector

/-- A state is read back from its value exactly if its numbers fit, and so is all that has been read from a
value. So a projector that stores the states of tracks as values has, after any frames, for each track the
value of the state that the steps have made one of the other. -/
theorem unaltered_by_storing :
    (∀ state : ContinuingState, ofValue state.toValue = state ↔ state.Storable) ∧
      (∀ value : Value, ofValue (ofValue value).toValue = ofValue value) ∧
      ∀ (rule : Continuing Float) (name observed : String) (condition : Value → Bool)
        (spec : ProjectionSpec), spec.property = rule.stateProperty name observed condition →
        ∀ (first : Nat) (frames : List Frame), CountedFrom first frames →
          (∀ frame ∈ frames, (ofSpec spec).ListsAll frame ∧ Numbered spec.className frame) →
          ∀ track, ∃ kept, ((ofSpec spec).after frames).Stores track (first + frames.length) kept ∧
            kept.map ofValue = (ofSpec spec).states rule observed condition frames track := by
  refine ⟨ofValue_toValue_iff, fun value => ofValue_toValue (storable_ofValue value), ?_⟩
  intro rule name observed condition spec property first frames counted framed track
  have keeps := keeps_after (readsLast_ofSpec property) rfl counted fun frame member =>
    (framed frame member).1
  exact ⟨_, keeps.stores track,
    map_ofValue_life property (fun frame member => (framed frame member).2) track⟩

/-! ### Somebody who is lost for a frame -/

namespace Glimpsed

/-- A high score for a fifth of a second. -/
def rule : Continuing Float := ⟨0.2, none⟩

def isHigh (value : Value) : Bool := value.number?.any fun score => 0.5 < score

def spec : ProjectionSpec :=
  ⟨rule.stateProperty "sure" Field.score isHigh, "person", 0, 1, true⟩

def person : ObjectRecord := .setTrackId (.ofDetection ⟨⟨10, 100, 50, 200⟩, 0.75, 0⟩) 1

/-- A frame with some persons and lost tracks, at ten frames a second. -/
def frame (id : Nat) (persons : List ObjectRecord) (lost : List Nat) : Frame where
  id := id
  picture := none
  metadata := ⟨10, 640, 480, 3⟩
  records := [("person", persons)]
  listed := [(0, [("person", List.range persons.length)])]
  lost := [("person", lost)]

def frames : List Frame := [frame 1 [person] [], frame 2 [] [1], frame 3 [person] []]

theorem numbered_frame {id : Nat} (fits : id < 2 ^ 63) {persons : List ObjectRecord}
    (persons_eq : ∀ record ∈ persons, record = person) (lost : List Nat) :
    Numbered spec.className (frame id persons lost) :=
  ⟨fits, fun record present => persons_eq record present ▸ rfl⟩

theorem framed : ∀ frame ∈ frames, (ofSpec spec).ListsAll frame ∧ Numbered spec.className frame := by
  intro frame member
  unfold frames at member
  simp only [List.mem_cons, List.not_mem_nil, or_false] at member
  rcases member with rfl | rfl | rfl
  · exact ⟨rfl, numbered_frame (by decide) (by simp) _⟩
  · exact ⟨rfl, numbered_frame (by decide) (by simp) _⟩
  · exact ⟨rfl, numbered_frame (by decide) (by simp) _⟩

end Glimpsed

open Glimpsed in
/-- The period goes on where it was open before the loss. -/
theorem unaltered_by_storing_glimpsed :
    CountedFrom 1 frames ∧
      (∀ frame ∈ frames, (ofSpec spec).ListsAll frame ∧ Numbered spec.className frame) ∧
      ∃ kept, ((ofSpec spec).after frames).Stores 1 4 kept ∧
        kept.map ofValue = some ⟨true, some (1, 3), [(0, 0)]⟩ := by
  have counted : CountedFrom 1 frames := rfl
  have state : (ofSpec spec).states rule Field.score isHigh frames 1 =
      some ⟨true, some (1, 3), [(0, 0)]⟩ := by decide +kernel
  refine ⟨counted, framed, ?_⟩
  rw [← state]
  exact unaltered_by_storing.2.2 rule "sure" Field.score isHigh spec rfl 1 frames counted framed 1

end Continuing

end ObjectQuery
