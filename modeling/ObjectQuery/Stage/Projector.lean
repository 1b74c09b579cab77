import ObjectQuery.Bitmap.Cut
import ObjectQuery.Frame
import ObjectQuery.History
import ObjectQuery.Plan.Basic
/-!
# Projectors

A projector computes one property for the listed objects of a class and writes it onto them. It owns
the past values of the dependencies that are read with a window, its own past results among them. A
track is evaluated once a frame, however often it is listed. While a track is lost its last own value
is carried along, and when it is gone its past is dropped.
-/

namespace ObjectQuery

/-- Computes one property. -/
structure Projector where
  property : Property
  className : String
  index : Nat
  /-- How often a frame has had the property computed before it comes to this projector. -/
  turn : Nat := 0
  history : History

namespace Projector

def ofSpec (spec : ProjectionSpec) : Projector where
  property := spec.property
  className := spec.className
  index := spec.index
  history := .empty (spec.property.windowed.map Dependency.name)
    (max spec.historyLength spec.property.maxWindow)

/-! ## Reading dependencies -/

/-- What is known of one object under a name on the current frame: a field of its own, the picture
inside its box, or a fact of the frame. -/
def currentValue (projector : Projector) (frame : Frame) (position : Nat) (record : ObjectRecord)
    (name : String) : Value :=
  match record.get? name with
  | some value => value
  | none =>
    if name = Field.image then
      match frame.picture, record.box? with
      | some bitmap, some box =>
        match bitmap.cut? box with
        | some cut =>
          .picture ⟨.cut projector.property.name projector.turn frame.id position, cut⟩
        | none => .invalid
      | _, _ => .invalid
    else (frame.fact? name).getD .invalid

/-- What reading one dependency has led to. -/
structure Reading where
  name : String
  /-- What the function is handed; nothing if a past value is missing. -/
  input : Option PropertyInput
  isAvailable : Bool
  /-- The value that the history keeps, for a dependency that looks back. -/
  kept : Option Value
  /-- For the property itself, its last value. -/
  held : Option Value

/-- The past values of a dependency, if the track has all of them. -/
def past? (projector : Projector) (frame : Frame) (track : Option Nat) (dependency : Dependency) :
    Option (List Value) :=
  track >>= fun id =>
    projector.history.window? id frame.id (projector.history.columns.idxOf dependency.name)
      dependency.window

/-- The property's own past, with the default in place of what is missing or invalid. -/
def ownPast (default : Value) (length : Nat) : Option (List Value) → List Value
  | some values => values.map fun value => if value.isInvalid then default else value
  | none => List.replicate length default

def readOwn (projector : Projector) (frame : Frame) (track : Option Nat) (dependency : Dependency) :
    Reading :=
  let default := projector.property.default
  if dependency.window = 0 then
    ⟨dependency.name, some (.current default), !default.isInvalid, none, none⟩
  else
    let past := ownPast default dependency.window (projector.past? frame track dependency)
    ⟨dependency.name, some (.window (past ++ [default])), true, some .invalid, past.getLast?⟩

def readOther (projector : Projector) (frame : Frame) (position : Nat) (record : ObjectRecord)
    (dependency : Dependency) : Reading :=
  let current := projector.currentValue frame position record dependency.name
  if dependency.window = 0 then
    ⟨dependency.name, some (.current current), !current.isInvalid, none, none⟩
  else
    match projector.past? frame record.trackId? dependency with
    | some past =>
      if past.any Value.isInvalid then ⟨dependency.name, none, false, some current, none⟩
      else
        ⟨dependency.name, some (.window (past ++ [current])), !current.isInvalid, some current, none⟩
    | none => ⟨dependency.name, none, false, some current, none⟩

def read (projector : Projector) (frame : Frame) (position : Nat) (record : ObjectRecord)
    (dependency : Dependency) : Reading :=
  if dependency.name = projector.property.name then
    projector.readOwn frame record.trackId? dependency
  else projector.readOther frame position record dependency

/-! ## One object -/

/-- The evaluation of one object. -/
structure Evaluation where
  position : Nat
  trackId : Option Nat
  inputs : PropertyInputs
  /-- Whether the function was called on the inputs. -/
  isCalled : Bool
  value : Value
  /-- The row for the history. -/
  row : List Value

def inputsOf (snapshot : List ObjectRecord) (readings : List Reading) : PropertyInputs :=
  readings.foldl (fun inputs reading =>
    match reading.input with
    | some input => inputs.insert reading.name input
    | none => inputs) (.start snapshot)

/-- The row of an object, with its result in its own column. -/
def rowOf (projector : Projector) (readings : List Reading) (value : Value) : List Value :=
  readings.filterMap fun reading => reading.kept.map fun kept =>
    if reading.name = projector.property.name then value else kept

/-- Evaluate one object: call the function if every dependency is available, else hold the last own
value if there are own values, else the result is invalid. -/
def evaluate (projector : Projector) (frame : Frame) (position : Nat) (record : ObjectRecord) :
    Evaluation :=
  let property := projector.property
  let readings := property.dependencies.map (projector.read frame position record)
  let inputs := inputsOf (frame.recordsOf projector.className) readings
  let isCalled := readings.all Reading.isAvailable
  let value :=
    if isCalled then property.compute inputs
    else if property.isSelfDependent then
      (readings.findSome? Reading.held).getD property.default
    else .invalid
  ⟨position, record.trackId?, inputs, isCalled, value, projector.rowOf readings value⟩

/-! ## One frame -/

/-- The objects to evaluate: the first of each track, and those without a track if no past values are
read. -/
def firstOfTracks (isStateful : Bool) :
    (seen : List Nat) → List (Nat × ObjectRecord) → List (Nat × ObjectRecord)
  | _, [] => []
  | seen, (position, record) :: rest =>
    match record.trackId? with
    | none =>
      if isStateful then firstOfTracks isStateful seen rest
      else (position, record) :: firstOfTracks isStateful seen rest
    | some id =>
      if seen.contains id then firstOfTracks isStateful seen rest
      else (position, record) :: firstOfTracks isStateful (id :: seen) rest

def listed (projector : Projector) (frame : Frame) (positions : List Nat) :
    List (Nat × ObjectRecord) :=
  positions.filterMap fun position =>
    (frame.recordsOf projector.className)[position]?.map fun record => (position, record)

/-- The evaluations on a frame, all on the objects as they were before. -/
def evaluations (projector : Projector) (frame : Frame) (positions : List Nat) : List Evaluation :=
  (firstOfTracks projector.property.isStateful [] (projector.listed frame positions)).map
    fun (position, record) => projector.evaluate frame position record

def written (projector : Projector) (frame : Frame) (evaluations : List Evaluation) : Frame :=
  match frame.records.find? projector.className with
  | some records =>
    frame.setRecords projector.className (evaluations.foldl (fun records evaluation =>
      records.modify evaluation.position fun record =>
        record.insert projector.property.name evaluation.value) records)
  | none => frame

def remembered (projector : Projector) (frame : Nat) (evaluations : List Evaluation) : History :=
  if projector.history.columns.isEmpty then projector.history
  else
    evaluations.foldl (fun history evaluation =>
      match evaluation.trackId with
      | some track => history.push track frame evaluation.row
      | none => history) projector.history

/-- The own value of a lost track carried to the next frame; its other columns are invalid. -/
def carryForward (history : History) (own : Nat) (frame track : Nat) : History :=
  match history.latest? track with
  | some last =>
    if last.frame < frame then
      match last.values[own]? with
      | some value =>
        history.push track frame ((List.replicate history.columns.length .invalid).set own value)
      | none => history
    else history
  | none => history

/-- The history after the evaluations of a frame: lost tracks carried along and the rest dropped. -/
def settled (projector : Projector) (frame : Frame) (history : History) : History :=
  if history.columns.isEmpty then history
  else
    let lost := frame.lostOf projector.className
    let carried :=
      if history.columns.contains projector.property.name then
        lost.foldl (fun history track =>
          carryForward history (history.columns.idxOf projector.property.name) frame.id track) history
      else history
    let live := (frame.recordsOf projector.className).filterMap ObjectRecord.trackId? ++ lost
    carried.evict frame.id live.contains

/-- A projector after a frame, the frame with the results, and the evaluations they come from. -/
structure Projection where
  projector : Projector
  frame : Frame
  evaluations : List Evaluation

def apply (projector : Projector) (frame : Frame) : Except RunError Projection :=
  match frame.positions? projector.index projector.className with
  | none => .error (.missingFilterIndex projector.index projector.className)
  | some positions =>
    let evaluations := projector.evaluations frame positions
    let after := projector.written frame evaluations
    let history := projector.settled after (projector.remembered frame.id evaluations)
    .ok ⟨{ projector with history := history }, after, evaluations⟩

end Projector

end ObjectQuery
