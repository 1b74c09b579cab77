import ObjectQuery.Detector.Basic
import ObjectQuery.Stage.Filter
import ObjectQuery.Stage.Projector
import ObjectQuery.Stage.Track
import ObjectQuery.Video.Source
/-!
# Pipelines

The stages between the video and the reports, each with the state it carries from frame to frame. A
frame goes through them in order; the first stage that fails ends its way, and what the stages before
have learnt from the frame they keep.
-/

namespace ObjectQuery

/-- A step on the way of a frame, with its state. -/
inductive Stage where
  | detect (stage : DetectionStage)
  | track (trackers : ClassTrackers Float32)
  | selectClass (className : String) (index : Nat)
  | project (projector : Projector)
  | keep (predicate : Predicate) (className : String) (index : Nat)

/-- One call of a property function. -/
structure PropertyCall where
  /-- The position of the stage. -/
  stage : Nat
  property : String
  frame : Nat
  trackId : Option Nat
  inputs : PropertyInputs

/-- The state of stages after a frame, what has become of the frame, and the property functions that
were called on the way. -/
structure Passage (σ : Type) where
  state : σ
  frame : Except RunError Frame
  calls : List PropertyCall

namespace Stage

/-- The name of a kind of stage, or of the property it computes. -/
def name : Stage → String
  | .detect _ => "object_detector"
  | .track _ => "tracker"
  | .selectClass .. => "class_filter"
  | .project projector => projector.property.name
  | .keep .. => "predicate_filter"

def callsOf (position : Nat) (property : String) (frame : Nat)
    (evaluations : List Projector.Evaluation) : List PropertyCall :=
  (evaluations.filter Projector.Evaluation.isCalled).map fun evaluation =>
    ⟨position, property, frame, evaluation.trackId, evaluation.inputs⟩

def apply (stage : Stage) (position : Nat) (frame : Frame) : Passage Stage :=
  match stage with
  | .detect detection => ⟨stage, detection.apply frame, []⟩
  | .track trackers =>
    let (after, frame) := trackers.apply frame
    ⟨.track after, .ok frame, []⟩
  | .selectClass className index => ⟨stage, frame.selectClass className index, []⟩
  | .project projector =>
    match projector.apply frame with
    | .ok projection =>
      ⟨.project projection.projector, .ok projection.frame,
        callsOf position projector.property.name frame.id projection.evaluations⟩
    | .error error => ⟨stage, .error error, []⟩
  | .keep predicate className index => ⟨stage, frame.keepSatisfying predicate className index, []⟩

/-- A frame through stages, the first of them at the given position. -/
def applyAll : (position : Nat) → List Stage → Frame → Passage (List Stage)
  | _, [], frame => ⟨[], .ok frame, []⟩
  | position, stage :: rest, frame =>
    let passage := stage.apply position frame
    match passage.frame with
    | .ok frame =>
      let later := applyAll (position + 1) rest frame
      ⟨passage.state :: later.state, later.frame, passage.calls ++ later.calls⟩
    | .error error => ⟨passage.state :: rest, .error error, passage.calls⟩

/-- Stages in which every projector knows how many before it compute the same property. The names of
the properties computed so far are passed along. -/
def withTurns : (computed : List String) → List Stage → List Stage
  | _, [] => []
  | computed, .project projector :: rest =>
    let name := projector.property.name
    .project { projector with turn := computed.count name } :: withTurns (name :: computed) rest
  | computed, stage :: rest => stage :: withTurns computed rest

end Stage

/-- A video and the stages its frames go through. -/
structure Pipeline where
  playback : Playback
  stages : List Stage

namespace Pipeline

def make (playback : Playback) (stages : List Stage) : Pipeline :=
  ⟨playback, Stage.withTurns [] stages⟩

def hasNext (pipeline : Pipeline) : Bool := pipeline.playback.hasNext

def pull (pipeline : Pipeline) : Passage Pipeline :=
  let (playback, delivered) := pipeline.playback.pull
  match delivered with
  | .error error => ⟨{ pipeline with playback := playback }, .error error, []⟩
  | .ok frame =>
    let passage := Stage.applyAll 0 pipeline.stages frame
    ⟨⟨playback, passage.state⟩, passage.frame, passage.calls⟩

end Pipeline

end ObjectQuery
