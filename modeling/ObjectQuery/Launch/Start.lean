import ObjectQuery.Detector.Registry
import ObjectQuery.Run
import ObjectQuery.Video.PictureFiles
/-!
# Launching a run

From a plan and a launch configuration to a run: the detector is made, the video is opened, and the
stages are set up.
-/

namespace ObjectQuery.Run

variable {m : Type → Type} [Monad m] [Host m]

/-- The detector of a run: the one that the type of the query asks for, else the configured one. -/
def detectorName (plan : Plan) (config : LaunchConfig) : String :=
  plan.type.detector.getD config.detector.name

def launch (plan : Plan) (config : LaunchConfig) (registry : DetectorRegistry m) :
    m (Except RunError Run) := do
  let name := detectorName plan config
  match ← registry.build name config.detector with
  | .error error => return .error (.service error)
  | .ok detector =>
    match ← VideoSource.openConfigured config.video with
    | .error error => return .error (.service error)
    | .ok source => return Run.start plan source detector name config.tracker config.output

end ObjectQuery.Run
