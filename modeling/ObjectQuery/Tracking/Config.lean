import ObjectQuery.Number.Binary
import ObjectQuery.Tracking.LeastAssignment
import ObjectQuery.Tracking.Tracker
/-!
# The configuration of a tracker

The thresholds of a tracker with the values they have when nothing else is said.
-/

namespace ObjectQuery

/-- The configured thresholds. -/
structure TrackerConfig where
  trackThreshold : Float32 := .ofScientific 6 true 1
  matchThreshold : Float32 := .ofScientific 9 true 1
  newTrackThreshold : Float32 := .ofScientific 7 true 1
  lowScoreFloor : Float32 := .ofScientific 1 true 1
  lowMatchThreshold : Float32 := .ofScientific 5 true 1
  tentativeMatchThreshold : Float32 := .ofScientific 7 true 1
  duplicateDistance : Float32 := .ofScientific 15 true 2
  /-- One second of video if absent. -/
  maxTimeLost : Option Nat := none

namespace TrackerConfig

def largestCount : Nat := UInt32.size - 1

/-- The frames in a second, rounded to the nearest number and at least one. -/
def framesPerSecond (fps : Float) : Nat :=
  match fps.binaryValue with
  | .infinite false => largestCount
  | value => min (max ((value.rounded?.getD 1).toNat) 1) largestCount

def maxTimeLostFor (config : TrackerConfig) (fps : Float) : Nat :=
  config.maxTimeLost.getD (framesPerSecond fps)

def settings (config : TrackerConfig) (fps : Float) : TrackerSettings Float32 where
  trackThreshold := config.trackThreshold
  matchThreshold := config.matchThreshold
  newTrackThreshold := config.newTrackThreshold
  lowScoreFloor := config.lowScoreFloor
  lowMatchThreshold := config.lowMatchThreshold
  tentativeMatchThreshold := config.tentativeMatchThreshold
  duplicateDistance := config.duplicateDistance
  maxTimeLost := config.maxTimeLostFor fps
  solve := leastAssignmentSolver

end TrackerConfig

end ObjectQuery
