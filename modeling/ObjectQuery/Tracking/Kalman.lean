import ObjectQuery.Box.Overlap
import ObjectQuery.Tracking.Grid
/-!
# The motion of a box

A linear filter with constant velocity for the outline of a box. The state holds the centre, aspect
and height and the velocity of each; a measurement is an outline. All uncertainties but those of the
aspect scale with the height.
-/

namespace ObjectQuery

open Scalar Box

/-- The estimate of a state: the four parts of an outline, their velocities, and the covariances. -/
structure Motion (α : Type) where
  mean : Column 8 α
  covariance : Grid 8 8 α

namespace Motion

variable {α : Type} [Scalar α]

/-! ## Noise -/

/-- The uncertainty of a position, in heights. -/
def positionWeight : α := one / ofNat 20

/-- The uncertainty of a velocity, in heights. -/
def velocityWeight : α := one / ofNat 160

/-- Deviations of the state given those of positions, aspect, velocities and aspect velocity. -/
def deviations (position aspect velocity aspectVelocity : α) : Fin 8 → α :=
  (#v[position, position, aspect, position, velocity, velocity, aspectVelocity, velocity]).get

/-- Deviations of a state that begins with one measurement. -/
def initialDeviations (height : α) : Fin 8 → α :=
  deviations (two * positionWeight * height) (decimal 1 2) (ofNat 10 * velocityWeight * height)
    (decimal 1 5)

/-- Deviations that one frame adds. -/
def driftDeviations (height : α) : Fin 8 → α :=
  deviations (positionWeight * height) (decimal 1 2) (velocityWeight * height) (decimal 1 5)

/-- Deviations of a measurement. -/
def measurementDeviations (height : α) : Fin 4 → α :=
  (#v[positionWeight * height, positionWeight * height, decimal 1 1, positionWeight * height]).get

def variances {n : Nat} (deviation : Fin n → α) : Grid n n α :=
  .diagonal fun i => deviation i * deviation i

/-! ## The linear model -/

/-- In one frame each part of the outline moves by its velocity. -/
def transition : Grid 8 8 α :=
  .ofEntries fun i j => if i = j ∨ i.val + 4 = j.val then one else zero

/-- A measurement shows the parts of the outline and not their velocities. -/
def observation : Grid 4 8 α := .ofEntries fun i j => if i.val = j.val then one else zero

def measured (outline : Outline α) : Column 4 α :=
  #v[outline.centreX, outline.centreY, outline.aspect, outline.height]

def outline (motion : Motion α) : Outline α :=
  ⟨motion.mean.get 0, motion.mean.get 1, motion.mean.get 2, motion.mean.get 3⟩

/-! ## Steps -/

/-- The state after a first measurement, at rest. -/
def initiate (outline : Outline α) : Motion α where
  mean := #v[outline.centreX, outline.centreY, outline.aspect, outline.height, zero, zero, zero, zero]
  covariance := variances (initialDeviations outline.height)

/-- The state with the velocity of the height set to zero. -/
def freezeHeight (motion : Motion α) : Motion α :=
  { motion with mean := motion.mean.set 7 zero }

def predict (motion : Motion α) : Motion α where
  mean := transition.apply motion.mean
  covariance :=
    ((transition.mul motion.covariance).mul transition.transpose).add
      (variances (driftDeviations (motion.mean.get 3)))

/-- The mean and covariance of the measurement that the state lets expect. -/
def project (motion : Motion α) : Column 4 α × Grid 4 4 α :=
  (observation.apply motion.mean,
    ((observation.mul motion.covariance).mul observation.transpose).add
      (variances (measurementDeviations (motion.mean.get 3))))

/-- How much each part of the state moves with each part of a measurement: the solution of the
system of the expected measurement's covariance, one column of the state at a time. -/
def gain? (motion : Motion α) (expected : Grid 4 4 α) : Option (Grid 8 4 α) :=
  let shown := observation.mul motion.covariance
  let column? (i : Fin 8) : Option (Column 4 α) :=
    (solvePositive? expected.entry fun j => shown.entry j i).map Vector.ofFn
  let columns := Vector.ofFn column?
  if solved : ∀ i : Fin 8, (columns.get i).isSome then
    some (Vector.ofFn fun i => (columns.get i).get (solved i))
  else none

/-- The state corrected by a measurement, none if the covariance of the expected measurement is not
positive definite. -/
def update? (motion : Motion α) (outline : Outline α) : Option (Motion α) :=
  let (expectedMean, expected) := motion.project
  (motion.gain? expected).map fun gain =>
    let seen := measured outline
    let innovation : Column 4 α := Vector.ofFn fun i => seen.get i - expectedMean.get i
    let shift := gain.apply innovation
    { mean := Vector.ofFn fun i => motion.mean.get i + shift.get i
      covariance := motion.covariance.sub ((gain.mul expected).mul gain.transpose) }

end Motion

end ObjectQuery
