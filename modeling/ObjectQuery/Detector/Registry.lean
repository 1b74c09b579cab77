import ObjectQuery.Detector.Precomputed
import ObjectQuery.Host.Basic
import ObjectQuery.Launch.Config
import ObjectQuery.Text.Quoted
/-!
# Detector registries

A registry knows under which name to make which detector. It is a value that is handed to a run; a
name is given to one detector only.
-/

namespace ObjectQuery

abbrev DetectorFactory (m : Type → Type) := DetectorConfig → m (Except ServiceError Detector)

/-- Detectors by name. -/
structure DetectorRegistry (m : Type → Type) where
  /-- In the order of the names. -/
  factories : Keyed String (DetectorFactory m)

namespace DetectorRegistry

variable {m : Type → Type}

def empty : DetectorRegistry m := ⟨[]⟩

/-- The name of the detector that replays a detection file. -/
def precomputedName : String := "precomputed"

def precomputed [Monad m] [Host m] : DetectorFactory m := fun config => do
  match config.path with
  | none =>
    return .error (.configValidation "detector.path"
      "precomputed detector requires a detection file")
  | some path =>
    match ← Host.readText path with
    | .error message => return .error (.io message)
    | .ok content =>
      return (DetectionTable.ofText content config.classNames).map DetectionTable.detector

/-- The detectors that are always there. -/
def builtin [Monad m] [Host m] : DetectorRegistry m := ⟨[(precomputedName, precomputed)]⟩

/-- The names of the detectors, in ascending order. -/
def names (registry : DetectorRegistry m) : List String := registry.factories.keys

/-- Add a detector under a name that is free. -/
def register (registry : DetectorRegistry m) (name : String) (factory : DetectorFactory m) :
    Except ServiceError (DetectorRegistry m) :=
  if registry.factories.has name then .error (.duplicateDetector name)
  else .ok ⟨registry.factories.putSorted name factory⟩

def build [Monad m] (registry : DetectorRegistry m) (name : String) (config : DetectorConfig) :
    m (Except ServiceError Detector) :=
  match registry.factories.find? name with
  | some factory => factory config
  | none => return .error (.detectorNotRegistered name)

def describe (registry : DetectorRegistry m) : String :=
  "DetectorRegistry \x7b detectors: " ++ Text.bracketed (registry.names.map Text.quoted) ++ " \x7d"

end DetectorRegistry

end ObjectQuery
