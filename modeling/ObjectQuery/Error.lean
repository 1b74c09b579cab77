import ObjectQuery.Text.Quoted
/-!
# Errors

What can go wrong, by cause, with the text shown for each: in the services a run depends on
(configuration, detector, video, files), in making a plan, and in the stages of a running query.
-/

namespace ObjectQuery

def ticked (name : String) : String := "'" ++ name ++ "'"

/-- What can go wrong with a configuration, a detector, a video or a file. -/
inductive ServiceError where
  | configParse (message : String)
  | configValidation (field message : String)
  | detectorNotRegistered (name : String)
  | duplicateDetector (name : String)
  | unsupportedClass (detector className : String)
  | inference (detector message : String)
  | videoDecode (frame : Nat) (message : String)
  | videoExhausted (frames : Nat)
  | io (message : String)
  | other (message : String)
deriving DecidableEq, Repr

def ServiceError.message : ServiceError → String
  | .configParse message => "config parse error: " ++ message
  | .configValidation field message =>
    "config validation error at " ++ ticked field ++ ": " ++ message
  | .detectorNotRegistered name => "detector " ++ ticked name ++ " is not registered"
  | .duplicateDetector name => "detector " ++ ticked name ++ " is already registered"
  | .unsupportedClass detector className =>
    "detector " ++ ticked detector ++ " does not support class " ++ ticked className
  | .inference detector message => "detector " ++ ticked detector ++ " inference error: " ++ message
  | .videoDecode frame message =>
    "video decode error at frame " ++ toString frame ++ ": " ++ message
  | .videoExhausted frames => "video source exhausted after " ++ toString frames ++ " frames"
  | .io message => "io error: " ++ message
  | .other message => message

/-- Why a query has no plan. -/
inductive PlanError where
  /-- The properties that lie on a cycle or depend on one. -/
  | cycle (remaining : List String)
  | multipleTypes (found : List String)
  | noType
  | unknownProperty (type property : String)
  | unknownDependency (property dependency : String)
deriving DecidableEq, Repr

def PlanError.message : PlanError → String
  | .cycle remaining =>
    "cycle detected in property dependencies among " ++
      Text.bracketed (remaining.map Text.quoted)
  | .multipleTypes found =>
    "only one VObj type per predicate supported, found " ++ Text.bracketed (found.map Text.quoted)
  | .noType => "predicate does not reference any VObj type"
  | .unknownProperty type property =>
    "unknown property " ++ ticked property ++ " on VObj " ++ ticked type
  | .unknownDependency property dependency =>
    "property " ++ ticked property ++ " depends on unknown " ++ ticked dependency

/-- What can go wrong while a query runs. -/
inductive RunError where
  | service (error : ServiceError)
  | plan (error : PlanError)
  /-- Two class filters write the same class under one index. -/
  | duplicateClassFilter (index : Nat) (className : String)
  /-- A stage reads positions that no class filter has written. -/
  | missingFilterIndex (index : Nat) (className : String)
  /-- Two detection stages deliver the same class. -/
  | classAlreadyDetected (className : String)
  | sink (path message : String)
  | exhausted
deriving DecidableEq, Repr

def RunError.message : RunError → String
  | .service error => error.message
  | .plan error => error.message
  | .duplicateClassFilter index className =>
    "filter index " ++ toString index ++ " already contains class " ++ ticked className
  | .missingFilterIndex index className =>
    "filter index " ++ toString index ++ " has no entry for class " ++ ticked className
  | .classAlreadyDetected className =>
    "class " ++ ticked className ++ " was already detected upstream"
  | .sink path message => "sink " ++ ticked path ++ " error: " ++ message
  | .exhausted => "pipeline exhausted"

/-! ## Computations that may fail -/

/-- A computation that succeeds has succeeded in each of its steps. -/
theorem exists_of_bind_eq_ok {ε β γ : Type} {first : Except ε β} {next : β → Except ε γ} {result : γ}
    (found : (first >>= next) = .ok result) :
    ∃ value, first = .ok value ∧ next value = .ok result := by
  cases first with
  | error error => exact absurd found (by simp [bind, Except.bind])
  | ok value => exact ⟨value, rfl, found⟩

theorem bind_of_eq_ok {ε β γ : Type} {first : Except ε β} {value : β} (found : first = .ok value)
    (next : β → Except ε γ) : (first >>= next) = next value := by
  rw [found]
  rfl

theorem eq_ok_of_toOption {ε β : Type} {result : Except ε β} {value : β}
    (found : result.toOption = some value) : result = .ok value := by
  cases result with
  | error error => exact absurd found (by simp [Except.toOption])
  | ok other => exact congrArg Except.ok (Option.some.inj found)

end ObjectQuery
