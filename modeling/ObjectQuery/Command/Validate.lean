import ObjectQuery.Command.Invocation
import ObjectQuery.Command.Outcome
import ObjectQuery.Launch.Load
/-!
# Validating a configuration

A configuration file is loaded without running anything. The verdict is shown as text or as JSON, and
an invalid configuration makes the command fail.
-/

namespace ObjectQuery

/-- A configuration in a few words. -/
structure ConfigSummary where
  source : String
  fps : Float
  detector : String
  classCount : Nat
  outputMode : String
  savePath : Option String

/-- What a file turned out to hold. -/
inductive Verdict where
  | valid (summary : ConfigSummary) (warnings : List String)
  | invalid (reason : String)

namespace ConfigSummary

def ofConfig (config : LaunchConfig) : ConfigSummary where
  source := config.video.kind
  fps := config.video.fps
  detector := config.detector.name
  classCount := config.detector.classNames.length
  outputMode := config.output.mode.name
  savePath := config.output.savePath

def toJson (summary : ConfigSummary) : Json :=
  .object ([("source", .text summary.source), ("fps", .real summary.fps),
    ("detector", .text summary.detector), ("class_count", .integer summary.classCount),
    ("output_mode", .text summary.outputMode)] ++
    (summary.savePath.map fun path => ("save_path", Json.text path)).toList)

def lines (summary : ConfigSummary) : List String :=
  ["", "  Source: " ++ summary.source ++ " @ " ++ floatText summary.fps ++ " fps",
    "  Detector: " ++ summary.detector ++ " (" ++ toString summary.classCount ++ " classes)",
    "  Output mode: " ++ summary.outputMode] ++
    (summary.savePath.map fun path => "  Save path: " ++ path).toList

end ConfigSummary

namespace Verdict

def ofLoaded : Except ServiceError LaunchConfig → Verdict
  | .ok config => .valid (.ofConfig config) config.warnings
  | .error error => .invalid error.message

/-- The members that a verdict adds to an answer. A list without warnings is left out. -/
def members : Verdict → List (String × Json)
  | .invalid reason => [("error", .text reason)]
  | .valid summary warnings =>
    (if warnings.isEmpty then [] else [("warnings", .array (warnings.map .text))]) ++
      [("summary", summary.toJson)]

def isValid : Verdict → Bool
  | .valid .. => true
  | .invalid _ => false

def toJson (path : String) (verdict : Verdict) : Json :=
  .object ([("valid", .bool verdict.isValid), ("config_path", .text path)] ++ verdict.members)

def lines (path : String) : Verdict → List String
  | .invalid reason => ["✗ Configuration is invalid: " ++ path, "", "  Error: " ++ reason]
  | .valid summary warnings =>
    ["✓ Configuration is valid: " ++ path] ++ summary.lines ++
      (if warnings.isEmpty then []
      else ["", "⚠ Warnings:"] ++ warnings.map fun warning => "  - " ++ warning)

/-- The verdict as it is printed, a failure if the configuration is invalid. -/
def outcome (options : ValidateOptions) (verdict : Verdict) : Outcome :=
  { Outcome.printed
      (if options.json then [(verdict.toJson options.config).pretty]
      else verdict.lines options.config) with
    error := match verdict with
      | .valid .. => none
      | .invalid reason => some (.configInvalid reason) }

end Verdict

namespace ValidateOptions

variable {m : Type → Type} [Monad m] [Host m]

def verdict (path : String) : m Verdict := do
  match ← Host.kindOf path with
  | none => return .invalid ("File not found: " ++ path)
  | some _ => return .ofLoaded (← LaunchConfig.load path)

def perform (options : ValidateOptions) : m Outcome := do
  return (← verdict options.config).outcome options

end ValidateOptions

end ObjectQuery
