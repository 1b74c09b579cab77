import ObjectQuery.Command.Option
import ObjectQuery.Text.Quoted
/-!
# Commands

What the program can be told to do: run a query, validate a configuration, or tell what it knows. A
few settings apply to every command.
-/

namespace ObjectQuery

/-! ## The commands -/

/-- How a query is run. -/
structure RunOptions where
  config : String := "vidquery.toml"
  /-- The name of the query in the catalogue. -/
  query : String := "all_objects"
  /-- The file for the reports, in place of the configured one. -/
  output : Option String := none
  /-- Whether every frame is reported. -/
  allFrames : Bool := false
  /-- After how many frames to stop, zero for no limit. -/
  maxFrames : Nat := 0
  /-- The port for metrics, zero for none. -/
  metricsPort : Nat := 0
  /-- Whether the plan is only shown. -/
  dryRun : Bool := false

/-- How a configuration is validated. -/
structure ValidateOptions where
  config : String := "vidquery.toml"
  json : Bool := false

/-- What is told about the program. -/
structure InfoOptions where
  json : Bool := false
  queries : Bool := false
  detectors : Bool := false

/-- A command with its options. -/
inductive Command where
  | run (options : RunOptions)
  | validate (options : ValidateOptions)
  | info (options : InfoOptions)

/-- A command and the settings for every command. -/
structure Invocation where
  verbosity : Nat
  isQuiet : Bool
  logFormat : LogFormat
  command : Command

/-! ## Descriptions -/

def describeFields (name : String) (fields : List (String × String)) : String :=
  name ++ " \x7b " ++ String.intercalate ", " (fields.map fun (field, value) =>
    field ++ ": " ++ value) ++ " \x7d"

def RunOptions.describe (options : RunOptions) : String :=
  describeFields "RunArgs" [
    ("config", Text.quoted options.config),
    ("query", Text.quoted options.query),
    ("output", match options.output with
      | some path => "Some(" ++ Text.quoted path ++ ")"
      | none => "None"),
    ("all_frames", toString options.allFrames),
    ("max_frames", toString options.maxFrames),
    ("metrics_port", toString options.metricsPort),
    ("dry_run", toString options.dryRun)]

def ValidateOptions.describe (options : ValidateOptions) : String :=
  describeFields "ValidateArgs" [
    ("config", Text.quoted options.config), ("json", toString options.json)]

def InfoOptions.describe (options : InfoOptions) : String :=
  describeFields "InfoArgs" [
    ("json", toString options.json), ("queries", toString options.queries),
    ("detectors", toString options.detectors)]

def Command.describe : Command → String
  | .run options => "Run(" ++ options.describe ++ ")"
  | .validate options => "Validate(" ++ options.describe ++ ")"
  | .info options => "Info(" ++ options.describe ++ ")"

end ObjectQuery
