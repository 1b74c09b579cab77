import ObjectQuery.Command.Info
import ObjectQuery.Command.Line
/-!
# The usage of the program

The text that is shown when help is asked for: the commands and, for each part of the command line,
the options that it knows.
-/

namespace ObjectQuery

def programName : String := "vidquery"

namespace OptionSpec

/-- The spellings of an option, and whether a value follows. -/
def usage (option : OptionSpec) : String :=
  (match option.letter with
    | some letter => "  -" ++ letter.toString ++ ", --"
    | none => "      --") ++
    option.name ++ (if option.kind.takesValue then " <VALUE>" else "")

end OptionSpec

namespace Level

def usage (title : String) (level : Level) : List String :=
  ["", title] ++ level.options.map OptionSpec.usage

end Level

def usageLines : List String :=
  ["Video object query engine", "",
    "Usage: " ++ programName ++ " [OPTIONS] <COMMAND>", "",
    "Commands:",
    "  run       Run a built-in query over the configured video",
    "  validate  Validate configuration file without running",
    "  info      List built-in queries and registered detectors",
    "  help      Print this message"] ++
    Level.program.usage "Options:" ++ Level.run.usage "Options of run:" ++
    Level.validate.usage "Options of validate [CONFIG]:" ++ Level.info.usage "Options of info:"

namespace UsageError

def isAnswer : UsageError → Bool
  | .displayHelp | .displayVersion => true
  | _ => false

/-- What is shown in place of a command. -/
def lines : UsageError → List String
  | .displayHelp | .nothingGiven => usageLines
  | .displayVersion => [programName ++ " " ++ version]
  | error => ["error: " ++ error.message, "", "For more information, try '--help'."]

end UsageError

end ObjectQuery
