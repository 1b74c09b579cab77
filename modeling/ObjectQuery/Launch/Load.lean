import ObjectQuery.Host.Basic
import ObjectQuery.Launch.Document
import ObjectQuery.Launch.Validation
/-!
# Loading configurations

A configuration is read from a text or a file and accepted if it is valid.
-/

namespace ObjectQuery.LaunchConfig

def ofText (format : ConfigFormat) (text : String) : Except ServiceError LaunchConfig :=
  match format.read? text >>= read? format with
  | some config => config.validated
  | none => .error (.configParse (format.title ++ " parse error: not a launch configuration"))

/-- The format of a file by its extension. -/
def formatOf (path : String) : Except ServiceError ConfigFormat :=
  match Path.extension? path with
  | none => .error (.configParse "cannot determine file format from extension")
  | some extension =>
    match ConfigFormat.ofExtension? extension with
    | some format => .ok format
    | none => .error (.configParse ("unsupported config format: ." ++ extension))

def load {m : Type → Type} [Monad m] [Host m] (path : String) :
    m (Except ServiceError LaunchConfig) := do
  match formatOf path with
  | .error error => return .error error
  | .ok format =>
    match ← Host.readText path with
    | .error message => return .error (.io message)
    | .ok text => return ofText format text

end ObjectQuery.LaunchConfig
