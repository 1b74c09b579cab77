import ObjectQuery.Host.Path
import ObjectQuery.Json.Printer
import ObjectQuery.Json.Reader
import ObjectQuery.Toml.Printer
import ObjectQuery.WrittenValue.Fields
/-!
# Formats of configuration files

A configuration is written in TOML or in JSON. The two differ in their text, in what they ask of the
values that stand for structures, and in what stands beside the name of a choice that carries no data.
-/

namespace ObjectQuery

/-- A format of configuration files. -/
inductive ConfigFormat where
  | toml
  | json
deriving DecidableEq, Repr

namespace ConfigFormat

def title : ConfigFormat → String
  | .toml => "TOML"
  | .json => "JSON"

/-- The format that an extension stands for, in capital or small letters. -/
def ofExtension? (extension : String) : Option ConfigFormat :=
  match Path.lowered extension with
  | "toml" => some .toml
  | "json" => some .json
  | _ => none

def read? : ConfigFormat → String → Option WrittenValue
  | .toml => Toml.read?
  | .json => Json.written?

def write : ConfigFormat → List (String × Json) → String
  | .toml => Toml.write
  | .json => fun members => (Json.object members).pretty

/-- What is asked of the values that stand for structures. -/
def rules : ConfigFormat → WrittenValue.StructureRules
  | .toml => ⟨true, true⟩
  | .json => .strict

/-- Whether a value stands for no data. -/
def isUnit : ConfigFormat → WrittenValue → Bool
  | .toml, .array [] | .toml, .object [] | .json, .null => true
  | _, _ => false

end ConfigFormat

end ObjectQuery
