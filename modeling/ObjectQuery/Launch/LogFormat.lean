/-!
# Log formats

How the messages of a running program are written.
-/

namespace ObjectQuery

/-- A way to write log messages. -/
inductive LogFormat where
  | json
  | pretty
  | compact
deriving DecidableEq, Repr

namespace LogFormat

def all : List LogFormat := [.json, .pretty, .compact]

def name : LogFormat → String
  | .json => "json"
  | .pretty => "pretty"
  | .compact => "compact"

/-- The format of a name, in capital or small letters; else a message with the name in small letters. -/
def ofText (text : String) : Except String LogFormat :=
  let lowered := String.ofList (text.toList.map Char.toLower)
  match all.find? fun format => format.name = lowered with
  | some format => .ok format
  | none => .error ("unknown log format '" ++ lowered ++ "'")

end LogFormat

end ObjectQuery
