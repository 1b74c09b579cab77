import ObjectQuery.Query.Catalogue
/-!
# Outcomes of commands

What a command has printed, and why it failed if it did.
-/

namespace ObjectQuery

/-- Why a command failed. -/
inductive CommandError where
  | configNotFound (path : String)
  | configInvalid (reason : String)
  | unknownQuery (name : String)
  /-- The query does not compile. -/
  | plan (query reason : String)
  /-- The run could not be started, or it failed. -/
  | execution (reason : String)
deriving DecidableEq, Repr

def CommandError.message : CommandError → String
  | .configNotFound path => "Configuration file not found: " ++ path
  | .configInvalid reason => "Invalid configuration: " ++ reason
  | .unknownQuery name =>
    "Unknown query '" ++ name ++ "' (available: " ++
      String.intercalate ", " (Query.catalogue.map CatalogueEntry.name) ++ ")"
  | .plan query reason => "Failed to compile query '" ++ query ++ "': " ++ reason
  | .execution reason => "Query execution failed: " ++ reason

/-- What has become of a command. -/
structure Outcome where
  /-- The text that was printed. -/
  output : String
  error : Option CommandError

namespace Outcome

def printed (lines : List String) : Outcome := ⟨String.join (lines.map (· ++ "\n")), none⟩

end Outcome

/-! ## Layout -/

def bannerRule : String := String.join (List.replicate 62 "═")

def banner (title : String) : List String :=
  ["╔" ++ bannerRule ++ "╗", "║" ++ title ++ "║", "╚" ++ bannerRule ++ "╝", ""]

def branch (isLast : Bool) : String := if isLast then "└─" else "├─"

/-- Items, each with whether it is the last one. -/
def withLast {α : Type} : List α → List (α × Bool)
  | [] => []
  | [item] => [(item, true)]
  | item :: rest => (item, false) :: withLast rest

end ObjectQuery
