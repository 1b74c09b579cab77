import ObjectQuery.Command.Invocation
import ObjectQuery.Command.Outcome
import ObjectQuery.Json.Printer
import ObjectQuery.Plan.Compile
/-!
# What the program knows

The queries that can be run by name, each with its plan, and the detectors that can be configured.
-/

namespace ObjectQuery

def version : String := "0.1.0"

namespace CatalogueEntry

def previewClasses : List String := ["person"]

def preview? (entry : CatalogueEntry) : Option Plan :=
  (Plan.compile (entry.build previewClasses)).toOption

def toJson (entry : CatalogueEntry) : Json :=
  .object ([("name", .text entry.name), ("description", .text entry.description)] ++
    match entry.preview? with
    | none => []
    | some plan =>
      [("vobj", .text plan.type.name), ("class_name", .text plan.type.className)] ++
      (if plan.projected.isEmpty then []
      else [("properties", Json.array (plan.projected.map fun property => .text property.name))]) ++
      [("plan", .text plan.describe)])

/-- The properties that a plan computes, in order. -/
def projectedText (plan : Plan) : String :=
  if plan.projected.isEmpty then "(none)"
  else String.intercalate " -> " (plan.projected.map Property.name)

/-- A query with what it computes, as items of a tree. -/
def lines (entry : CatalogueEntry) (isLast : Bool) : List String :=
  let child := "   " ++ (if isLast then "   " else "│  ") ++ "  "
  ("   " ++ branch isLast ++ " " ++ entry.name ++ ": " ++ entry.description) ::
    match entry.preview? with
    | none => [child ++ "└─ (does not compile)"]
    | some plan =>
      [child ++ "├─ VObj: " ++ plan.type.name ++ " (class '" ++ plan.type.className ++ "')",
        child ++ "└─ Projected: " ++ projectedText plan]

end CatalogueEntry

namespace InfoOptions

/-- Whether queries are told; without a choice everything is. -/
def showsQueries (options : InfoOptions) : Bool := options.queries || !options.detectors

def showsDetectors (options : InfoOptions) : Bool := options.detectors || !options.queries

/-- What is known as JSON; what has nothing to list is left out. -/
def toJson (options : InfoOptions) (detectors : List String) : Json :=
  .object ([("version", .text version)] ++
    (if options.showsQueries then
      [("queries", Json.array (Query.catalogue.map CatalogueEntry.toJson))]
    else []) ++
    (if options.showsDetectors && !detectors.isEmpty then
      [("detectors", Json.array (detectors.map .text))]
    else []))

/-- The title with the version, filled up to the width of a banner. -/
def title : String :=
  "                    vidquery " ++ version ++
    String.ofList (List.replicate (33 - version.length) ' ')

def lines (options : InfoOptions) (detectors : List String) : List String :=
  banner title ++
    (if options.showsQueries then
      ("🔎 Queries (" ++ toString Query.catalogue.length ++ ")") ::
        (withLast Query.catalogue).flatMap fun (entry, isLast) => entry.lines isLast
    else []) ++
    (if options.showsDetectors && !detectors.isEmpty then
      ["", "🧩 Detectors (" ++ toString detectors.length ++ ")"] ++
        (withLast detectors).map fun (name, isLast) => "   " ++ branch isLast ++ " " ++ name
    else []) ++
    [""]

/-- Tell what is known, the detectors that can be configured among it. -/
def perform (options : InfoOptions) (detectors : List String) : Outcome :=
  .printed (if options.json then [(options.toJson detectors).pretty] else options.lines detectors)

end InfoOptions

end ObjectQuery
