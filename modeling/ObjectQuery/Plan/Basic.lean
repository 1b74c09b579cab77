import ObjectQuery.Error
import ObjectQuery.Predicate.Basic
/-!
# Plans

A plan is the list of stages that each frame of a query goes through: select the objects of a class,
compute properties, keep the objects that satisfy the predicate, compute what only the output needs,
and report.
-/

namespace ObjectQuery

/-- How a property is computed in a plan. -/
structure ProjectionSpec where
  property : Property
  className : String
  /-- Objects listed under this index are computed. -/
  index : Nat
  /-- The number of past frames that are kept for it. -/
  historyLength : Nat
  selfDependent : Bool

/-- What is reported about each object. -/
structure ReportSpec where
  typeName : String
  className : String
  index : Nat
  fields : List String

/-- One step that a frame goes through. -/
inductive PlanStage where
  | classFilter (className : String) (index : Nat)
  | project (spec : ProjectionSpec)
  | predicateFilter (predicate : Predicate) (className : String) (index : Nat)
  | report (spec : ReportSpec)

/-- A query made ready to run. -/
structure Plan where
  queryName : String
  type : ObjectType
  stages : List PlanStage

namespace PlanStage

def property? : PlanStage → Option Property
  | .project spec => some spec.property
  | _ => none

def describe : PlanStage → String
  | .classFilter className index => "ClassFilter class=" ++ className ++ " index=" ++ toString index
  | .project spec =>
    "Project " ++ spec.property.name ++
      (if 0 < spec.historyLength then " history=" ++ toString spec.historyLength else "") ++
      (if spec.selfDependent then " self-dependent" else "")
  | .predicateFilter predicate _ _ => "PredicateFilter " ++ predicate.describe
  | .report spec =>
    "OutputFormat " ++ spec.typeName ++ " fields=" ++
      Text.bracketed (spec.fields.map Text.quoted)

end PlanStage

namespace Plan

/-- The properties that are computed, in order. -/
def projected (plan : Plan) : List Property := plan.stages.filterMap PlanStage.property?

/-- The computed properties that depend on themselves. -/
def selfDependent (plan : Plan) : List String :=
  (plan.projected.filter Property.isSelfDependent).map Property.name

/-- The largest window with which a computed property reads a name. -/
def historyFor (plan : Plan) (name : String) : Nat :=
  (plan.projected.filterMap fun property => property.window? name).foldl max 0

def twoColumns (n : Nat) : String := if n < 10 then " " ++ toString n else toString n

def describe (plan : Plan) : String :=
  let heading := "Plan " ++ ticked plan.queryName ++ " over " ++ plan.type.name ++ " (class " ++
    ticked plan.type.className ++ "):\n"
  let line (entry : PlanStage × Nat) : String :=
    "  " ++ twoColumns (entry.2 + 1) ++ ". " ++ entry.1.describe ++ "\n"
  heading ++ String.join (plan.stages.zipIdx.map line)

end Plan

end ObjectQuery
