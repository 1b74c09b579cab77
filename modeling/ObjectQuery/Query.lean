import ObjectQuery.Predicate.Basic
/-!
# Queries

A query selects objects by a predicate and lists the properties to report about them.
-/

namespace ObjectQuery

/-- What to look for and what to report. -/
structure Query where
  name : String
  constraint : Predicate
  output : List PropertyRef

namespace Query

/-- The child narrowed down by its parent. A child that lists no output takes the parent's. -/
def merge (parent child : Query) : Query where
  name := child.name
  constraint := .and parent.constraint child.constraint
  output := if child.output.isEmpty then parent.output else child.output

end Query

end ObjectQuery
