import ObjectQuery.Keyed
import ObjectQuery.WrittenValue.Basic
/-!
# TOML tables

The tables of a document as they grow line by line. A table remembers how it came to be, since that
decides what may still be added: a header may name a table that so far was only passed through on the
way to another, but no table twice, and a dotted key may add to a table only if dotted keys have made
it.
-/

namespace ObjectQuery.Toml

/-- How a table came to be. -/
inductive TableOrigin where
  /-- Passed through by the header of a table below it. -/
  | passed
  | dotted
  | header
deriving DecidableEq, Repr

/-- What a key of a table stands for. -/
inductive Node where
  /-- A value; nothing can be added to it, also not to a table that is one. -/
  | value (content : WrittenValue)
  | table (origin : TableOrigin) (members : List (String × Node))
  /-- The tables under a header in double brackets, each with its members. -/
  | tables (elements : List (List (String × Node)))

abbrev Members := List (String × Node)

namespace Node

mutual

def written : Node → WrittenValue
  | .value content => content
  | .table _ members => .object (writtenMembers members)
  | .tables elements => .array (writtenElements elements)

def writtenMembers : List (String × Node) → List (String × WrittenValue)
  | [] => []
  | (name, node) :: rest => (name, written node) :: writtenMembers rest

def writtenElements : List (List (String × Node)) → List WrittenValue
  | [] => []
  | members :: rest => .object (writtenMembers members) :: writtenElements rest

end

end Node

namespace Members

def changeLast? (change : Members → Option Members) (elements : List Members) :
    Option (List Members) :=
  match elements.getLast? with
  | some last => (change last).map fun after => elements.dropLast ++ [after]
  | none => none

/-- Give a key under a dotted path a value. Tables on the way that headers have named are closed, and
the last one must have been made by dotted keys. -/
def assign? : (path : List String) → (key : String) → WrittenValue → Members → Option Members
  | [], key, content, members =>
    if Keyed.has members key then none else some (Keyed.put members key (.value content))
  | step :: rest, key, content, members =>
    match Keyed.find? members step with
    | none => (assign? rest key content []).map fun inner =>
        Keyed.put members step (.table .dotted inner)
    | some (.table origin inner) =>
      if origin = .header ∨ (rest = [] ∧ origin ≠ .dotted) then none
      else (assign? rest key content inner).map fun after =>
        Keyed.put members step (.table origin after)
    | some (.tables elements) =>
      if rest = [] then none
      else (changeLast? (assign? rest key content) elements).map fun after =>
        Keyed.put members step (.tables after)
    | some (.value _) => none

/-- Follow the path of a header, making the tables that are missing, and change the last one. -/
def within? (change : Members → Option Members) : (path : List String) → Members → Option Members
  | [], members => change members
  | step :: rest, members =>
    match Keyed.find? members step with
    | none => (within? change rest []).map fun inner =>
        Keyed.put members step (.table .passed inner)
    | some (.table origin inner) => (within? change rest inner).map fun after =>
        Keyed.put members step (.table origin after)
    | some (.tables elements) => (changeLast? (within? change rest) elements).map fun after =>
        Keyed.put members step (.tables after)
    | some (.value _) => none

/-- Name a table by a header. -/
def openTable? (key : String) (members : Members) : Option Members :=
  match Keyed.find? members key with
  | none => some (Keyed.put members key (.table .header []))
  | some (.table .passed inner) => some (Keyed.put members key (.table .header inner))
  | some _ => none

/-- Add a table under a header in double brackets. -/
def openElement? (key : String) (members : Members) : Option Members :=
  match Keyed.find? members key with
  | none => some (Keyed.put members key (.tables [[]]))
  | some (.tables elements) => some (Keyed.put members key (.tables (elements ++ [[]])))
  | some _ => none

end Members

end ObjectQuery.Toml
