import ObjectQuery.Toml.Scalar
import ObjectQuery.Toml.Table
import ObjectQuery.Toml.Text
/-!
# Reading TOML

A document is a list of lines: headers, and keys with their values, which belong to the table of the
last header. It is read as the object of its root table. Arrays and tables between braces nest at most
eighty deep, and a key has at most eighty parts.
-/

namespace ObjectQuery.Toml

/-! ## Blanks and comments -/

/-- What follows blanks on the same line. -/
def skipSpaces (source : List Char) : List Char := source.dropWhile fun c => c == ' ' || c == '\t'

/-- What follows the rest of a comment, its line break included. -/
def afterComment? : List Char → Option (List Char)
  | [] => some []
  | '\n' :: rest => some rest
  | '\r' :: '\n' :: rest => some rest
  | c :: rest => if isPlain c then afterComment? rest else none

/-- What follows the end of a line, after blanks and a comment. -/
def afterLine? (source : List Char) : Option (List Char) :=
  match skipSpaces source with
  | [] => some []
  | '\n' :: rest => some rest
  | '\r' :: '\n' :: rest => some rest
  | '#' :: rest => afterComment? rest
  | _ => none

/-- What follows blanks, line breaks and comments. -/
def skipGaps? : (fuel : Nat) → List Char → Option (List Char)
  | 0, source => some source
  | fuel + 1, source =>
    match skipBreaks source with
    | '#' :: rest => afterComment? rest >>= skipGaps? fuel
    | rest => some rest

/-! ## Keys -/

/-- Whether a character may stand in a key without quotes. -/
def isKeyChar (c : Char) : Bool := c.isAlphanum || c == '_' || c == '-'

def keyPart? (source : List Char) : Option (String × List Char) :=
  match source with
  | '"' :: rest => (basic? rest).map fun (content, rest) => (String.ofList content, rest)
  | '\'' :: rest => (literal? rest).map fun (content, rest) => (String.ofList content, rest)
  | _ =>
    let (part, rest) := source.span isKeyChar
    if part.isEmpty then none else some (String.ofList part, rest)

/-- How deep arrays and tables between braces may nest, and how many parts a key may have. -/
def nestingLimit : Nat := 80

/-- The parts of a key, divided by points, and what follows it; none if the limit is reached. -/
def keyParts? : (limit : Nat) → List Char → Option (List String × List Char)
  | 0, _ => none
  | limit + 1, source => do
    let (part, rest) ← keyPart? (skipSpaces source)
    match skipSpaces rest with
    | '.' :: rest => do
      let (parts, rest) ← keyParts? limit rest
      some (part :: parts, rest)
    | rest => some ([part], rest)

def key? (source : List Char) : Option (List String × List Char) := keyParts? nestingLimit source

/-- The parts of a key before the last one, and the last one. -/
def splitKey? (parts : List String) : Option (List String × String) :=
  parts.getLast?.map fun last => (parts.dropLast, last)

/-! ## Values -/

mutual

/-- A value at the head of the text. Each step uses a character, so the length of the text is fuel
enough. -/
def value? : (fuel depth : Nat) → List Char → Option (WrittenValue × List Char)
  | 0, _, _ => none
  | fuel + 1, depth, source =>
    match source with
    | '"' :: _ | '\'' :: _ =>
      (quoted? source).map fun (content, rest) => (.text (String.ofList content), rest)
    | '[' :: rest =>
      if depth = 0 then none
      else (items? fuel (depth - 1) rest).map fun (items, rest) => (.array items, rest)
    | '\x7b' :: rest =>
      if depth = 0 then none
      else (pairs? fuel (depth - 1) [] rest).map fun (members, rest) =>
        (.object (Node.writtenMembers members), rest)
    | _ =>
      let (word, rest) := takeWord source
      (scalar? word).map fun content => (content, rest)

/-- Items up to the closing bracket; a comma may stand after the last one. -/
def items? : (fuel depth : Nat) → List Char → Option (List WrittenValue × List Char)
  | 0, _, _ => none
  | fuel + 1, depth, source => do
    match ← skipGaps? fuel source with
    | ']' :: rest => some ([], rest)
    | source =>
      let (item, rest) ← value? fuel depth source
      match ← skipGaps? fuel rest with
      | ']' :: rest => some ([item], rest)
      | ',' :: rest => do
        let (items, rest) ← items? fuel depth rest
        some (item :: items, rest)
      | _ => none

/-- Keys with their values up to the closing brace; a comma may stand after the last one. -/
def pairs? : (fuel depth : Nat) → Members → List Char → Option (Members × List Char)
  | 0, _, _, _ => none
  | fuel + 1, depth, members, source => do
    match ← skipGaps? fuel source with
    | '\x7d' :: rest => some (members, rest)
    | source =>
      let (parts, rest) ← key? source
      match ← skipGaps? fuel rest with
      | '=' :: rest => do
        let (content, rest) ← value? fuel depth (← skipGaps? fuel rest)
        let (path, last) ← splitKey? parts
        let members ← members.assign? path last content
        match ← skipGaps? fuel rest with
        | '\x7d' :: rest => some (members, rest)
        | ',' :: rest => pairs? fuel depth members rest
        | _ => none
      | _ => none

end

/-! ## Documents -/

/-- The tables of a document, and the path of the last header. -/
structure Document where
  root : Members
  path : List String

namespace Document

def empty : Document := ⟨[], []⟩

def withHeader? (document : Document) (parts : List String)
    (change : String → Members → Option Members) : Option Document := do
  let (path, last) ← splitKey? parts
  let root ← document.root.within? (change last) path
  return ⟨root, parts⟩

def withValue? (document : Document) (parts : List String) (content : WrittenValue) :
    Option Document := do
  let (path, last) ← splitKey? parts
  let root ← document.root.within? (Members.assign? path last content) document.path
  return { document with root := root }

/-- One line that is not empty, and what follows it. -/
def line? (fuel : Nat) (document : Document) (source : List Char) :
    Option (Document × List Char) := do
  match source with
  | '[' :: '[' :: rest =>
    let (parts, rest) ← key? rest
    match rest with
    | ']' :: ']' :: rest =>
      let document ← document.withHeader? parts Members.openElement?
      let rest ← afterLine? rest
      return (document, rest)
    | _ => none
  | '[' :: rest =>
    let (parts, rest) ← key? rest
    match rest with
    | ']' :: rest =>
      let document ← document.withHeader? parts Members.openTable?
      let rest ← afterLine? rest
      return (document, rest)
    | _ => none
  | _ =>
    let (parts, rest) ← key? source
    match rest with
    | '=' :: rest =>
      let (content, rest) ← value? fuel nestingLimit (skipSpaces rest)
      let document ← document.withValue? parts content
      let rest ← afterLine? rest
      return (document, rest)
    | _ => none

def lines? : (fuel : Nat) → Document → List Char → Option Document
  | 0, _, _ => none
  | fuel + 1, document, source =>
    match skipBreaks source with
    | [] => some document
    | '#' :: rest => afterComment? rest >>= lines? fuel document
    | source => do
      let (document, rest) ← document.line? fuel source
      lines? fuel document rest

end Document

/-- The text without a byte order mark at its head. -/
def dropMark (source : List Char) : List Char :=
  match source with
  | '\ufeff' :: rest => rest
  | _ => source

def read? (source : String) : Option WrittenValue :=
  let chars := dropMark source.toList
  (Document.lines? (2 * chars.length + 2) .empty chars).map fun document =>
    .object (Node.writtenMembers document.root)

end ObjectQuery.Toml
