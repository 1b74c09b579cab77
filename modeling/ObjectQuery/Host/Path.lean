/-!
# Paths

A path is text whose parts are divided by slashes. Empty parts and single dots lead nowhere, two dots
lead one directory up.
-/

namespace ObjectQuery.Path

/-- The parts of a path that lead somewhere. -/
def steps (path : String) : List String :=
  (path.splitOn "/").filter fun part => part != "" && part != "."

def isAbsolute (path : String) : Bool := path.toList.head? == some '/'

/-- Whether a path can only name a directory. -/
def namesDirectory (path : String) : Bool :=
  match (path.splitOn "/").getLast? with
  | some last => last == "" || last == "."
  | none => true

def fileName? (path : String) : Option String :=
  match (steps path).getLast? with
  | some ".." => none
  | last => last

/-- The part of a file name after its last dot. A name that has no other dot than the first character
has no extension. -/
def extensionOfName? (name : String) : Option String :=
  match name.toList.reverse.span (· != '.') with
  | (_, []) => none
  | (_, ['.']) => none
  | (ending, _) => some (String.ofList ending.reverse)

def extension? (path : String) : Option String := fileName? path >>= extensionOfName?

/-- A path without its last part, none if nothing is left. -/
def parent? (path : String) : Option String :=
  match (steps path).dropLast with
  | [] => none
  | parts => some ((if isAbsolute path then "/" else "") ++ String.intercalate "/" parts)

def join (directory name : String) : String :=
  if directory = "" || directory.toList.getLast? == some '/' then directory ++ name
  else directory ++ "/" ++ name

/-- Text in lower case as far as it is made of the letters of the Latin alphabet; an extension with
other letters is none of the known ones. -/
def lowered (text : String) : String := String.ofList (text.toList.map Char.toLower)

end ObjectQuery.Path
