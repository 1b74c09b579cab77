import ObjectQuery.Host.Basic
import ObjectQuery.Host.Path
import ObjectQuery.Keyed
/-!
# File trees

Files and directories held as data, each under the names that lead to it from the root. Names and
paths are bounded in length, and none holds a null character. Such a tree serves as a host on which
time stands still.
-/

namespace ObjectQuery

/-- What lies under a place in a tree. -/
inductive FileNode where
  | file (content : ByteArray)
  | directory

/-- Files and directories. The root is a directory without an entry of its own. -/
structure FileTree where
  nodes : Keyed (List String) FileNode
  /-- Where relative paths begin. -/
  workingDirectory : List String

namespace FileTree

def empty : FileTree := ⟨[], []⟩

/-! ## Finding -/

/-- The bounds of names and of whole paths, in bytes. -/
def longestName : Nat := 255
def longestPath : Nat := 4095

def isNameable (path : String) : Bool :=
  path != "" && decide (path.utf8ByteSize ≤ longestPath) && !path.toList.contains '\x00' &&
    (Path.steps path).all fun step => decide (step.utf8ByteSize ≤ longestName)

def node? (tree : FileTree) (place : List String) : Option FileNode :=
  if place.isEmpty then some .directory else tree.nodes.find? place

def isDirectory (tree : FileTree) (place : List String) : Bool :=
  match tree.node? place with
  | some .directory => true
  | _ => false

/-- The place that steps lead to; all but the last have to lead through directories. -/
def walk? (tree : FileTree) : List String → List String → Option (List String)
  | here, [] => some here
  | here, step :: rest =>
    if tree.isDirectory here then
      tree.walk? (if step = ".." then here.dropLast else here ++ [step]) rest
    else none

def origin (tree : FileTree) (path : String) : List String :=
  if Path.isAbsolute path then [] else tree.workingDirectory

/-- The place that a path names, whether there is anything or not. -/
def place? (tree : FileTree) (path : String) : Option (List String) :=
  if isNameable path then tree.walk? (tree.origin path) (Path.steps path) else none

def find? (tree : FileTree) (path : String) : Option FileNode :=
  match tree.place? path >>= tree.node? with
  | some (.file content) => if Path.namesDirectory path then none else some (.file content)
  | other => other

def childrenOf (tree : FileTree) (place : List String) : List String :=
  tree.nodes.keys.filterMap fun key =>
    if key.dropLast = place && !key.isEmpty then key.getLast? else none

/-! ## Changing -/

def put (tree : FileTree) (place : List String) (node : FileNode) : FileTree :=
  { tree with nodes := tree.nodes.put place node }

/-- Directories along the steps made where they are missing; none if a file is in the way. -/
def makeAlong? (tree : FileTree) : List String → List String → Option FileTree
  | here, [] => if tree.isDirectory here then some tree else none
  | here, step :: rest =>
    match tree.node? here with
    | some .directory =>
      let next := if step = ".." then here.dropLast else here ++ [step]
      match tree.node? next with
      | some .directory => tree.makeAlong? next rest
      | some (.file _) => none
      | none => (tree.put next .directory).makeAlong? next rest
    | _ => none

/-- The directories that a path names, made where they are missing. -/
def makePath? (tree : FileTree) (path : String) : Option FileTree :=
  if isNameable path then tree.makeAlong? (tree.origin path) (Path.steps path) else none

def withFile (tree : FileTree) (place : List String) (content : ByteArray) : FileTree :=
  ((tree.makeAlong? [] place.dropLast).getD tree).put place (.file content)

def withDirectory (tree : FileTree) (place : List String) : FileTree :=
  (tree.makeAlong? [] place).getD tree

/-- Write a file under a path: its directory has to be there, and no directory in its place. -/
def write? (tree : FileTree) (path : String) (content : ByteArray) : Option FileTree := do
  if Path.namesDirectory path then none
  let place ← tree.place? path
  if tree.isDirectory place || !tree.isDirectory place.dropLast then none
  return tree.put place (.file content)

/-! ## As a host -/

/-- What a request for a path that leads nowhere is answered. -/
def noSuchPath : String := "no such file or directory"

instance : Host (StateM FileTree) where
  kindOf path := do
    match (← get).find? path with
    | some (.file _) => return some .file
    | some .directory => return some .directory
    | none => return none
  readFile path := do
    match (← get).find? path with
    | some (.file content) => return .ok content
    | some .directory => return .error "is a directory"
    | none => return .error noSuchPath
  entries path := do
    let tree ← get
    match tree.place? path with
    | some place =>
      if tree.isDirectory place then return .ok (tree.childrenOf place)
      else return .error noSuchPath
    | none => return .error noSuchPath
  makeDirectories path := do
    let tree ← get
    match tree.makePath? path with
    | some after => set after; return .ok ()
    | none => return .error "a file is in the way, or the path is too long"
  createFile path := do
    match (← get).write? path ByteArray.empty with
    | some after => set after; return .ok ()
    | none => return .error noSuchPath
  appendText path text := do
    let tree ← get
    match tree.find? path with
    | some (.file content) =>
      match tree.write? path (content ++ text.toUTF8) with
      | some after => set after; return .ok ()
      | none => return .error noSuchPath
    | _ => return .error noSuchPath
  now := return 0.0
  timed compute := return (compute (), 0.0)

end FileTree

end ObjectQuery
