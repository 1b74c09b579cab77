/-!
# Hosts

What a command asks of the machine that it runs on. The commands are written for any host, so that
they run on the real machine as well as on a tree of files held as data. A request that fails says
why in a text.
-/

namespace ObjectQuery

/-- What a path may name. -/
inductive NodeKind where
  | file
  | directory
deriving DecidableEq, Repr

/-- A machine with files and a clock. -/
class Host (m : Type → Type) where
  /-- What a path names, if it names anything. -/
  kindOf : (path : String) → m (Option NodeKind)
  /-- The bytes of a file. -/
  readFile : (path : String) → m (Except String ByteArray)
  /-- The names in a directory, in any order. -/
  entries : (path : String) → m (Except String (List String))
  /-- Make a directory and those it lies in, as far as they are missing. -/
  makeDirectories : (path : String) → m (Except String Unit)
  /-- Make an empty file, in place of one that is there. -/
  createFile : (path : String) → m (Except String Unit)
  /-- Add text at the end of a file. -/
  appendText : (path text : String) → m (Except String Unit)
  /-- The seconds since some moment that stays the same. -/
  now : m Float
  /-- Compute a value and tell how many seconds that has taken. -/
  timed : {α : Type} → (Unit → α) → m (α × Float)

namespace Host

variable {m : Type → Type} [Monad m] [Host m]

def readText (path : String) : m (Except String String) := do
  match ← Host.readFile path with
  | .error message => return .error message
  | .ok bytes =>
    match String.fromUTF8? bytes with
    | some text => return .ok text
    | none => return .error "the file is not valid UTF-8"

end Host

end ObjectQuery
