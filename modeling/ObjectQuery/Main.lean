import ObjectQuery.Command.Perform
import ObjectQuery.Command.Usage
/-!
# The program

The machine that the program runs on as a host, and the program itself: it reads its words, performs
the command on that host and prints the outcome.
-/

namespace ObjectQuery

/-- The result of an action, or the text of its failure. -/
def attempt {α : Type} (action : IO α) : IO (Except String α) := do
  try return .ok (← action)
  catch error => return .error (toString error)

def secondsOf (nanoseconds : Nat) : Float := nanoseconds.toFloat / 1000000000.0

/-- The value of a computation, at the moment at which the action runs. -/
@[noinline] def evaluate {α : Type} (compute : Unit → α) : IO α := return compute ()

instance : Host IO where
  kindOf path := do
    if path = "" then return none
    let place := (← IO.currentDir) / path
    if ← place.isDir then return some .directory
    if ← place.pathExists then return some .file
    return none
  readFile path := attempt (IO.FS.readBinFile path)
  entries path := attempt do
    let entries ← ((← IO.currentDir) / path).readDir
    return entries.toList.map fun entry => entry.fileName
  makeDirectories path := attempt (IO.FS.createDirAll path)
  createFile path := attempt (IO.FS.writeFile path "")
  appendText path text := attempt (IO.FS.withFile path .append fun handle => handle.putStr text)
  now := return secondsOf (← IO.monoNanosNow)
  timed compute := do
    let begun ← IO.monoNanosNow
    let value ← evaluate compute
    let ended ← IO.monoNanosNow
    return (value, secondsOf (ended - begun))

def printLines (stream : IO.FS.Stream) (lines : List String) : IO Unit :=
  lines.forM stream.putStrLn

/-- What the program does with its words, and the code that it ends with. -/
def runProgram (words : List String) : IO UInt32 := do
  match Invocation.ofWords words with
  | .error error =>
    let stream ← if error.isAnswer then IO.getStdout else IO.getStderr
    printLines stream error.lines
    return if error.isAnswer then 0 else 2
  | .ok invocation =>
    let outcome : Outcome ← invocation.command.perform
    IO.print outcome.output
    match outcome.error with
    | none => return 0
    | some error =>
      IO.eprintln ("Error: " ++ error.message)
      return 1

end ObjectQuery

def main (words : List String) : IO UInt32 := ObjectQuery.runProgram words
