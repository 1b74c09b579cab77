import ObjectQuery.Command.Invocation
/-!
# Reading the command line

The words of a command line are read from the left, first those that stand before the command and
then those of the command. An option that expects a value waits for the next word; what waits is
recorded when something else is met, so that a later word that means nothing at all is refused first.
After a double dash every word is an operand.
-/

namespace ObjectQuery

/-! ## Levels -/

/-- The options that may be given in one part of the command line, and the operand that it expects. -/
structure Level where
  options : List OptionSpec
  operand : Option OptionSpec

namespace Level

def sharedOptions : List OptionSpec :=
  [⟨"verbose", some 'v', .counter⟩, ⟨"quiet", some 'q', .switch⟩, ⟨"log-format", none, .logFormat⟩,
    ⟨"help", some 'h', .help⟩]

def program : Level := ⟨sharedOptions ++ [⟨"version", some 'V', .version⟩], none⟩

def run : Level where
  options := sharedOptions ++ [
    ⟨"config", some 'c', .path⟩, ⟨"query", none, .text⟩, ⟨"output", some 'o', .path⟩,
    ⟨"all-frames", none, .switch⟩, ⟨"max-frames", none, .number UInt64.size false⟩,
    ⟨"metrics-port", none, .number UInt16.size true⟩, ⟨"dry-run", none, .switch⟩]
  operand := none

def validate : Level :=
  ⟨sharedOptions ++ [⟨"json", none, .switch⟩], some ⟨"config", none, .path⟩⟩

def info : Level where
  options := sharedOptions ++ [
    ⟨"json", none, .switch⟩, ⟨"queries", none, .switch⟩, ⟨"detectors", none, .switch⟩]
  operand := none

def named? (level : Level) (name : String) : Option OptionSpec :=
  level.options.find? fun option => option.name = name

def lettered? (level : Level) (letter : Char) : Option OptionSpec :=
  level.options.find? fun option => option.letter = some letter

end Level

/-- The name of a command. -/
inductive CommandName where
  | run
  | validate
  | info
deriving DecidableEq, Repr

namespace CommandName

def ofText? : String → Option CommandName
  | "run" => some .run
  | "validate" => some .validate
  | "info" => some .info
  | _ => none

/-- The part of the command line that follows a command. -/
def level : CommandName → Level
  | .run => .run
  | .validate => .validate
  | .info => .info

end CommandName

/-- The command that asks for help. -/
def helpWord : String := "help"

def isCommandWord (word : String) : Bool := word = helpWord || (CommandName.ofText? word).isSome

/-! ## Words -/

/-- The forms of a word. -/
inductive WordForm where
  /-- A double dash alone. -/
  | separator
  /-- What follows a double dash. -/
  | long (spelling : List Char)
  /-- What follows a single dash. -/
  | short (letters : List Char)
  | plain

/-- The form of a word. A single dash alone is plain. -/
def WordForm.ofText (word : String) : WordForm :=
  match word.toList with
  | ['-', '-'] => .separator
  | '-' :: '-' :: spelling => .long spelling
  | '-' :: letter :: letters => .short (letter :: letters)
  | _ => .plain

/-! ## One level -/

/-- What has been read of one part of the command line. -/
structure LineReading where
  settings : Settings
  /-- An option that is not recorded yet, with its value if that has been read. -/
  pending : Option (OptionSpec × Option String)
  /-- Whether the operand has been read. -/
  hasOperand : Bool

namespace LineReading

def start : LineReading := ⟨[], none, false⟩

/-- Whether the next word is the value of an option. -/
def awaitsValue (reading : LineReading) : Bool :=
  match reading.pending with
  | some (_, none) => true
  | _ => false

def settle (reading : LineReading) : Except UsageError LineReading :=
  match reading.pending with
  | none => .ok reading
  | some (option, value) =>
    (reading.settings.record option value).map fun settings =>
      { reading with settings := settings, pending := none }

/-- An option is met, perhaps with its value. One that still lacks its value is pending. -/
def meet (reading : LineReading) (option : OptionSpec) (value : Option String) :
    Except UsageError LineReading := do
  let settled ← reading.settle
  if option.kind.takesValue && value.isNone then
    return { settled with pending := some (option, none) }
  else
    let settings ← settled.settings.record option value
    return { settled with settings := settings }

/-- A long spelling, perhaps with a value after an equals sign. -/
def meetLong (level : Level) (reading : LineReading) (spelling : List Char) :
    Except UsageError LineReading :=
  let name := String.ofList (spelling.takeWhile (· != '='))
  let value := match spelling.dropWhile (· != '=') with
    | _ :: text => some (String.ofList text)
    | [] => none
  match level.named? name with
  | none => .error .unknownArgument
  | some option =>
    if value.isSome && !option.kind.takesValue then .error .tooManyValues
    else reading.meet option value

/-- Letters in a row. What follows the letter of an option with a value is the value, without an
equals sign that leads it. -/
def meetShort (level : Level) : LineReading → List Char → Except UsageError LineReading
  | reading, [] => .ok reading
  | reading, letter :: rest =>
    match level.lettered? letter with
    | none => .error .unknownArgument
    | some option =>
      if option.kind.takesValue then
        reading.meet option (match rest with
          | [] => none
          | '=' :: value => some (String.ofList value)
          | value => some (String.ofList value))
      else do
        let reading ← reading.meet option none
        meetShort level reading rest

/-- A word that is no option. -/
def meetOperand (level : Level) (reading : LineReading) (word : String) :
    Except UsageError LineReading :=
  match level.operand with
  | none => .error .unknownArgument
  | some option =>
    if reading.hasOperand then .error .unknownArgument
    else reading.settle.map fun settled =>
      { settled with pending := some (option, some word), hasOperand := true }

def meetWord (level : Level) (reading : LineReading) (word : String) :
    Except UsageError LineReading :=
  match WordForm.ofText word with
  | .long spelling => reading.meetLong level spelling
  | .short letters => reading.meetShort level letters
  | .separator | .plain =>
    match reading.pending with
    | some (option, none) => .ok { reading with pending := some (option, some word) }
    | _ => reading.meetOperand level word

/-- The settings at the end of a part. Quiet and verbose exclude each other. -/
def finish (reading : LineReading) : Except UsageError Settings := do
  let settled ← reading.settle
  if settled.settings.includes "quiet" && settled.settings.includes "verbose" then
    throw .argumentConflict
  else return settled.settings

/-- The words of a part up to the end of the command line. -/
def readAll (level : Level) : LineReading → List String → Except UsageError Settings
  | reading, [] => reading.finish
  | reading, word :: rest =>
    match WordForm.ofText word with
    | .separator => do
      let reading ← rest.foldlM (meetOperand level) reading
      reading.finish
    | _ => do
      let reading ← reading.meetWord level word
      readAll level reading rest

end LineReading

/-! ## The whole line -/

/-- The settings before a command and after it. -/
structure CommandLine where
  name : CommandName
  before : Settings
  after : Settings

namespace CommandLine

/-- What the command for help answers to the words after it: they have to name at most one command. -/
def helpAnswer : List String → UsageError
  | [] => .displayHelp
  | [word] => if isCommandWord word then .displayHelp else .invalidSubcommand
  | _ => .invalidSubcommand

/-- What is wrong when the line ends without a command. -/
def withoutCommand (reading : LineReading) : UsageError :=
  match reading.settle with
  | .error error => error
  | .ok settled => if settled.settings.isEmpty then .nothingGiven else .missingSubcommand

/-- What is wrong when operands stand where a command should. -/
def afterSeparator (reading : LineReading) : List String → UsageError
  | [] => withoutCommand reading
  | word :: _ => if isCommandWord word then .unknownArgument else .invalidSubcommand

/-- The words from the left. What is pending when a command is met is recorded after the words of the
command have been read. -/
def read : LineReading → List String → Except UsageError CommandLine
  | reading, [] => .error (withoutCommand reading)
  | reading, word :: rest =>
    if !reading.awaitsValue && isCommandWord word then
      match CommandName.ofText? word with
      | none => .error (helpAnswer rest)
      | some name => do
        let after ← LineReading.start.readAll name.level rest
        let before ← reading.finish
        return ⟨name, before, after⟩
    else
      match WordForm.ofText word with
      | .separator => .error (afterSeparator reading rest)
      | .plain =>
        if reading.awaitsValue then
          match reading.meetWord .program word with
          | .ok reading => read reading rest
          | .error error => .error error
        else .error .invalidSubcommand
      | _ =>
        match reading.meetWord .program word with
        | .ok reading => read reading rest
        | .error error => .error error

/-- The settings of a command line, those after the command taking the place of those before it. -/
def settingsFor (line : CommandLine) (name : String) : Settings :=
  if line.after.includes name then line.after else line.before

def command (line : CommandLine) : Command :=
  let settings := line.after
  match line.name with
  | .run =>
    let base : RunOptions := {}
    .run {
      config := (settings.text? "config").getD base.config
      query := (settings.text? "query").getD base.query
      output := settings.text? "output"
      allFrames := settings.includes "all-frames"
      maxFrames := (settings.number? "max-frames").getD base.maxFrames
      metricsPort := (settings.number? "metrics-port").getD base.metricsPort
      dryRun := settings.includes "dry-run" }
  | .validate =>
    let base : ValidateOptions := {}
    .validate ⟨(settings.text? "config").getD base.config, settings.includes "json"⟩
  | .info =>
    .info ⟨settings.includes "json", settings.includes "queries", settings.includes "detectors"⟩

end CommandLine

def Invocation.ofWords (words : List String) : Except UsageError Invocation := do
  let line ← CommandLine.read .start words
  return {
    verbosity := (line.settingsFor "verbose").count "verbose"
    isQuiet := (line.settingsFor "quiet").includes "quiet"
    logFormat := ((line.settingsFor "log-format").logFormat? "log-format").getD .pretty
    command := line.command }

end ObjectQuery
