import ObjectQuery.Keyed
import ObjectQuery.Launch.LogFormat
import ObjectQuery.Number.Natural
/-!
# Options of the command line

An option has a long spelling, perhaps a letter for short, and a kind that tells what it expects.
What the options of a command line have said is kept by their long spellings.
-/

namespace ObjectQuery

/-! ## Refusals -/

/-- Why a command line leads to no command. -/
inductive UsageError where
  /-- A word that is no option here, or one word too many. -/
  | unknownArgument
  /-- An option without its value, or with one that is not among those it knows. -/
  | invalidValue
  /-- A value that is not the number it should be. -/
  | valueValidation
  /-- A value for an option that takes none. -/
  | tooManyValues
  /-- An option given twice, or beside one that excludes it. -/
  | argumentConflict
  /-- A command that does not exist. -/
  | invalidSubcommand
  /-- No command, after some options. -/
  | missingSubcommand
  /-- Nothing at all. -/
  | nothingGiven
  /-- The help is asked for. -/
  | displayHelp
  /-- The version is asked for. -/
  | displayVersion
deriving DecidableEq, Repr

namespace UsageError

def message : UsageError → String
  | .unknownArgument => "unexpected argument"
  | .invalidValue => "an option lacks its value or has one that it does not know"
  | .valueValidation => "a number is malformed or out of range"
  | .tooManyValues => "a value is given to an option that takes none"
  | .argumentConflict => "an option is given twice or beside one that excludes it"
  | .invalidSubcommand => "unrecognized command"
  | .missingSubcommand => "a command is required"
  | .nothingGiven => "a command is required"
  | .displayHelp => "help"
  | .displayVersion => "version"

end UsageError

/-! ## What an option expects -/

/-- What an option has said. -/
inductive Setting where
  | given
  | times (count : Nat)
  | text (content : String)
  | number (value : Nat)
  | logFormat (format : LogFormat)

/-- What an option expects. -/
inductive OptionKind where
  /-- No value; it may be given once. -/
  | switch
  /-- No value; it counts how often it is given. -/
  | counter
  /-- A path, which is not empty. -/
  | path
  | text
  | logFormat
  /-- A number below a bound; where it may have a sign, zero may be negative. -/
  | number (bound : Nat) (isSigned : Bool)
  | help
  | version

namespace OptionKind

def takesValue : OptionKind → Bool
  | .path | .text | .logFormat | .number .. => true
  | .switch | .counter | .help | .version => false

def readNumber? (bound : Nat) (isSigned : Bool) (text : String) : Option Nat :=
  match text.toList with
  | '-' :: digits =>
    if isSigned && !digits.isEmpty && digits.all (· == '0') then some 0 else none
  | digits => readNatural? bound digits

def read (kind : OptionKind) (text : String) : Except UsageError Setting :=
  match kind with
  | .path => if text = "" then .error .invalidValue else .ok (.text text)
  | .logFormat =>
    match LogFormat.all.find? fun format => format.name = text with
    | some format => .ok (.logFormat format)
    | none => .error .invalidValue
  | .number bound isSigned =>
    match readNumber? bound isSigned text with
    | some n => .ok (.number n)
    | none => .error .valueValidation
  | _ => .ok (.text text)

end OptionKind

/-- An option. -/
structure OptionSpec where
  /-- The long spelling, without its dashes. -/
  name : String
  /-- The short spelling, if there is one. -/
  letter : Option Char
  kind : OptionKind

/-! ## What has been said -/

/-- What the options have said, by their long spellings. -/
abbrev Settings := Keyed String Setting

namespace Settings

def includes (settings : Settings) (name : String) : Bool := Keyed.has settings name

def count (settings : Settings) (name : String) : Nat :=
  match Keyed.find? settings name with
  | some (.times n) => n
  | _ => 0

def text? (settings : Settings) (name : String) : Option String :=
  match Keyed.find? settings name with
  | some (.text content) => some content
  | _ => none

def number? (settings : Settings) (name : String) : Option Nat :=
  match Keyed.find? settings name with
  | some (.number n) => some n
  | _ => none

def logFormat? (settings : Settings) (name : String) : Option LogFormat :=
  match Keyed.find? settings name with
  | some (.logFormat format) => some format
  | _ => none

def mostTimes : Nat := 255

/-- The settings after an option with its value, if it has one. Only counters may be repeated. -/
def record (settings : Settings) (option : OptionSpec) (value : Option String) :
    Except UsageError Settings :=
  match option.kind with
  | .help => .error .displayHelp
  | .version => .error .displayVersion
  | .counter =>
    .ok (settings.put option.name (.times (min mostTimes (settings.count option.name + 1))))
  | .switch =>
    if settings.includes option.name then .error .argumentConflict
    else .ok (settings.put option.name .given)
  | kind =>
    match value with
    | none => .error .invalidValue
    | some text =>
      if settings.includes option.name then .error .argumentConflict
      else (kind.read text).map fun setting => settings.put option.name setting

end Settings

end ObjectQuery
