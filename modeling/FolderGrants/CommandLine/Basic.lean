import FolderGrants.Http.Address
import FolderGrants.Text.Similarity

/-!
# Commands and flags

A command takes flags.  A flag is a switch or takes a value; a value comes
from the command line, else from the environment, else from the command
itself.  What is wrong with a command line is told by a message, by a hint
where the writer seems to have meant something else, and by the usage of the
command where that helps.
-/

namespace FolderGrants.CommandLine

/-- A word that a flag accepts, and what it means. -/
structure Choice where
  word : String
  help : String
  deriving DecidableEq, Repr

/-- What a flag takes. -/
inductive Form where
  /-- Nothing: the flag is there or not. -/
  | switch
  | address
  /-- A path, which is not empty. -/
  | path
  | choice (among : List Choice)
  /-- Texts, divided by commas; the flag may be given many times. -/
  | texts
  deriving DecidableEq, Repr

/-- A flag. -/
structure Flag where
  name : String
  short : Option Char := none
  /-- What its value is called. -/
  valueName : String := ""
  form : Form := .switch
  /-- The variable that stands in for the flag. -/
  fallback : Option String := none
  /-- The value if there is no other. -/
  standard : Option String := none
  help : List String
  /-- The help where it is kept short, if it differs. -/
  shortHelp : Option String := none
  deriving DecidableEq, Repr

/-- A command. -/
structure Command where
  /-- How it is called, the commands that it belongs to first. -/
  path : String
  about : List String
  flags : List Flag
  /-- The flags that belong together. -/
  groups : List (List Flag) := []
  version : Option String := none
  /-- The commands that belong to it, with what they do. -/
  parts : List (String × String) := []
  /-- The words that it takes besides its flags, and what they are for. -/
  operands : Option (String × String) := none
  /-- Whether it has a flag that shows its help. -/
  hasHelp : Bool := true
  deriving Repr

/-- The values of variables. -/
abbrev Environment := String → Option String

/-- A value that a flag accepted. -/
inductive Value where
  | text (s : String)
  | address (a : SocketAddress)
  deriving DecidableEq, Repr

namespace Flag

/-- Shows what a command is called. -/
def helpFlag : Flag where
  name := "help"
  short := some 'h'
  help := ["Print help (see a summary with '-h')"]
  shortHelp := some "Print help (see more with '--help')"

/-- Shows the version. -/
def versionFlag : Flag where
  name := "version"
  short := some 'V'
  help := ["Print version"]

/-- A flag as it is written, with its value. -/
def written (f : Flag) : String :=
  if f.form = .switch then "--" ++ f.name else "--" ++ f.name ++ " <" ++ f.valueName ++ ">"

/-- The words among which a value is to be chosen. -/
def choices (f : Flag) : List Choice :=
  match f.form with
  | .choice among => among
  | _ => []

/-- Whether the flag may be given many times. -/
def repeats (f : Flag) : Bool := f.form = .texts

end Flag

namespace Command

/-- All flags of a command, with those that every command has. -/
def allFlags (c : Command) : List Flag :=
  c.flags ++ (if c.hasHelp then [Flag.helpFlag] else []) ++
    (c.version.toList.map fun _ => Flag.versionFlag)

/-- The flag of that name. -/
def flag? (c : Command) (name : String) : Option Flag :=
  c.allFlags.find? fun f => f.name == name

/-- How the words besides the flags are written. -/
def writtenOperands (name : String) : String := "[" ++ name ++ "]..."

/-- How the command is called. -/
def usage (c : Command) : String :=
  " ".intercalate
    (["Usage:", c.path] ++ (if c.allFlags.isEmpty then [] else ["[OPTIONS]"]) ++
      (c.operands.toList.map fun o => writtenOperands o.1) ++
      (if c.parts.isEmpty then [] else ["[COMMAND]"]))

/-- What the command that shows help does. -/
def helpAbout : String := "Print this message or the help of the given subcommand(s)"

/-- The command that shows the help of a command and of its parts. -/
def helper (c : Command) : Command where
  path := c.path ++ " help"
  about := [helpAbout]
  flags := []
  operands := some ("COMMAND", "Print help for the subcommand(s)")
  hasHelp := false

/-- How the command is called with the given flags. -/
def usageWith (c : Command) (flags : List Flag) : String :=
  if flags.isEmpty then c.usage
  else "Usage: " ++ " ".intercalate (c.path :: flags.map Flag.written)

/-- The groups to which the given flags belong, each once. -/
def groupsOf (c : Command) (flags : List Flag) : List (List Flag) :=
  (flags.filterMap fun f => c.groups.find? (·.contains f)).eraseDups

/-- How a group of flags is written: as a choice among them. -/
def writtenGroup (flags : List Flag) : String :=
  "<" ++ "|".intercalate (flags.map Flag.written) ++ ">"

/-- How the command is called with `f` besides the given flags, which stand
for their groups. -/
def usageBeside (c : Command) (flags : List Flag) (f : Flag) : String :=
  let groups := c.groupsOf flags
  let alone := ((flags ++ [f]).filter fun g => !groups.any (·.contains g)).eraseDups
  "Usage: " ++ " ".intercalate
    (c.path :: (alone.map Flag.written ++ groups.map writtenGroup))

end Command

/-- What is wrong with a command line. -/
inductive Misuse where
  /-- A flag has no value, or an empty one. -/
  | missingValue (f : Flag)
  /-- A value is none of those to choose from. -/
  | badChoice (f : Flag) (value : String)
  /-- A value does not have the form that the flag asks for. -/
  | badValue (f : Flag) (value why : String)
  /-- A switch has a value. -/
  | superfluousValue (c : Command) (f : Flag) (value : String) (used : List Flag)
  /-- A flag is given again. -/
  | repeated (c : Command) (f : Flag)
  /-- A word is no flag; `used` are the flags given before. -/
  | unknownFlag (c : Command) (word : String) (used : List Flag)
  /-- A word has no place. -/
  | unexpected (c : Command) (word : String)
  /-- A word that names a command comes too late. -/
  | lateCommand (c : Command) (word : String)
  /-- A word is no command; `near` are those that it resembles. -/
  | unknownCommand (c : Command) (word : String) (near : List String)

namespace Misuse

/-- The sorts of misuse. -/
def sort : Misuse → String
  | missingValue _ | badChoice .. => "InvalidValue"
  | badValue .. => "ValueValidation"
  | superfluousValue .. => "TooManyValues"
  | repeated .. => "ArgumentConflict"
  | unknownFlag .. | unexpected .. | lateCommand .. => "UnknownArgument"
  | unknownCommand .. => "InvalidSubcommand"

/-- A word in quotes. -/
def quote (s : String) : String := "'" ++ s ++ "'"

/-- What is wrong, in one line. -/
def headline : Misuse → String
  | missingValue f =>
    "error: a value is required for " ++ quote f.written ++ " but none was supplied"
  | badChoice f value => "error: invalid value " ++ quote value ++ " for " ++ quote f.written
  | badValue f value why =>
    "error: invalid value " ++ quote value ++ " for " ++ quote f.written ++ ": " ++ why
  | superfluousValue _ f value _ =>
    "error: unexpected value " ++ quote value ++ " for " ++ quote f.written ++
      " found; no more were expected"
  | repeated _ f => "error: the argument " ++ quote f.written ++ " cannot be used multiple times"
  | unknownFlag _ word _ => "error: unexpected argument " ++ quote word ++ " found"
  | unexpected _ word => "error: unexpected argument " ++ quote word ++ " found"
  | lateCommand _ word => "error: unexpected argument " ++ quote word ++ " found"
  | unknownCommand _ word _ => "error: unrecognized subcommand " ++ quote word

/-- The words to choose from. -/
def possible (f : Flag) : List String :=
  if f.choices.isEmpty then []
  else ["  [possible values: " ++ ", ".intercalate (f.choices.map (·.word)) ++ "]"]

/-- The flag that a word resembles. -/
def meant? (c : Command) (word : String) : Option Flag :=
  (Text.closest? ((word.drop 2).toString) (c.allFlags.map (·.name))).bind c.flag?

/-- A hint at a word that was perhaps meant. -/
def hint (what word : String) : List String :=
  ["", "  tip: a similar " ++ what ++ " exists: " ++ quote word]

/-- A hint at the words that were perhaps meant. -/
def hints (what : String) : List String → List String
  | [] => []
  | [word] => hint what word
  | words =>
    ["", "  tip: some similar " ++ what ++ "s exist: " ++ ", ".intercalate (words.map quote)]

/-- What follows the headline. -/
def details : Misuse → List String
  | missingValue f => possible f
  | badChoice f value =>
    possible f ++ (Text.closest? value (f.choices.map (·.word))).elim [] (hint "value")
  | badValue .. => []
  | superfluousValue c f _ used => ["", c.usageBeside used f]
  | repeated c _ => ["", c.usage]
  | unknownFlag c word used =>
    match meant? c word with
    | some f =>
      hint "argument" ("--" ++ f.name) ++
        ["", c.usageWith (if used.contains f then used else used ++ [f])]
    | none => ["", c.usageWith used]
  | unexpected c _ => ["", c.usage]
  | lateCommand c word =>
    ["", "  tip: subcommand " ++ quote word ++ " exists; to use it, remove the '--' before it", "",
      c.usage]
  | unknownCommand c _ near => hints "subcommand" near ++ ["", c.usage]

/-- Whether the help that could be asked for is pointed out. -/
def pointsToHelp : Misuse → Bool
  | unknownCommand c .. => c.hasHelp
  | _ => true

/-- All lines that tell of a misuse. -/
def lines (m : Misuse) : List String :=
  [m.headline] ++ m.details ++
    (if m.pointsToHelp then ["", "For more information, try '--help'."] else [])

end Misuse

/-- Why a command is not carried out. -/
inductive Refused where
  | misuse (m : Misuse)
  /-- The help of a command was asked for, in full or not. -/
  | help (c : Command) (full : Bool)
  /-- The version was asked for. -/
  | version (text : String)

namespace Refused

/-- The sorts of refusals. -/
def sort : Refused → String
  | misuse m => m.sort
  | help .. => "DisplayHelp"
  | version _ => "DisplayVersion"

end Refused

end FolderGrants.CommandLine
