import FolderGrants.CommandLine.Basic

/-!
# Reading a command line

A command line is read word by word.  A flag with a value takes the word after
it or, after an equals sign, the rest of its own word; its value is looked at
when the next flag comes or the line ends.  After `--` no word is a flag.  A
word that names a part of the command hands the rest of the line to it.

At the end the environment gives the flags that the line did not, and the
command itself gives the others their values.  A part has the flags of its
command again; the value that counts is the one from the stronger source, and
the part's where both are equally strong.
-/

namespace FolderGrants.CommandLine

/-- Where a value comes from. -/
inductive Source where
  | standard
  | environment
  | commandLine
  deriving DecidableEq, Repr

/-- How much a source counts. -/
def Source.strength : Source → Nat
  | standard => 0
  | environment => 1
  | commandLine => 2

/-- A flag and its values. -/
structure Found where
  flag : Flag
  source : Source
  values : List Value
  deriving Repr

/-- What has been read of a line: the flags with their values, and a flag
whose value is still to be looked at, with the word for it if there was one. -/
structure Progress where
  found : List Found := []
  pending : Option (Flag × Option String) := none

namespace Flag

/-- Reads a value. -/
def readValue (f : Flag) (s : String) : Except Misuse Value :=
  match f.form with
  | .address =>
    match SocketAddress.parse? s with
    | some a => .ok (.address a)
    | none => .error (.badValue f s "invalid socket address syntax")
  | .path => if s.isEmpty then .error (.missingValue f) else .ok (.text s)
  | .choice among =>
    if among.any (·.word == s) then .ok (.text s)
    else if s.isEmpty then .error (.missingValue f)
    else .error (.badChoice f s)
  | .texts | .switch => .ok (.text s)

/-- The values in a word. -/
def readWord (f : Flag) (s : String) : Except Misuse (List Value) :=
  (if f.repeats then s.splitOn "," else [s]).mapM f.readValue

end Flag

namespace Progress

/-- The values of the flag of that name. -/
def find? (p : Progress) (name : String) : Option Found :=
  p.found.find? fun e => e.flag.name == name

/-- The flags that have values. -/
def used (p : Progress) : List Flag := p.found.map (·.flag)

/-- Adds values to a flag. -/
def add (p : Progress) (f : Flag) (source : Source) (values : List Value) : Progress :=
  match p.find? f.name with
  | none => { p with found := p.found ++ [⟨f, source, values⟩] }
  | some _ =>
    { p with
      found := p.found.map fun e =>
        if e.flag.name = f.name then { e with values := e.values ++ values } else e }

/-- Gives a flag the values in a word. -/
def give (c : Command) (p : Progress) (f : Flag) (source : Source) (word : Option String) :
    Except Misuse Progress := do
  if f.form ≠ .switch ∧ word = none then throw (.missingValue f)
  if (p.find? f.name).isSome ∧ !f.repeats then throw (.repeated c f)
  return p.add f source ((← word.toList.mapM f.readWord).flatten)

/-- Looks at the value that is still to be looked at. -/
def settle (c : Command) (p : Progress) : Except Misuse Progress :=
  match p.pending with
  | none => .ok p
  | some (f, word) => give c { p with pending := none } f .commandLine word

/-- The flags that count as used after the value that is still to be looked
at: a flag with a bad value is among them, one without a value is not, and one
that is given again is none of them any more. -/
def usedInAll (p : Progress) : List Flag :=
  match p.pending with
  | some (f, some _) =>
    if !p.used.contains f then p.used ++ [f]
    else if f.repeats then p.used
    else p.used.filter (· ≠ f)
  | _ => p.used

/-- Reads a flag, with the value after an equals sign if there was one. -/
def readFlag (c : Command) (p : Progress) (f : Flag) (value : Option String) :
    Except Refused Progress :=
  if f.form = .switch then
    match value with
    | some v => .error (.misuse (.superfluousValue c f v p.used))
    | none =>
      match p.settle c with
      | .error m => .error (.misuse m)
      | .ok p =>
        if f = Flag.helpFlag then .error (.help c true)
        else if f = Flag.versionFlag then .error (.version (c.version.getD ""))
        else (p.give c f .commandLine none).mapError .misuse
  else
    match p.settle c, value with
    | .error m, _ => .error (.misuse m)
    | .ok p, none => .ok { p with pending := some (f, none) }
    | .ok p, some v => (p.give c f .commandLine (some v)).mapError .misuse

/-- Reads the word of one-letter flags that starts with `letter`. -/
def readLetter (c : Command) (p : Progress) (letter : Char) : Refused :=
  match c.allFlags.find? fun f => f.short == some letter with
  | none => .misuse (.unexpected c ("-" ++ letter.toString))
  | some f =>
    match p.settle c with
    | .error m => .misuse m
    | .ok _ => if f = Flag.helpFlag then .help c false else .version (c.version.getD "")

end Progress

namespace Command

/-- A word that has no place. -/
def misplaced (c : Command) (word : String) : Misuse :=
  if c.parts.isEmpty then .unexpected c word
  else .unknownCommand c word (Text.similar word (c.parts.map (·.1)))

/-- A word after `--` that has no place. -/
def misplacedAfterDashes (c : Command) (word : String) : Misuse :=
  if c.parts.any (·.1 == word) then .lateCommand c word else c.misplaced word

/-- Reads the words of a line, up to one that names a part of the command;
gives that word and the words after it too. -/
def scan (c : Command) :
    List String → Progress → Except Refused (Progress × Option (String × List String))
  | [], p => .ok (p, none)
  | word :: rest, p =>
    let waiting := p.pending.any fun e => e.2.isNone
    if !waiting ∧ c.parts.any (·.1 == word) then .ok (p, some (word, rest))
    else
      match word.toList with
      | ['-', '-'] =>
        match rest with
        | [] => .ok (p, none)
        | next :: _ => .error (.misuse (c.misplacedAfterDashes next))
      | '-' :: '-' :: long =>
        let name := String.ofList (long.takeWhile (· ≠ '='))
        let value := match long.dropWhile (· ≠ '=') with
          | [] => none
          | _ :: v => some (String.ofList v)
        match c.flag? name with
        | none => .error (.misuse (.unknownFlag c ("--" ++ name) p.usedInAll))
        | some f =>
          match p.readFlag c f value with
          | .error r => .error r
          | .ok p => scan c rest p
      | '-' :: letter :: _ => .error (p.readLetter c letter)
      | _ =>
        match p.pending with
        | some (f, none) => scan c rest { p with pending := some (f, some word) }
        | _ => .error (.misuse (c.misplaced word))

/-- Gives the flags that have no values yet their values from elsewhere. -/
def fill (c : Command) (source : Source) (word : Flag → Option String) (p : Progress) :
    Except Misuse Progress :=
  c.flags.foldlM (fun p f =>
    match p.find? f.name, word f with
    | none, some w => p.give c f source (some w)
    | _, _ => .ok p) p

/-- Ends the reading of a line. -/
def finish (c : Command) (env : Environment) (p : Progress) : Except Misuse Progress := do
  let p ← p.settle c
  let p ← c.fill .environment (fun f => f.fallback.bind env) p
  c.fill .standard (·.standard) p

/-- The values that count, of a command's and those of its part. -/
def merged (whole part : List Found) : List Found :=
  part.foldl (fun found e =>
    match found.find? fun d => d.flag.name == e.flag.name with
    | none => found ++ [e]
    | some d =>
      if e.source.strength < d.source.strength then found
      else found.map fun d => if d.flag.name = e.flag.name then e else d) whole

/-- The help that a line asks for with a word of its own. -/
def helpOn (part : String → Option Command) (c : Command) : List String → Refused
  | [] => .help c true
  | word :: rest =>
    match if word = "help" then some c.helper else part word with
    | none => .misuse (.unknownCommand c word [])
    | some p =>
      match rest with
      | [] => .help p true
      | next :: _ => .misuse (.unknownCommand p next [])

/-- Reads a command line. -/
def read (c : Command) (part : String → Option Command) (env : Environment)
    (words : List String) : Except Refused (List Found) := do
  let (p, rest) ← c.scan words {}
  match rest with
  | none => return (← (c.finish env p).mapError .misuse).found
  | some (name, rest) =>
    match part name with
    | none => throw (helpOn part c rest)
    | some d =>
      let (q, _) ← d.scan rest {}
      let q ← (d.finish env q).mapError .misuse
      let p ← (c.finish env p).mapError .misuse
      return merged p.found q.found

end Command

end FolderGrants.CommandLine
