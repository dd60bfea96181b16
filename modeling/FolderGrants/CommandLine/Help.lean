import FolderGrants.CommandLine.Basic

/-!
# Help

The help of a command says what it does, how it is called, which parts it has
and what its flags are for.  The full help gives every flag a paragraph; the
short one gives it two lines.
-/

namespace FolderGrants.CommandLine

/-- What stands before the lines on a flag. -/
def margin : String := "          "

namespace Flag

/-- The line that shows how a flag is written. -/
def heading (f : Flag) : String :=
  (match f.short with
    | some c => "  -" ++ c.toString ++ ", "
    | none => "      ") ++ f.written

/-- Where the value of a flag comes from if it is not given. -/
def origins (env : Environment) (f : Flag) : List String :=
  (f.fallback.toList.map fun v => "[env: " ++ v ++ "=" ++ (env v).getD "" ++ "]") ++
    (f.standard.toList.map fun d => "[default: " ++ d ++ "]")

/-- The words that a flag accepts, with what they mean. -/
def choiceLines (f : Flag) : List String :=
  if f.choices.isEmpty then []
  else
    ["", margin ++ "Possible values:"] ++
      f.choices.map fun c => margin ++ "- " ++ c.word ++ ": " ++ c.help

/-- The lines on a flag in the full help. -/
def fullHelp (env : Environment) (f : Flag) : List String :=
  let origins := (f.origins env).map (margin ++ ·)
  [f.heading] ++ (f.help.map (margin ++ ·)).intersperse margin ++ f.choiceLines ++
    (if origins.isEmpty then [] else margin :: origins)

/-- The lines on a flag in the short help. -/
def briefHelp (env : Environment) (f : Flag) : List String :=
  let choices :=
    if f.choices.isEmpty then []
    else ["[possible values: " ++ ", ".intercalate (f.choices.map (·.word)) ++ "]"]
  [f.heading,
    margin ++ " ".intercalate ((f.shortHelp.toList ++ f.help).take 1 ++ f.origins env ++ choices)]

end Flag

namespace Command

/-- Names with what they stand for, one a line. -/
def table (rows : List (String × String)) : List String :=
  let width := (rows.map (·.1.length)).foldl max 0
  rows.map fun r => "  " ++ r.1.pushn ' ' (width - r.1.length) ++ "  " ++ r.2

/-- A part of the help under its title; without lines there is none. -/
def titled (title : String) (lines : List String) : List String :=
  if lines.isEmpty then [] else ["", title] ++ lines

/-- The help of a command. -/
def helpLines (env : Environment) (full : Bool) (c : Command) : List String :=
  let about := if full then c.about else c.about.take 1
  let flags :=
    if full then (c.allFlags.map (Flag.fullHelp env)).intersperse [""]
    else c.allFlags.map (Flag.briefHelp env)
  about.intersperse "" ++ ["", c.usage] ++ titled "Commands:" (table c.parts) ++
    titled "Arguments:" (table (c.operands.toList.map fun o => (writtenOperands o.1, o.2))) ++
    titled "Options:" flags.flatten

end Command

end FolderGrants.CommandLine
