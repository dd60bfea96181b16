import FolderGrants.Text.Alphanumeric
import FolderGrants.Text.Blank
import FolderGrants.Text.Pattern.Basic

/-!
# Reading patterns

How patterns are written: `|` between alternatives, `*`, `+` and `?` after what
they repeat, each reluctant with another `?`, groups in parentheses, sets in
brackets, `.` for any character, `^` and `$` for the edges, and a backslash
before what stands for something else.  Settings such as `(?i)` hold to the end
of the group that they stand in.

Sets are told apart among ASCII characters only: another character is in none
of the named ones, and has no other case.  Counted repetition is not part of
the notation, nor is anything that looks around.
-/

namespace FolderGrants.Text.Pattern

/-- How what follows is read. -/
structure Mode where
  /-- Letters stand for either case. -/
  foldsCase : Bool := false
  /-- `^` and `$` also stand for the edges of lines. -/
  atLines : Bool := false
  /-- `.` also stands for line ends. -/
  dotTakesAll : Bool := false
  /-- Loops are reluctant unless they say otherwise. -/
  reluctant : Bool := false
  /-- Sets hold characters, not bytes. -/
  wide : Bool := true
  /-- A line also ends at a carriage return. -/
  returns : Bool := false
  /-- Blanks and comments stand for nothing. -/
  spaced : Bool := false
  deriving DecidableEq, Repr

/-- A set of characters. -/
abbrev CharSet := Char → Bool

namespace CharSet

/-- The set of one character. -/
def only (c : Char) : CharSet := (· == c)

/-- The set between two characters. -/
def between (a b : Char) : CharSet := fun c => a ≤ c && c ≤ b

/-- Either set. -/
def union (s t : CharSet) : CharSet := fun c => s c || t c

/-- A set with the other case of its letters. -/
def folded (s : CharSet) : CharSet := fun c => s c || s c.toLower || s c.toUpper

/-- The blanks of ASCII. -/
def asciiBlank : CharSet := fun c => c == ' ' || between '\t' '\r' c

/-- The sets with a name. -/
def named : List (String × CharSet) :=
  let visible := between '!' '~'
  [("alnum", Char.isAlphanum), ("alpha", Char.isAlpha), ("ascii", (·.toNat < 128)),
   ("blank", fun c => c == ' ' || c == '\t'),
   ("cntrl", fun c => c.toNat < 32 || c.toNat == 127), ("digit", Char.isDigit),
   ("graph", visible), ("lower", Char.isLower), ("print", between ' ' '~'),
   ("punct", fun c => visible c && !c.isAlphanum),
   ("space", asciiBlank), ("upper", Char.isUpper),
   ("word", isWordPart),
   ("xdigit", fun c => c.isDigit || between 'a' 'f' c || between 'A' 'F' c)]

/-- The general categories with a letter. -/
def ofCategory? (c : Char) : Option CharSet :=
  match c.toLower with
  | 'l' => some Char.isAlpha
  | 'm' => some fun _ => false
  | 'n' => some Char.isDigit
  | 'p' => some fun c => between '!' '~' c && !c.isAlphanum && !"$+<=>^\x60|~".contains c
  | 's' => some fun c => "$+<=>^\x60|~".contains c
  | 'z' => some (only ' ')
  | 'c' => some fun c => c.toNat < 32 || c.toNat == 127
  | _ => none

end CharSet

/-- What a character, or a backslash with what it applies to, stands for. -/
inductive Token where
  /-- The character itself; `narrow` if written as a byte. -/
  | char (c : Char) (narrow : Bool)
  | set (s : CharSet)
  | edge (e : Edge)

/-- What is left once blanks and comments are skipped, where they stand for
nothing. -/
def skip (m : Mode) (comment : Bool) : List Char → List Char
  | [] => []
  | c :: rest =>
    if comment then skip m (c != '\n') rest
    else if !m.spaced then c :: rest
    else if isBlank c then skip m false rest
    else if c = '#' then skip m true rest
    else c :: rest

/-- The value of a hexadecimal digit. -/
def hexDigit? (c : Char) : Option Nat :=
  if c.isDigit then some (c.toNat - '0'.toNat)
  else if 'a' ≤ c ∧ c ≤ 'f' then some (c.toNat - 'a'.toNat + 10)
  else if 'A' ≤ c ∧ c ≤ 'F' then some (c.toNat - 'A'.toNat + 10)
  else none

/-- Reads so many hexadecimal digits. -/
def hexadecimal (m : Mode) : Nat → Nat → List Char → Option (Nat × List Char)
  | 0, value, cs => some (value, skip m false cs)
  | n + 1, value, cs =>
    match skip m false cs with
    | c :: rest => (hexDigit? c).bind fun d => hexadecimal m n (16 * value + d) rest
    | [] => none

/-- The character of a code point. -/
def charOf? (n : Nat) : Option Char := if n.isValidChar then some (Char.ofNat n) else none

/-- A set by its sign; the capital is what the set lacks. -/
def signed (m : Mode) (negated : Bool) (s : CharSet) : Option CharSet :=
  if !negated then some s
  else if m.wide then some fun c => !s c
  else none

/-- Reads what follows a backslash. -/
def escape (m : Mode) : List Char → Option (Token × List Char)
  | [] => none
  | c :: rest =>
    let char (c : Char) : Option (Token × List Char) := some (.char c false, rest)
    let code (digits : Nat) : Option (Token × List Char) :=
      (hexadecimal m digits 0 rest).bind fun (n, rest) =>
        (charOf? n).map fun c => (.char c (digits == 2), rest)
    let set (negated : Bool) (s : CharSet) : Option (Token × List Char) :=
      (signed m negated s).map fun s => (.set s, rest)
    let category (negated : Bool) : Option (Token × List Char) :=
      match skip m false rest with
      | c :: rest =>
        if !m.wide then none
        else (CharSet.ofCategory? c).map fun s =>
          let s := if m.foldsCase then CharSet.folded s else s
          (.set fun c => s c != negated, skip m false rest)
      | [] => none
    let word (e : Edge) : Option (Token × List Char) :=
      if m.wide then none else some (.edge e, rest)
    match c with
    | 'x' => code 2
    | 'u' => code 4
    | 'U' => code 8
    | 'p' => category false
    | 'P' => category true
    | 'd' => set false Char.isDigit
    | 'D' => set true Char.isDigit
    | 's' => set false (if m.wide then isBlank else CharSet.asciiBlank)
    | 'S' => set true isBlank
    | 'w' => set false isWordPart
    | 'W' => set true isWordPart
    | 'a' => char '\x07'
    | 'f' => char '\x0c'
    | 't' => char '\t'
    | 'n' => char '\n'
    | 'r' => char '\r'
    | 'v' => char '\x0b'
    | 'A' => some (.edge .textStart, rest)
    | 'z' => some (.edge .textEnd, rest)
    | 'b' => word .wordEdge
    | 'B' => word .noWordEdge
    | '<' => word .wordStart
    | '>' => word .wordEnd
    | c => if c.isAlphanum || 128 ≤ c.toNat then none else char c

/-! ### Sets in brackets -/

/-- How two sets are combined. -/
inductive Joint where
  | both
  | without
  | oneOnly
  deriving DecidableEq, Repr

/-- Two sets combined. -/
def Joint.apply (j : Joint) (s t : CharSet) : CharSet := fun c =>
  match j with
  | both => s c && t c
  | without => s c && !t c
  | oneOnly => s c != t c

/-- A set with either case of its letters where the mode asks for that. -/
def foldedIn (m : Mode) (s : CharSet) : CharSet := if m.foldsCase then s.folded else s

/-- The operand after a joint, applied to the one before it, if there is one. -/
def joined (m : Mode) (left : Option (Joint × CharSet)) (right : CharSet) : CharSet :=
  match left with
  | none => right
  | some (j, s) => j.apply (foldedIn m s) (foldedIn m right)

/-- Whether a character may be an element of a set. -/
def isElement (m : Mode) (c : Char) : Bool := m.wide || c.toNat < 128

/-- Reads one element of a set. -/
def element (m : Mode) : List Char → Option (Token × List Char)
  | [] => none
  | '\\' :: rest => escape m rest
  | c :: rest => some (.char c false, rest)

/-- Reads an element of a set or a range between two. -/
def range (m : Mode) (cs : List Char) : Option (CharSet × List Char) := do
  let (first, rest) ← element m cs
  let rest := skip m false rest
  let dash : Option (List Char) := match rest with
    | '-' :: after =>
      match skip m false after with
      | ']' :: _ => none
      | '-' :: _ => none
      | after => some after
    | _ => none
  match first, dash with
  | .char a _, none => if isElement m a then some (.only a, rest) else none
  | .set s, none => some (s, rest)
  | .char a _, some after =>
    match ← element m after with
    | (.char b _, rest) =>
      if a ≤ b && isElement m a && isElement m b then some (.between a b, rest) else none
    | _ => none
  | _, _ => none

/-- Reads the name of a set, which stands between `[:` and `:]`. -/
def namedSet (m : Mode) (cs : List Char) : Option (Option CharSet × List Char) :=
  match cs with
  | '[' :: ':' :: rest =>
    let (negated, rest) := match rest with
      | '^' :: rest => (true, rest)
      | rest => (false, rest)
    match rest.dropWhile (· ≠ ':') with
    | ':' :: ']' :: after =>
      (CharSet.named.lookup (String.ofList (rest.takeWhile (· ≠ ':')))).map fun s =>
        (signed m negated (foldedIn m s), after)
    | _ => none
  | _ => none

/-- Reads the dashes at the start of a set, which are elements. -/
def leadingDashes (m : Mode) : Nat → List Char → Bool × List Char
  | fuel + 1, '-' :: rest => (true, (leadingDashes m fuel (skip m false rest)).2)
  | _, cs => (false, cs)

/-- Reads what opens a set after its bracket: whether it is negated, and the
elements that count only there. -/
def opening (m : Mode) (cs : List Char) : Bool × CharSet × List Char :=
  let (negated, cs) := match skip m false cs with
    | '^' :: rest => (true, skip m false rest)
    | rest => (false, rest)
  match leadingDashes m cs.length cs with
  | (true, rest) => (negated, .only '-', rest)
  | (false, ']' :: rest) => (negated, .only ']', rest)
  | (false, rest) => (negated, fun _ => false, rest)

/-- Reads a set up to its closing bracket.  `left` is the operand of the last
joint and `here` what has been read since. -/
def setBody : Nat → Mode → Bool → Option (Joint × CharSet) → CharSet → List Char →
    Option (CharSet × List Char)
  | 0, _, _, _, _, _ => none
  | fuel + 1, m, negated, left, here, cs =>
    let joint (j : Joint) (rest : List Char) :=
      setBody fuel m negated (some (j, joined m left here)) (fun _ => false) rest
    match skip m false cs with
    | [] => none
    | ']' :: rest => (signed m negated (foldedIn m (joined m left here))).map (·, rest)
    | '&' :: '&' :: rest => joint .both rest
    | '-' :: '-' :: rest => joint .without rest
    | '~' :: '~' :: rest => joint .oneOnly rest
    | '[' :: rest =>
      match namedSet m ('[' :: rest) with
      | some (s, after) => s.bind fun s => setBody fuel m negated left (here.union s) after
      | none =>
        let (inner, first, rest) := opening m rest
        (setBody fuel m inner none first rest).bind fun (s, after) =>
          setBody fuel m negated left (here.union s) after
    | rest =>
      (range m rest).bind fun (s, after) => setBody fuel m negated left (here.union s) after

/-- Reads a set after its opening bracket. -/
def set (m : Mode) (cs : List Char) : Option (CharSet × List Char) :=
  let (negated, first, rest) := opening m cs
  setBody (rest.length + 1) m negated none first rest

/-! ### Groups -/

/-- The mode with a setting switched on or off. -/
def Mode.with? (m : Mode) (on : Bool) : Char → Option Mode
  | 'i' => some { m with foldsCase := on }
  | 'm' => some { m with atLines := on }
  | 's' => some { m with dotTakesAll := on }
  | 'U' => some { m with reluctant := on }
  | 'u' => some { m with wide := on }
  | 'R' => some { m with returns := on }
  | 'x' => some { m with spaced := on }
  | _ => none

/-- The mode after settings; those after a dash are switched off.  None of them
stands twice, and a dash stands before one. -/
def settings (m : Mode) (on : Bool) (seen : List Char) : List Char → Option Mode
  | [] => some m
  | '-' :: rest => if on && !rest.isEmpty then settings m false seen rest else none
  | c :: rest =>
    if seen.contains c then none
    else (m.with? on c).bind fun m => settings m on (c :: seen) rest

/-- What opens a group. -/
inductive Opening where
  /-- A group, perhaps with a name. -/
  | group (m : Mode) (name : Option String)
  /-- Settings for the rest of the group around. -/
  | settings (m : Mode)

/-- Whether a name may have `c` after its first character. -/
def continuesName (c : Char) : Bool := isAlphanumeric c || "_.[]".contains c

/-- Whether a group may have the name. -/
def isName : List Char → Bool
  | [] => false
  | c :: rest => (isAlphabetic c || c = '_') && rest.all continuesName

/-- Reads a name up to the bracket that closes it. -/
def groupName (m : Mode) (cs : List Char) : Option (Opening × List Char) :=
  let name := cs.takeWhile (· ≠ '>')
  match cs.dropWhile (· ≠ '>') with
  | _ :: rest => if isName name then some (.group m (String.ofList name), rest) else none
  | [] => none

/-- Reads what follows an opening parenthesis. -/
def groupOpening (m : Mode) (cs : List Char) : Option (Opening × List Char) :=
  match skip m false cs with
  | '?' :: 'P' :: '<' :: rest => groupName m rest
  | '?' :: '<' :: rest => groupName m rest
  | '?' :: rest =>
    let word := rest.takeWhile fun c => c ≠ ':' && c ≠ ')'
    match rest.dropWhile fun c => c ≠ ':' && c ≠ ')' with
    | ':' :: after => (settings m true [] word).map fun m => (.group m none, after)
    | ')' :: after =>
      if word.isEmpty then none else (settings m true [] word).map fun m => (.settings m, after)
    | _ => none
  | rest => some (.group m none, rest)

/-- The pattern of a character. -/
def ofChar (m : Mode) (c : Char) (narrow : Bool) : Option Pattern :=
  if !m.wide && narrow && 128 ≤ c.toNat then none
  else some (.one (foldedIn m (.only c)))

/-- The pattern of a token. -/
def ofToken (m : Mode) : Token → Option Pattern
  | .char c narrow => ofChar m c narrow
  | .set s => some (.one s)
  | .edge e => some (.edge e)

/-- What a dot stands for. -/
def dot (m : Mode) : Option Pattern :=
  if !m.wide then none
  else if m.dotTakesAll then some (.one fun _ => true)
  else some (.one fun c => c != '\n' && !(m.returns && c == '\r'))

/-- A repeated pattern. -/
def repeated (sign : Char) (eager : Bool) (p : Pattern) : Pattern :=
  match sign with
  | '*' => .loop p eager
  | '+' => .seq p (.loop p eager)
  | _ => if eager then .either p .empty else .either .empty p

/-- What has been read of a group. -/
structure Draft where
  /-- How what follows is read. -/
  mode : Mode
  /-- The alternatives before the present one, the last first. -/
  past : List Pattern := []
  /-- The items of the present one, the last first; settings are none. -/
  items : List (Option Pattern) := []
  /-- The names of groups so far. -/
  names : List String := []

namespace Draft

/-- The alternative that is being read. -/
def present (d : Draft) : Pattern :=
  d.items.foldl (fun rest i => i.elim rest fun p => .seq p rest) .empty

/-- All alternatives. -/
def whole (d : Draft) : Pattern := d.past.foldl (fun rest p => .either p rest) d.present

/-- The draft with another item. -/
def add (d : Draft) (p : Pattern) : Draft := { d with items := some p :: d.items }

end Draft

/-- Reads a group up to its end, which is a parenthesis if it is `nested` and
the end of the text otherwise. -/
def group : Nat → Bool → Draft → List Char → Option (Draft × List Char)
  | 0, _, _, _ => none
  | fuel + 1, nested, d, cs =>
    let go := group fuel nested
    let m := d.mode
    match skip m false cs with
    | [] => if nested then none else some (d, [])
    | '(' :: rest =>
      match groupOpening m rest with
      | none => none
      | some (.settings m, rest) => go { d with mode := m, items := none :: d.items } rest
      | some (.group m name, rest) =>
        if name.any d.names.contains then none
        else
          (group fuel true { mode := m, names := name.toList ++ d.names } rest).bind
            fun (inner, rest) => go { d.add inner.whole with names := inner.names } rest
    | ')' :: rest => if nested then some (d, rest) else none
    | '|' :: rest => go { d with past := d.present :: d.past, items := [] } rest
    | '[' :: rest => (set m rest).bind fun (s, rest) => go (d.add (.one s)) rest
    | '\\' :: rest =>
      (escape m rest).bind fun (t, rest) => (ofToken m t).bind fun p => go (d.add p) rest
    | '.' :: rest => (dot m).bind fun p => go (d.add p) rest
    | '^' :: rest =>
      go (d.add (.edge (if m.atLines then .lineStart m.returns else .textStart))) rest
    | '$' :: rest =>
      go (d.add (.edge (if m.atLines then .lineEnd m.returns else .textEnd))) rest
    | '\x7b' :: _ => none
    | c :: rest =>
      if c = '*' ∨ c = '+' ∨ c = '?' then
        match d.items with
        | some p :: items =>
          let (eager, rest) := match rest with
            | '?' :: rest => (false, rest)
            | rest => (true, rest)
          go { d with items := some (repeated c (eager != m.reluctant) p) :: items } rest
        | _ => none
      else (ofChar m c false).bind fun p => go (d.add p) rest

/-- The pattern that a text is. -/
def ofText? (s : String) : Option Pattern :=
  (group (s.length + 1) false { mode := {} } s.toList).map (·.1.whole)

end FolderGrants.Text.Pattern
