import FolderGrants.Json.Passage

/-!
# The forms of values in texts

A reader that knows which form of value it wants objects to a text as soon as
it sees that the value is of another form, even if the text is no JSON further
on.  What it does not want to know, such as members of a record that have no
field, it passes over.

An array or an object where none is wanted is told before its bracket.  A
reader that gives up within a record still reads the bracket that closes it,
if that comes next.  No value that is looked at stands inside more than 127
arrays and objects.
-/

namespace FolderGrants

namespace Json

/-- Where a field of a record may be left out. -/
inductive Presence where
  | required
  /-- It may be left out of an object, but not of a list. -/
  | requiredInList
  | optional
  deriving DecidableEq, Repr

/-- How a record is written. -/
inductive Style where
  /-- As an object without repeated members, or as the list of its fields. -/
  | declared
  /-- As an object, of whose repeated members the last one counts. -/
  | lenient
  /-- As an object without repeated members, whose other members are kept. -/
  | loose
  deriving DecidableEq, Repr

/-- The form of a value. -/
inductive Form where
  /-- A value without parts that fits. -/
  | plain (fits : Json → Except Misfit Unit)
  /-- The text with which a record names its kind. -/
  | tag (wanted : String)
  | any
  | nullable (form : Form)
  | list (item : Form)
  /-- An object with values of one form. -/
  | entries (value : Form)
  /-- One of some texts. -/
  | variant (known : List String)
  | record (style : Style) (name : String) (fields : List (String × Presence × Form))

/-- The text that a value is. -/
def wantText (wanted : String) : Json → Except Misfit String
  | str s => .ok s
  | j => .error (.ofJson j wanted)

/-- Nothing but `null`. -/
def wantNull : Json → Except Misfit Unit
  | null => .ok ()
  | j => .error (.ofJson j "unit")

/-- One of some texts. -/
def wantVariant (known : List String) (s : String) : Except Misfit Unit :=
  if s ∈ known then .ok () else .error (.unknownVariant s known)

/-- What a record of that name is called where it is wanted. -/
def Style.wanted (style : Style) (record : String) : String :=
  if style = .lenient then record else "struct " ++ record

/-- A check of what was read before `cs`. -/
def judged {α : Type} (e : Except Misfit α) (cs : List Char) : Except Stop α :=
  e.mapError (.misfit · cs)

/-- A value without parts that fits. -/
def readPlain {α : Type} (fits : Json → Except Misfit α) (cs : List Char) :
    Except Stop (α × List Char) := do
  match cs with
  | '[' :: _ => return (← judged (fits (arr [])) cs, cs)
  | '\x7b' :: _ => return (← judged (fits (obj [])) cs, cs)
  | _ => do
    let (j, rest) ← readScalar cs
    return (← judged (fits j) rest, rest)

/-- Stops since the value at the front is not the wanted one. -/
def refuse (wanted : String) (cs : List Char) : Except Stop (Json × List Char) :=
  readPlain (fun j => .error (.ofJson j wanted)) cs

/-- Goes through a bracket; `room` is one more than the levels still allowed,
and `rest` stands after the bracket. -/
def enter (room : Nat) (rest : List Char) : Except Stop Unit :=
  if room ≤ 1 then .error (.before .tooDeep rest) else .ok ()

/-- What a reader that gives up an object leaves unread. -/
def leaveObject (cs : List Char) : List Char :=
  match skipSpace cs with
  | '\x7d' :: rest => rest
  | rest => rest

/-- What a reader that gives up an array leaves unread. -/
def leaveArray (cs : List Char) : List Char :=
  match skipSpace cs with
  | ']' :: rest => rest
  | ',' :: rest => skipSpace rest
  | rest => rest

/-- Goes to the next item of an array, if there is one, or else to the
bracket. -/
def nextItem (first : Bool) (cs : List Char) : Except Stop (Bool × List Char) :=
  match skipSpace cs with
  | [] => .error (.before .endsInArray [])
  | ']' :: rest => .ok (false, rest)
  | c :: rest =>
    if first then .ok (true, c :: rest)
    else if c = ',' then
      match skipSpace rest with
      | [] => .error (.before .endsInValue [])
      | ']' :: rest => .error (.into .openComma (']' :: rest))
      | rest => .ok (true, rest)
    else .error (.into .undividedItems (c :: rest))

/-- The bracket of an array that has no more items. -/
def endOfItems (cs : List Char) : Except Stop (List Char) :=
  match skipSpace cs with
  | [] => .error (.before .endsInArray [])
  | ']' :: rest => .ok rest
  | ',' :: rest =>
    match skipSpace rest with
    | ']' :: rest => .error (.into .openComma (']' :: rest))
    | rest => .error (.into .moreText rest)
  | rest => .error (.into .moreText rest)

/-- Goes past the opening quote of the next name in an object, if there is
one, or else past the bracket. -/
def nextMember (first : Bool) (cs : List Char) : Except Stop (Bool × List Char) :=
  match skipSpace cs with
  | [] => .error (.before .endsInObject [])
  | '\x7d' :: rest => .ok (false, rest)
  | c :: rest =>
    if first then
      if c = '"' then .ok (true, rest) else .error (.into .noName (c :: rest))
    else if c = ',' then
      match skipSpace rest with
      | [] => .error (.before .endsInValue [])
      | '"' :: rest => .ok (true, rest)
      | '\x7d' :: rest => .error (.into .openComma ('\x7d' :: rest))
      | rest => .error (.into .noName rest)
    else .error (.into .undividedMembers (c :: rest))

/-- A text that names the kind of the record around it. -/
def readTag (wanted : String) (cs : List Char) : Except Stop (Json × List Char) := do
  let (s, rest) ← readPlain (wantText "a string") cs
  if s = wanted then return (str s, rest)
  else throw (.misfit (.wrongValue (.str s) wanted) (leaveObject rest))

/-- One of some texts, as the only member of an object and with the value
`null`; `cs` stands after the bracket. -/
def readVariantMember (known : List String) (cs : List Char) : Except Stop (Json × List Char) := do
  let (s, cs) ← readPlain (wantText "variant identifier") (skipSpace cs)
  judged (wantVariant known s) cs
  let cs ← passColon cs
  let ((), cs) ← readPlain wantNull (skipSpace cs)
  match skipSpace cs with
  | [] => throw (.before .endsInObject [])
  | '\x7d' :: rest => return (obj [(s, null)], rest)
  | rest => throw (.before .noValue rest)

/-- One of some texts. -/
def readVariant (known : List String) (room : Nat) : List Char → Except Stop (Json × List Char)
  | '"' :: rest => do
    let (s, rest) ← readString [] rest
    judged (wantVariant known s) rest
    return (str s, rest)
  | '\x7b' :: rest => do
    enter room rest
    readVariantMember known rest
  | cs => .error (.next .endsInValue .noValue cs)

/-- The first field that a record has to have and that is not among those
seen. -/
def absentField? (seen : List String) (fields : List (String × Presence × Form)) :
    Option String :=
  (fields.find? fun f => f.2.1 = .required ∧ f.1 ∉ seen).map (·.1)

/-- The number of the first field that a list has to have. -/
def absentItem? (i : Nat) : List (String × Presence × Form) → Option Nat
  | [] => none
  | f :: rest => if f.2.1 = .optional then absentItem? (i + 1) rest else some i

namespace Form

mutual

/-- Reads a value of the form.  At most three calls follow one another before
a character is taken off the text, so four times its length is fuel enough;
`room` is one more than the levels still allowed. -/
def read : (fuel room : Nat) → Form → List Char → Except Stop (Json × List Char)
  | 0, _, _, cs => .error (.before .noValue cs)
  | fuel + 1, room, form, cs =>
    let cs := skipSpace cs
    match form with
    | plain fits => readPlain (fun j => (fits j).map fun _ => j) cs
    | tag wanted => readTag wanted cs
    | any =>
      match cs with
      | '[' :: _ => read fuel room (list any) cs
      | '\x7b' :: _ => read fuel room (entries any) cs
      | _ => readScalar cs
    | nullable form => if cs.head? = some 'n' then readScalar cs else read fuel room form cs
    | list item =>
      match cs with
      | '[' :: rest => do
        enter room rest
        let (l, rest) ← readItems fuel (room - 1) item true rest
        return (arr l, rest)
      | _ => refuse "a sequence" cs
    | entries value =>
      match cs with
      | '\x7b' :: rest => do
        enter room rest
        let (l, rest) ← readEntries fuel (room - 1) value true rest
        return (obj l, rest)
      | _ => refuse "a map" cs
    | variant known => readVariant known room cs
    | record style name fields =>
      match style, cs with
      | style, '\x7b' :: rest => do
        enter room rest
        let (l, rest) ← readFields fuel (room - 1) style fields [] true rest
        return (obj l, rest)
      | .declared, '[' :: rest => do
        enter room rest
        let (l, rest) ← readListed fuel (room - 1) name fields.length 0 fields true rest
        return (arr l, rest)
      | .lenient, '[' :: rest => do
        enter room rest
        throw (.misfit (.wrongType .sequence name) (leaveArray rest))
      | style, cs => refuse (style.wanted name) cs

/-- The items of an array from one on, and its bracket. -/
def readItems : (fuel room : Nat) → Form → (first : Bool) → List Char →
    Except Stop (List Json × List Char)
  | 0, _, _, _, cs => .error (.before .noValue cs)
  | fuel + 1, room, item, first, cs => do
    match ← nextItem first cs with
    | (false, cs) => return ([], cs)
    | (true, cs) =>
      let (j, cs) ← read fuel room item cs
      let (l, cs) ← readItems fuel room item false cs
      return (j :: l, cs)

/-- The members of an object from one on, and its bracket. -/
def readEntries : (fuel room : Nat) → Form → (first : Bool) → List Char →
    Except Stop (List (String × Json) × List Char)
  | 0, _, _, _, cs => .error (.before .noValue cs)
  | fuel + 1, room, value, first, cs => do
    match ← nextMember first cs with
    | (false, cs) => return ([], cs)
    | (true, cs) =>
      let (name, cs) ← readString [] cs
      let (j, cs) ← read fuel room value (← passColon cs)
      let (l, cs) ← readEntries fuel room value false cs
      return ((name, j) :: l, cs)

/-- The fields of a record that is written as a list, from the field of number
`i` on. -/
def readListed : (fuel room : Nat) → (name : String) → (count i : Nat) →
    List (String × Presence × Form) → (first : Bool) → List Char →
    Except Stop (List Json × List Char)
  | 0, _, _, _, _, _, _, cs => .error (.before .noValue cs)
  | _ + 1, _, _, _, _, [], _, cs => return ([], ← endOfItems cs)
  | fuel + 1, room, name, count, i, field :: more, first, cs => do
    match ← nextItem first cs with
    | (false, cs) =>
      match absentItem? i (field :: more) with
      | some i => throw (.misfit (.tooShort i name count) cs)
      | none => return ([], cs)
    | (true, cs) =>
      let (j, cs) ← read fuel room field.2.2 cs
      let (l, cs) ← readListed fuel room name count (i + 1) more false cs
      return (j :: l, cs)

/-- The members of a record, from one on; `seen` are those that had a
field. -/
def readFields : (fuel room : Nat) → Style → List (String × Presence × Form) →
    (seen : List String) → (first : Bool) → List Char →
    Except Stop (List (String × Json) × List Char)
  | 0, _, _, _, _, _, cs => .error (.before .noValue cs)
  | fuel + 1, room, style, fields, seen, first, cs => do
    match ← nextMember first cs with
    | (false, cs) =>
      match absentField? seen fields with
      | some name => throw (.misfit (.missing name) cs)
      | none => return ([], cs)
    | (true, cs) =>
      let (name, cs) ← readString [] cs
      match fields.lookup name with
      | some (_, form) =>
        if style ≠ .lenient ∧ name ∈ seen then
          throw (.misfit (.duplicate name) (leaveObject cs))
        let (j, cs) ← read fuel room form (← passColon cs)
        let (l, cs) ← readFields fuel room style fields (name :: seen) false cs
        return ((name, j) :: l, cs)
      | none =>
        if style = .loose then
          let (j, cs) ← read fuel room any (← passColon cs)
          let (l, cs) ← readFields fuel room style fields seen false cs
          return ((name, j) :: l, cs)
        else
          let cs ← pass (← passColon cs)
          readFields fuel room style fields seen false cs

end

/-- Reads a value of the form off the front of characters. -/
def take (form : Form) (cs : List Char) : Except Stop (Json × List Char) :=
  form.read (4 * cs.length + 4) 128 cs

end Form

/-- Nothing but blanks. -/
def finished (cs : List Char) : Except Stop Unit :=
  match skipSpace cs with
  | [] => .ok ()
  | rest => .error (.into .moreText rest)

/-- The value of a text that is JSON from end to end, members as they stand. -/
def parse? (s : String) : Option Json :=
  match Form.take .any s.toList with
  | .error _ => none
  | .ok (j, rest) => if (skipSpace rest).isEmpty then some j else none

end Json

end FolderGrants
