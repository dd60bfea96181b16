import FolderGrants.Json.Form

/-!
# Reading records from JSON

A decoder turns a JSON value into a value of the domain or says why it does
not fit; it also knows the form of the value, so that a text can be read up to
the place where it stops fitting.

Records have members in any order; when several of them are at fault, the one
that stands first in the object is reported, and an absent member is reported
only if all present ones fit.  Absent members are reported in the order in
which the record declares its fields.

That order is kept by `Reading`: every field is read for itself, a failure
carries the place where it happened, and of two failures the one at the
earlier place counts.

There are two kinds of records.  A *declared* record may also be written as
the list of its fields, refuses `null` for a field unless the field is
optional, and refuses a repeated member.  A *lenient* record is an object
only; each of its fields may be absent or `null`, and of a repeated member
the last one counts.
-/

namespace FolderGrants

/-- Reads a value of type `α` out of a JSON value. -/
structure Decoder (α : Type) where
  /-- The form of the value. -/
  form : Json.Form
  ofJson : Json → Except Misfit α

/-- The outcome of reading some fields: all of them, or the earliest failure
and its place. -/
inductive Reading (α : Type) where
  | done (a : α)
  | failed (place : Nat) (why : Misfit)
  deriving Repr

namespace Reading

/-- Of two failures the one at the earlier place counts, at one place the
first. -/
def both {α β : Type} : Reading (α → β) → Reading α → Reading β
  | done f, done a => done (f a)
  | done _, failed p w => failed p w
  | failed p w, done _ => failed p w
  | failed p w, failed p' w' => if p' < p then failed p' w' else failed p w

instance : Functor Reading where
  map f
    | done a => done (f a)
    | failed p w => failed p w

instance : Applicative Reading where
  pure := done
  seq f x := both f (x ())

/-- What came of the reading, without the place. -/
def result {α : Type} : Reading α → Except Misfit α
  | done a => .ok a
  | failed _ w => .error w

/-- A decoder's answer for the value at a place. -/
def placed {α : Type} (place : Nat) : Except Misfit α → Reading α
  | .ok a => done a
  | .error w => failed place w

end Reading

namespace Decoder

variable {α β : Type}

/-- A value without parts that fits. -/
def plain (fits : Json → Except Misfit α) : Decoder α where
  form := .plain fun j => (fits j).map fun _ => ()
  ofJson := fits

/-- Sends what is read through `f`. -/
def map (f : α → β) (d : Decoder α) : Decoder β where
  form := d.form
  ofJson j := (d.ofJson j).map f

/-- A string. -/
def text : Decoder String := plain (Json.wantText "a string")

/-- The given string, with which a record names its kind. -/
def exactly (wanted : String) : Decoder Unit where
  form := .tag wanted
  ofJson j := do
    let s ← text.ofJson j
    if s = wanted then return () else throw (.wrongValue (.str s) wanted)

/-- A boolean. -/
def bool : Decoder Bool :=
  plain fun
    | .bool b => .ok b
    | j => .error (.ofJson j "a boolean")

/-- An integer between the given bounds. -/
def intBetween (low high : Int) (wanted : String) : Decoder Int :=
  plain fun
    | .int n => if low ≤ n ∧ n ≤ high then .ok n else .error (.wrongValue (.int n) wanted)
    | j => .error (.ofJson j wanted)

/-- A signed integer of 64 bits. -/
def int64 : Decoder Int := intBetween (-9223372036854775808) 9223372036854775807 "i64"

/-- An RFC 3339 text. -/
def instant : Decoder Instant :=
  plain fun
    | .str s =>
      match Instant.ofText s with
      | .ok t => .ok t
      | .error f => .error (.badInstant f)
    | j => .error (.ofJson j "an RFC 3339 formatted date and time string")

/-- Any value. -/
def any : Decoder Json := ⟨.any, .ok⟩

/-- `null` or a value. -/
def nullable (d : Decoder α) : Decoder (Option α) where
  form := .nullable d.form
  ofJson
    | .null => .ok none
    | j => (d.ofJson j).map some

/-- A list, every item of which fits. -/
def list (d : Decoder α) : Decoder (List α) where
  form := .list d.form
  ofJson
    | .arr l => l.mapM d.ofJson
    | j => .error (.ofJson j "a sequence")

/-- The entries of a map; of a repeated name the last one counts. -/
def entries (d : Decoder α) : Decoder (List (String × α)) where
  form := .entries d.form
  ofJson
    | .obj ms => ms.mapM fun m => (d.ofJson m.2).map fun a => (m.1, a)
    | j => .error (.ofJson j "a map")

/-- What one of the known texts stands for. -/
def choose (known : List (String × α)) (s : String) : Except Misfit α :=
  match known.lookup s with
  | some a => .ok a
  | none => .error (.unknownVariant s (known.map (·.1)))

/-- One of the texts that `known` lists, also written as an object with that
text as its only member and `null` as its value. -/
def variant (known : List (String × α)) : Decoder α where
  form := .variant (known.map (·.1))
  ofJson
    | .str s => choose known s
    | .obj [(s, j)] => do
      let a ← choose known s
      Json.wantNull j
      return a
    | .obj _ => .error (.wrongValue .map "map with a single key")
    | j => .error (.ofJson j "string or map")

end Decoder

/-- Where the fields of a record are looked up. -/
structure Fields where
  /-- The places and values of a field, in the order in which they stand. -/
  find : String → List (Nat × Json)
  /-- The failure for a required field without a value. -/
  absent : String → Nat × Misfit
  /-- Whether a second value of a field is refused. -/
  refusesRepeats : Bool
  /-- Whether the record is written as the list of its fields. -/
  inList : Bool

namespace Fields

/-- The places and values of the members of one name. -/
def findFrom (name : String) (i : Nat) : List (String × Json) → List (Nat × Json)
  | [] => []
  | m :: rest =>
    if m.1 = name then (i, m.2) :: findFrom name (i + 1) rest else findFrom name (i + 1) rest

/-- The members of an object as fields. -/
def ofMembers (ms : List (String × Json)) (refusesRepeats : Bool) : Fields where
  find name := findFrom name 0 ms
  absent name := (ms.length, .missing name)
  refusesRepeats := refusesRepeats
  inList := false

/-- The items of a list as the fields of the given names. -/
def ofItems (names : List String) (record : String) (l : List Json) : Fields where
  find name :=
    match l[names.idxOf name]? with
    | some j => [(names.idxOf name, j)]
    | none => []
  absent name := (names.idxOf name, .tooShort (names.idxOf name) record names.length)
  refusesRepeats := true
  inList := true

/-- Reads all values of a field; the last one is the field's. -/
def last {α : Type} (d : Decoder α) : List (Nat × Json) → Option (Reading α)
  | [] => none
  | [(i, j)] => some (.placed i (d.ofJson j))
  | (i, j) :: rest =>
    match d.ofJson j with
    | .error w => some (.failed i w)
    | .ok _ => last d rest

/-- The value of a field, if it has one. -/
def value? {α : Type} (fs : Fields) (name : String) (d : Decoder α) : Option (Reading α) :=
  match fs.find name with
  | [] => none
  | [(i, j)] => some (.placed i (d.ofJson j))
  | (i, j) :: (i', j') :: rest =>
    if fs.refusesRepeats then
      match d.ofJson j with
      | .error w => some (.failed i w)
      | .ok _ => some (.failed i' (.duplicate name))
    else last d ((i, j) :: (i', j') :: rest)

/-- The value of a field that has to be there. -/
def required {α : Type} (fs : Fields) (name : String) (d : Decoder α) : Reading α :=
  match fs.value? name d with
  | some r => r
  | none => .failed (fs.absent name).1 (fs.absent name).2

/-- The value of a field, or a given value when it is absent. -/
def withDefault {α : Type} (fs : Fields) (name : String) (d : Decoder α) (a : α) : Reading α :=
  (fs.value? name d).getD (.done a)

end Fields

/-- The fields of a record, and how it is made of their values. -/
structure Record (α : Type) where
  fields : List (String × Json.Presence × Json.Form)
  read : Fields → Reading α

namespace Record

variable {α : Type}

instance : Functor Record where
  map f r := ⟨r.fields, fun fs => f <$> r.read fs⟩

instance : Applicative Record where
  pure a := ⟨[], fun _ => pure a⟩
  seq f r := ⟨f.fields ++ (r ()).fields, fun fs => f.read fs <*> (r ()).read fs⟩

/-- The names of the fields. -/
def names (r : Record α) : List String := r.fields.map (·.1)

/-- A field that has to be there. -/
def required (name : String) (d : Decoder α) : Record α :=
  ⟨[(name, .required, d.form)], fun fs => fs.required name d⟩

/-- A field that takes a given value when it is absent. -/
def withDefault (name : String) (d : Decoder α) (a : α) : Record α :=
  ⟨[(name, .optional, d.form)], fun fs => fs.withDefault name d a⟩

/-- A field that may be absent or `null`. -/
def optional (name : String) (d : Decoder α) : Record (Option α) :=
  withDefault name (.nullable d) none

/-- A field that may be `null`, and absent from an object but not from a
list. -/
def optionalInPlace (name : String) (d : Decoder α) : Record (Option α) :=
  ⟨[(name, .requiredInList, (Decoder.nullable d).form)], fun fs =>
    if fs.inList then fs.required name (.nullable d) else fs.withDefault name (.nullable d) none⟩

/-- A field that takes a given value when it is absent or `null`. -/
def orElse (name : String) (d : Decoder α) (a : α) : Record α :=
  (fun o => o.getD a) <$> optional name d

end Record

namespace Decoder

variable {α : Type}

/-- A declared record. -/
def declared (record : String) (r : Record α) : Decoder α where
  form := .record .declared record r.fields
  ofJson
    | .obj ms => (r.read (.ofMembers ms true)).result
    | .arr l => do
      let a ← (r.read (.ofItems r.names record l)).result
      if l.length ≤ r.fields.length then return a
      else throw (.wrongLength l.length "fewer elements in array")
    | j => .error (.ofJson j ("struct " ++ record))

/-- A lenient record. -/
def lenient (record : String) (r : Record α) : Decoder α where
  form := .record .lenient record r.fields
  ofJson
    | .obj ms => (r.read (.ofMembers ms false)).result
    | j => .error (.ofJson j record)

/-- A record that is an object and may have members besides its fields; they
are kept. -/
def loose (record : String) (r : Record α) : Decoder (α × List (String × Json)) where
  form := .record .loose record r.fields
  ofJson
    | .obj ms => do
      let a ← (r.read (.ofMembers ms true)).result
      return (a, ms.filter fun m => m.1 ∉ r.names)
    | j => .error (.ofJson j ("struct " ++ record))

/-- Reads a text from end to end, or says why and where that stops. -/
def ofText (d : Decoder α) (s : String) : Except Json.Stop α := do
  let (j, rest) ← d.form.take s.toList
  let a ← Json.judged (d.ofJson j) rest
  Json.finished rest
  return a

end Decoder

end FolderGrants
