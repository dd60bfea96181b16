import FolderGrants.Json.Reader

/-!
# Passing over values

A value that nobody looks at is passed over: brackets, commas, quotes and the
shape of words, numbers and escapes have to be right, but halves of pairs may
stand alone, numbers may be of any size, and arrays and objects may stand in
one another to any depth.  Where a comma or a bracket is wrong, the flaw is
that no value or no name follows.
-/

namespace FolderGrants.Json

/-- A string from after its opening quote. -/
def passString : List Char → Except Stop (List Char)
  | [] => .error (.before .endsInString [])
  | '"' :: rest => .ok rest
  | '\\' :: 'u' :: a :: b :: c :: d :: rest =>
    if (unit? a b c d).isSome then passString rest
    else .error (stopInHex (a :: b :: c :: d :: rest))
  | '\\' :: 'u' :: rest => .error (stopInHex rest)
  | '\\' :: c :: rest =>
    if (escaped? c).isSome then passString rest else .error (.into .badEscape (c :: rest))
  | c :: rest =>
    if c.toNat < 0x20 then .error (.before .control (c :: rest)) else passString rest

/-- A number from after its sign. -/
def passNumber (cs : List Char) : Except Stop (List Char) :=
  (numberText .noNumber false cs).map (·.2)

/-- A value without parts. -/
def passScalar : List Char → Except Stop (List Char)
  | [] => .error (.before .endsInValue [])
  | c :: rest =>
    if c = '"' then passString rest
    else if c = '-' then passNumber rest
    else if c.isDigit then passNumber (c :: rest)
    else (readScalar (c :: rest)).map (·.2)

/-- The colon after a name. -/
def passColon (cs : List Char) : Except Stop (List Char) :=
  match skipSpace cs with
  | ':' :: rest => .ok rest
  | rest => .error (.next .endsInObject .noColon rest)

mutual

/-- A value.  Every call takes a character off the text or is followed by one
that does, so twice its length is fuel enough. -/
def passValue : (fuel : Nat) → List Char → Except Stop (List Char)
  | 0, cs => .error (.before .noValue cs)
  | fuel + 1, cs =>
    match skipSpace cs with
    | '[' :: rest => passItems fuel true rest
    | '\x7b' :: rest => passMembers fuel true rest
    | rest => passScalar rest

/-- What is left of an array; `first` before its first item. -/
def passItems : (fuel : Nat) → (first : Bool) → List Char → Except Stop (List Char)
  | 0, _, cs => .error (.before .noValue cs)
  | fuel + 1, first, cs =>
    match skipSpace cs with
    | [] => .error (.before .endsInArray [])
    | ']' :: rest => .ok rest
    | c :: rest =>
      if first then passValue fuel (c :: rest) >>= passItems fuel false
      else if c = ',' then passValue fuel rest >>= passItems fuel false
      else .error (.into .undividedItems (c :: rest))

/-- What is left of an object; `first` before its first member. -/
def passMembers : (fuel : Nat) → (first : Bool) → List Char → Except Stop (List Char)
  | 0, _, cs => .error (.before .noValue cs)
  | fuel + 1, first, cs =>
    match skipSpace cs with
    | [] => .error (.before .endsInObject [])
    | '\x7d' :: rest => .ok rest
    | c :: rest =>
      if first then passMember fuel (c :: rest) >>= passMembers fuel false
      else if c = ',' then passMember fuel rest >>= passMembers fuel false
      else .error (.into .undividedMembers (c :: rest))

/-- A member of an object. -/
def passMember : (fuel : Nat) → List Char → Except Stop (List Char)
  | 0, cs => .error (.before .noValue cs)
  | fuel + 1, cs =>
    match skipSpace cs with
    | '"' :: rest => passString rest >>= passColon >>= passValue fuel
    | rest => .error (.next .endsInObject .noName rest)

end

/-- Passes over the value at the front. -/
def pass (cs : List Char) : Except Stop (List Char) := passValue (2 * cs.length + 2) cs

end FolderGrants.Json
