/-!
# What is wrong with a text that is not JSON

A text that is not JSON has one flaw that counts, the first that a reader from
the left comes upon.
-/

namespace FolderGrants.Json

/-- What is wrong with a text that is not JSON. -/
inductive Flaw where
  | endsInValue
  | endsInString
  | endsInArray
  | endsInObject
  /-- No value starts here. -/
  | noValue
  /-- A word is none of `null`, `true` and `false`. -/
  | noWord
  | noNumber
  /-- A number is too large to be held. -/
  | tooLarge
  /-- A name has no quotes. -/
  | noName
  | noColon
  /-- The items of an array are not divided. -/
  | undividedItems
  /-- The members of an object are not divided. -/
  | undividedMembers
  /-- Nothing follows a comma. -/
  | openComma
  | badEscape
  /-- Half of a pair stands alone. -/
  | loneHalf
  /-- A pair is not gone on with. -/
  | brokenPair
  /-- A control character stands in a string. -/
  | control
  /-- Too many arrays and objects stand in one another. -/
  | tooDeep
  /-- Something follows the value. -/
  | moreText
  deriving DecidableEq, Repr, Inhabited

/-- The wording of a flaw. -/
def Flaw.message : Flaw → String
  | endsInValue => "EOF while parsing a value"
  | endsInString => "EOF while parsing a string"
  | endsInArray => "EOF while parsing a list"
  | endsInObject => "EOF while parsing an object"
  | noValue => "expected value"
  | noWord => "expected ident"
  | noNumber => "invalid number"
  | tooLarge => "number out of range"
  | noName => "key must be a string"
  | noColon => "expected \x60:\x60"
  | undividedItems => "expected \x60,\x60 or \x60]\x60"
  | undividedMembers => "expected \x60,\x60 or \x60\x7d\x60"
  | openComma => "trailing comma"
  | badEscape => "invalid escape"
  | loneHalf => "lone leading surrogate in hex escape"
  | brokenPair => "unexpected end of hex escape"
  | control => "control character (\\u0000-\\u001F) found while parsing a string"
  | tooDeep => "recursion limit exceeded"
  | moreText => "trailing characters"

end FolderGrants.Json
