/-!
# Media types

The essence of a content type: `type "/" subtype`, perhaps with a suffix
after a plus sign, and parameters after semicolons.  Letters count without
case.  A content type is JSON when its subtype or its suffix is.
-/

namespace FolderGrants.MediaType

/-- The characters of a token. -/
def isTokenChar (c : Char) : Bool :=
  c.isAlphanum || c ∈ "!#$%&'*+-.^_\x60|~".toList

/-- Skips the blanks before a parameter. -/
def skipBlanks (cs : List Char) : List Char := cs.dropWhile (· = ' ')

/-- What stands after the value of a parameter; none if the value is no token
and no quoted text. -/
def afterValue : List Char → Option (List Char)
  | '"' :: rest =>
    let text := rest.takeWhile fun c => 0x20 ≤ c.toNat && c.toNat < 0x7F && c != '"'
    match rest.drop text.length with
    | '"' :: rest => if text.isEmpty then none else some (skipBlanks rest)
    | _ => none
  | cs =>
    let value := cs.takeWhile isTokenChar
    some (cs.drop value.length)

/-- Whether the parameters after the first semicolon are well formed; `fuel`
bounds their number. -/
def parametersFit : (fuel : Nat) → List Char → Bool
  | 0, _ => false
  | fuel + 1, cs =>
    match skipBlanks cs with
    | [] => true
    | cs =>
      let name := cs.takeWhile isTokenChar
      match cs.drop name.length with
      | '=' :: value =>
        if name.isEmpty then false
        else
          match afterValue value with
          | some [] => true
          | some (';' :: rest) => value.head? != some ';' && parametersFit fuel rest
          | _ => false
      | _ => false

/-- Whether a content type stands for JSON. -/
def isJson (s : String) : Bool :=
  let cs := s.toList.map Char.toLower
  let kind := cs.takeWhile fun c => isTokenChar c
  match cs.drop kind.length with
  | '/' :: rest =>
    let subtype := rest.takeWhile fun c => isTokenChar c
    let tail := rest.drop subtype.length
    let parametersOk :=
      match tail with
      | [] => true
      | ';' :: ps => !subtype.isEmpty && parametersFit (ps.length + 1) ps
      | _ => false
    let lastPlus := subtype.drop 1 |>.reverse |>.takeWhile (· ≠ '+')
    let hasPlus := lastPlus.length < (subtype.drop 1).length
    let suffix := lastPlus.reverse
    let main := if hasPlus then subtype.take (subtype.length - suffix.length - 1) else subtype
    kind = "application".toList && parametersOk &&
      (main = "json".toList || (hasPlus && suffix = "json".toList))
  | _ => false

end FolderGrants.MediaType
