import FolderGrants.Serving.Base64
import FolderGrants.Text.Quoted

/-!
# Sections of a text file

A text file holds certificates and keys in sections.  A section stands between
a line that begins it and a line that ends it, both of which say what the
section is; its lines are data in base 64.  What stands outside sections is a
remark, and so is a section with an unknown label.

A line that begins a section within another gives the section its label and
leaves the data that have been read.
-/

namespace FolderGrants

/-- A section of a text file with certificates and keys. -/
structure Section where
  label : String
  data : Bytes
  deriving DecidableEq, Repr

namespace Section

/-- What is wrong with a section. -/
inductive Flaw where
  /-- A line begins a section and does not end as it must. -/
  | opening (line : String)
  /-- No line ends the section. -/
  | unclosed (label : String)
  | data (why : Base64.Flaw)
  deriving DecidableEq, Repr

namespace Flaw

/-- What is said of a flaw. -/
def message : Flaw → String
  | opening line => "illegal section start: " ++ Text.quoted line
  | unclosed label => "section end " ++ Text.quoted label ++ " missing"
  | data why => why.name

end Flaw

/-- The label of certificates. -/
def certificate : String := "CERTIFICATE"

/-- The labels of private keys. -/
def privateKeys : List String := ["RSA PRIVATE KEY", "PRIVATE KEY", "EC PRIVATE KEY"]

/-- The labels of sections that count. -/
def known : List String :=
  [certificate, "PUBLIC KEY", "X509 CRL", "CERTIFICATE REQUEST", "ECHCONFIG"] ++ privateKeys

/-- The lines of a text, each with the line end that closes it. -/
def lines : (line : List Char) → List Char → List (List Char)
  | line, [] => if line.isEmpty then [] else [line.reverse]
  | line, c :: rest =>
    if c = '\n' ∨ c = '\r' then (c :: line).reverse :: lines [] rest else lines (c :: line) rest

/-- What a line that begins a section starts with. -/
def opening : List Char := "-----BEGIN ".toList

/-- The end of a line, read backwards as far as there are dashes and blanks: how
many dashes there are, and what stands before the first of them. -/
def trailer : List Char → Nat × List Char
  | [] => (0, [])
  | c :: rest =>
    if c = '-' then
      let (n, before) := trailer rest
      (n + 1, if n = 0 then rest else before)
    else if c = '\n' ∨ c = '\r' ∨ c = ' ' then trailer rest
    else (0, c :: rest)

/-- The label of a line that begins a section: what stands before the five
dashes at its end. -/
def label? (line : List Char) : Option String :=
  let (dashes, before) := trailer line.reverse
  if dashes = 5 then some (String.ofList (before.reverse.drop opening.length)) else none

/-- Whether a line ends the section with the label. -/
def closes (label : String) (line : List Char) : Bool :=
  ("-----END " ++ label ++ "-----").toList.isPrefixOf line

/-- The sections of lines in order; `within` is the label of the section that has
begun and what has been read of it. -/
def ofLines : (within : Option (String × List Char)) → List (List Char) →
    List (Except Flaw Section)
  | none, [] => []
  | some (label, _), [] => [.error (.unclosed label)]
  | within, line :: rest =>
    if opening.isPrefixOf line then
      match label? line with
      | none => .error (.opening (String.ofList line)) :: ofLines none rest
      | some label => ofLines (some (label, within.elim [] (·.2))) rest
    else
      match within with
      | none => ofLines none rest
      | some (label, cs) =>
        if closes label line then
          if known.contains label then
            (match Base64.decode cs with
              | .ok data => .ok ⟨label, data⟩
              | .error why => .error (.data why)) :: ofLines none rest
          else ofLines none rest
        else ofLines (some (label, cs ++ line)) rest

/-- The sections of a text in order. -/
def ofText (s : String) : List (Except Flaw Section) := ofLines none (lines [] s.toList)

/-- The certificates of a text; a flaw of any section is in the way. -/
def certificates (s : String) : Except Flaw (List Bytes) := do
  let all ← (ofText s).mapM id
  return (all.filter (·.label == certificate)).map (·.data)

/-- The private keys of a text; sections with flaws do not count. -/
def keys (s : String) : List Bytes :=
  let all := (ofText s).filterMap Except.toOption
  (all.filter fun s => privateKeys.contains s.label).map (·.data)

end Section

end FolderGrants
