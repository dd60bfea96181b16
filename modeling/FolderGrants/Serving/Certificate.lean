import FolderGrants.Serving.Der

/-!
# Certificates

A certificate says whom a public key belongs to, and is signed.  Only its shape
is looked at here, and that no extension is critical that is not known; what it
says is not judged.
-/

namespace FolderGrants.Certificate

open Der

/-- What is wrong with a certificate. -/
inductive Flaw where
  | encoding
  /-- It is not of the third version. -/
  | version
  /-- It names two algorithms for its signature. -/
  | algorithm
  /-- An extension is critical and not known. -/
  | criticalExtension
  /-- A known extension stands twice. -/
  | repeatedExtension
  deriving DecidableEq, Repr

namespace Flaw

/-- How a flaw is named. -/
def name : Flaw → String
  | encoding => "BadEncoding"
  | version => "Other(OtherError(UnsupportedCertVersion))"
  | algorithm => "Other(OtherError(SignatureAlgorithmMismatch))"
  | criticalExtension => "Other(OtherError(UnsupportedCriticalExtension))"
  | repeatedExtension => "Other(OtherError(ExtensionValueInvalid))"

end Flaw

/-- What was read, or else the encoding is bad. -/
def read {α : Type} (r : Option α) : Except Flaw α :=
  match r with
  | some x => .ok x
  | none => .error .encoding

/-- What the identifiers of known extensions start with. -/
def extensionArc : Bytes := [0x55, 0x1D]

/-- How the usage of the key is identified, which is the one known extension whose
value is no sequence. -/
def keyUsage : Bytes := extensionArc ++ [15]

/-- The identifiers of known extensions. -/
def knownExtensions : List Bytes :=
  keyUsage :: [17, 19, 30, 31, 37].map fun n => extensionArc ++ [n]

/-- Reads an extension's content after those with the identifiers `seen`. -/
def extension (seen : List Bytes) (content : Bytes) : Except Flaw (List Bytes) := do
  let (name, rest) ← read (read? identifier content)
  let (critical, rest) ← read (optional? boolean rest)
  let critical ← match critical with
    | none => pure false
    | some [0xFF] => pure true
    | some [0x00] => pure false
    | some _ => throw .encoding
  let value ← read (only? octetString rest)
  if knownExtensions.contains name then
    if seen.contains name then throw .repeatedExtension
    if name ≠ keyUsage then
      let _ ← read (only? sequence value)
    return name :: seen
  else if critical then throw .criticalExtension
  else return seen

/-- Reads extensions one after the other. -/
def extensions : (fuel : Nat) → (seen : List Bytes) → Bytes → Except Flaw Unit
  | 0, _, _ => .ok ()
  | fuel + 1, seen, bs =>
    if bs.isEmpty then .ok ()
    else do
      let (content, rest) ← read (read? sequence bs)
      let seen ← extension seen content
      extensions fuel seen rest

/-- Reads the version, which must be the third. -/
def version (bs : Bytes) : Except Flaw Bytes := do
  match read? (context 0) bs with
  | none => throw .version
  | some (content, rest) =>
    let (n, after) ← read (natural? content)
    if n < 256 then
      if n = 2 ∧ after.isEmpty then return rest else throw .version
    else throw .encoding

/-- What a certificate says of its public key. -/
def publicKeyInfo (der : Bytes) : Except Flaw Bytes := do
  let whole ← read (only? sequence der)
  let (said, rest) ← read (read? sequence whole)
  let (algorithm, rest) ← read (read? sequence rest)
  let _ ← read ((only? bitString rest).bind wholeBytes?)
  let rest ← version said
  let (_, rest) ← read (read? integer rest)
  let (signature, rest) ← read (read? sequence rest)
  if signature ≠ algorithm then throw .algorithm
  let (_, rest) ← read (read? sequence rest)
  let (_, rest) ← read (read? sequence rest)
  let (_, rest) ← read (read? sequence rest)
  let (info, rest) ← read (read? sequence rest)
  if rest.isEmpty then return info
  let all ← read ((only? (context 3) rest).bind (only? sequence))
  extensions all.length [] all
  return info

end FolderGrants.Certificate
