import FolderGrants.Fault
import FolderGrants.Serving.Certificate
import FolderGrants.Serving.PrivateKey
import FolderGrants.Serving.Section
import FolderGrants.Settings.Basic

/-!
# Serving reviews

Reviews are served once the certificate and its key could be read: first both
files are read, the certificate's before the key's, then the key is looked
at, then the certificate, and then whether they belong together.  After that the
server listens, which fails if the address is taken.
-/

namespace FolderGrants

namespace Listener

/-- The fault of a server. -/
def fault (message : String) : Fault := .internal "webhook" message

/-- The fault of a certificate that cannot be loaded. -/
def loadFault (l : Listener) (why : String) : Fault :=
  fault ("failed to load serving certificate from " ++ l.certDir ++ ": " ++ why)

/-- What a file holds that must be there. -/
def readFile (l : Listener) (files : String → Option String) (path : String) :
    Except Fault String :=
  match files path with
  | some s => .ok s
  | none =>
    .error (l.loadFault
      ("failed to read from file \x60" ++ path ++ "\x60: No such file or directory (os error 2)"))

/-- Why a certificate and a key, as their files hold them, do not do for a server.
Of several certificates only the first is looked at. -/
def check (cert key : String) : Except String Unit := do
  let certs ← (Section.certificates cert).mapError Section.Flaw.message
  match Section.keys key with
  | [der] =>
    match PrivateKey.form? der with
    | none => throw "unknown or invalid key format"
    | some form =>
      match PrivateKey.publicKeyInfo? form der, certs with
      | none, _ =>
        throw "unexpected error: failed to parse private key as RSA, ECDSA, or EdDSA"
      | some _, [] => throw "peer sent no certificates"
      | some info, first :: _ =>
        let certified ← (Certificate.publicKeyInfo first).mapError fun why =>
          "invalid peer certificate: " ++ why.name
        if certified ≠ info then throw "keys may not be consistent: KeyMismatch"
  | _ => throw "private key format not supported"

/-- Loads the certificate and its key from files. -/
def load (l : Listener) (files : String → Option String) : Except Fault Unit := do
  let cert ← l.readFile files l.certPath
  let key ← l.readFile files l.keyPath
  (check cert key).mapError l.loadFault

/-- Listens on the address; `addr` is how the address is shown. -/
def listen (addr : String) (occupied : Bool) : Except Fault Unit :=
  if occupied then
    .error (fault ("server on " ++ addr ++ " failed: Address already in use (os error 98)"))
  else .ok ()

end Listener

end FolderGrants
