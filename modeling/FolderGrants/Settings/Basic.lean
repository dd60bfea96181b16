import FolderGrants.CommandLine.Reader
import FolderGrants.Log.Basic
import FolderGrants.Review.Authority

/-!
# Settings

How the operator runs: whether and where it serves reviews, whom it trusts,
and how it writes its log.  Settings are made by flags; the ones that matter
where the program is deployed can be made by variables too.
-/

namespace FolderGrants

open CommandLine (Flag Found Value Choice)

/-- Where reviews are served, and where the certificate for that is kept. -/
structure Listener where
  addr : SocketAddress := .four ⟨0, 0, 0, 0⟩ 9443
  certDir : String := "/tmp/k8s-webhook-server/serving-certs"
  deriving DecidableEq, Repr, Inhabited

namespace Listener

/-- The listener unless another is set. -/
def standard : Listener := {}

/-- The path of a file in a directory. -/
def fileIn (dir name : String) : String :=
  if dir.isEmpty ∨ dir.toList.getLast? = some '/' then dir ++ name else dir ++ "/" ++ name

/-- The certificate. -/
def certPath (l : Listener) : String := fileIn l.certDir "tls.crt"

/-- The private key. -/
def keyPath (l : Listener) : String := fileIn l.certDir "tls.key"

end Listener

/-- How the operator runs. -/
structure Settings where
  /-- Absent if no reviews are served. -/
  webhook : Option Listener := some {}
  trusted : List String := Authority.defaultTrusted
  logFormat : Log.Format := .json
  deriving DecidableEq, Repr, Inhabited

namespace Settings

def addrFlag : Flag where
  name := "webhook-addr"
  valueName := "WEBHOOK_ADDR"
  form := .address
  fallback := some "FOLDERS_WEBHOOK_ADDR"
  standard := some Listener.standard.addr.text
  help := ["Admission webhook listen address"]

def certDirFlag : Flag where
  name := "cert-dir"
  valueName := "CERT_DIR"
  form := .path
  fallback := some "FOLDERS_CERT_DIR"
  standard := some Listener.standard.certDir
  help := ["Directory containing the webhook's tls.crt and tls.key"]

def trustedFlag : Flag where
  name := "trusted-identity"
  valueName := "TRUSTED_IDENTITIES"
  form := .texts
  fallback := some "FOLDERS_TRUSTED_IDENTITIES"
  help :=
    ["Identity allowed to delete FolderTrees unchecked (repeatable)",
     "Defaults to the controller service account and system:admin."]

def disableFlag : Flag where
  name := "disable-webhook"
  help := ["Run without the admission webhook"]

def logFormatFlag : Flag where
  name := "log-format"
  valueName := "LOG_FORMAT"
  form := .choice [⟨"json", "One JSON object per line"⟩, ⟨"text", "Human-readable lines"⟩]
  standard := some "json"
  help := ["Log output format"]

/-- The flags that make the settings. -/
def flags : List Flag := [addrFlag, certDirFlag, trustedFlag, disableFlag, logFormatFlag]

/-- A command that takes these flags and nothing else. -/
def command : CommandLine.Command where
  path := "folders"
  about :=
    ["Controller flags",
     "Global so they can be given with or without the \x60controller\x60 subcommand."]
  flags := flags
  groups := [flags]

/-- The values of a flag. -/
def valuesOf (found : List Found) (f : Flag) : List Value :=
  ((found.find? fun e => e.flag.name == f.name).map (·.values)).getD []

/-- The texts among values. -/
def texts (values : List Value) : List String :=
  values.filterMap fun v =>
    match v with
    | .text s => some s
    | .address _ => none

/-- The listener that flags make. -/
def listenerOf (found : List Found) : Listener where
  addr :=
    match valuesOf found addrFlag with
    | .address a :: _ => a
    | _ => Listener.standard.addr
  certDir := (texts (valuesOf found certDirFlag)).headD Listener.standard.certDir

/-- The settings that flags make. -/
def ofFound (found : List Found) : Settings where
  webhook :=
    if found.any fun e => e.flag.name == disableFlag.name then none else some (listenerOf found)
  trusted :=
    let named := texts (valuesOf found trustedFlag)
    if named.isEmpty then Authority.defaultTrusted else named
  logFormat := if texts (valuesOf found logFormatFlag) = ["text"] then .text else .json

end Settings

end FolderGrants
