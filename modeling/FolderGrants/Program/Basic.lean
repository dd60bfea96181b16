import FolderGrants.CommandLine.Help
import FolderGrants.Json.Yaml
import FolderGrants.Log.Filter
import FolderGrants.Settings.Basic
import FolderGrants.Tree.Definition

/-!
# The program

What the command line does: it shows the definition of folder trees, it shows
help, or it starts the operator.  The operator logs that it starts, as far as
the log filter lets it, and ends with a complaint if there is no cluster to
connect to.
-/

namespace FolderGrants

open CommandLine (Command Environment Flag Refused)

/-- What a run of the program writes, and how it ends. -/
structure Report where
  code : Nat
  /-- The lines written before the log. -/
  lines : List String := []
  log : List Log.Entry := []
  logFormat : Log.Format := .json
  complaints : List String := []
  deriving Repr

namespace Program

/-- Shows the definition of folder trees. -/
def definitionFlag : Flag where
  name := "crd"
  help := ["Generate CRD manifests and exit"]

/-- Starts the operator. -/
def controller : Command where
  path := "folders controller"
  about :=
    ["Run as controller (default mode)",
     "Reconciles FolderTrees into RoleBindings and, unless disabled, serves the validating " ++
       "admission webhook that blocks privilege escalation."]
  flags := Settings.flags

/-- The command. -/
def command : Command where
  path := "folders"
  about := ["Folders - FolderTree-driven RoleBinding management"]
  flags := definitionFlag :: Settings.flags
  groups := [[definitionFlag], Settings.flags]
  version := some "folders 0.1.0"
  parts :=
    [("controller", "Run as controller (default mode)"),
     ("help", CommandLine.Command.helpAbout)]

/-- The part of that name. -/
def part? (name : String) : Option Command :=
  if name = "controller" then some controller else none

/-- Where the description of the cluster is looked for: at the first path that is
set, or else below the home directory. -/
def kubeconfigPath (env : Environment) : String :=
  let paths := (((env "KUBECONFIG").getD "").splitOn ":").filter (· ≠ "")
  paths.head?.getD (Listener.fileIn ((env "HOME").getD "") ".kube/config")

/-- What reading a file comes to that is not there. -/
def noFile : String := "No such file or directory (os error 2)"

/-- Why the description of the cluster was not read, where there is none. -/
def noDescription (env : Environment) : String :=
  "failed to read kubeconfig from '" ++ Text.quotedPath (kubeconfigPath env) ++ "': " ++ noFile

/-- Why no cluster was found, where none is described. -/
def noCluster (env : Environment) : String :=
  "failed to infer config: in-cluster: (failed to read an incluster environment variable: " ++
    "environment variable not found), kubeconfig: (" ++ noDescription env ++ ")"

/-- What the operator logs until it ends because no cluster is described. -/
def entries (env : Environment) : List Log.Entry :=
  [⟨"folders", .info, "Folders controller starting...", [], []⟩,
   ⟨"kube_client::config", .trace,
    "no local config found, falling back to local in-cluster config",
    [("error", .failure (noDescription env) [noFile])], []⟩]

/-- Starts the operator where no cluster is described. -/
def start (env : Environment) (s : Settings) : Report where
  code := 1
  log := (entries env).filterMap (Log.Filter.ofSetting (env "RUST_LOG")).log
  logFormat := s.logFormat
  complaints := ["Error: Failed to load Kubernetes config: " ++ noCluster env]

/-- What a refused command line leads to. -/
def refuse (env : Environment) : Refused → Report
  | .misuse m => { code := 2, complaints := m.lines }
  | .help c full => { code := 0, lines := c.helpLines env full }
  | .version text => { code := 0, lines := [text] }

/-- Runs the program on the words of a command line. -/
def run (env : Environment) (words : List String) : Report :=
  match command.read part? env words with
  | .error r => refuse env r
  | .ok found =>
    if found.any fun e => e.flag.name == definitionFlag.name then
      { code := 0, lines := Json.Yaml.lines FolderTree.definition ++ [""] }
    else start env (Settings.ofFound found)

end Program

end FolderGrants
