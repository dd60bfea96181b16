import FolderGrants.Instant.Basic
import FolderGrants.Json.Printer
import FolderGrants.Program.Basic
import Std.Time.DateTime.Timestamp

/-!
# The command line

Runs the program on the words of its command line and the variables around it.
-/

namespace FolderGrants

/-- The variables that the program looks at. -/
def Program.variables : List String :=
  (Settings.flags.filterMap (·.fallback)) ++ ["RUST_LOG", "KUBECONFIG", "HOME"]

/-- The current time. -/
def currentTime : IO String := do
  let nanos := (← Std.Time.Timestamp.now).toNanosecondsSinceUnixEpoch.val
  return (Instant.mk (nanos / 1000000000) (nanos % 1000000000).toNat).toText

/-- An entry as a line of the log. -/
def Log.Entry.written (format : Log.Format) (time : String) (e : Log.Entry) : String :=
  match format with
  | .json => (e.encode (some time)).print
  | .text => e.line time

end FolderGrants

open FolderGrants in
/-- The program. -/
def main (words : List String) : IO UInt32 := do
  let found ← Program.variables.mapM fun name => return (name, ← IO.getEnv name)
  let report := Program.run (fun name => (found.lookup name).join) words
  for line in report.lines do
    IO.println line
  for entry in report.log do
    IO.println (entry.written report.logFormat (← currentTime))
  for line in report.complaints do
    IO.eprintln line
  return report.code.toUInt32
