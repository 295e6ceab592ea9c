import Latchkey.Daemon

set_option autoImplicit false

/-! # Command line

Shows the settings that the daemon starts with in the working directory, or what keeps it from
starting as far as that can be told without the database. -/

namespace Latchkey.CommandLine

/-- The text of a file, if there is one. -/
def textOf? (name : String) : IO (Option String) := do
  try return some (← IO.FS.readFile name) catch _ => return none

/-- The variables of the process and their values. -/
def bindings : IO (List (String × String)) := do
  let bytes ← try IO.FS.readBinFile "/proc/self/environ" catch _ => return []
  let entries := ((String.fromUTF8? bytes).getD "").splitOn (Char.toString '\x00')
  return entries.filterMap fun entry =>
    match entry.splitOn "=" with
    | name :: first :: more => some (name, "=".intercalate (first :: more))
    | _ => none

/-- The files that may hold settings. -/
def files : IO (List (String × String)) := do
  let names := [Environment.development, .staging, .production].flatMap fun e =>
    e.fileName :: Sources.FileFormat.all.map fun format => e.fileName ++ "." ++ format.extension
  let found ← names.mapM fun name => return (← textOf? name).map (name, ·)
  return found.filterMap id

/-- The settings, or what keeps the daemon from starting with them. -/
def settings : IO (Except Daemon.StartFault Settings) := do
  let assignments := (← textOf? ".env").getD ""
  let sources : Sources := ⟨← files, ← bindings⟩
  return do
    let settings ← (sources.load assignments).mapError .settings
    (Database.connect settings.database (.ok ())).mapError .connection
    let _ ← Daemon.schedule settings.scheduler
    return settings

end Latchkey.CommandLine

open Latchkey in
/-- Shows the settings and answers zero, or reports a fault and answers its code. -/
def main : IO UInt32 := do
  match ← CommandLine.settings with
  | .ok settings =>
    IO.println settings.toJson.toText
    return 0
  | .error fault =>
    fault.report?.forM fun line => IO.eprintln line
    return fault.exitCode.toUInt32
