import LexisFront.CommandLine

/-!
# The program

Reads the environment and the named file, runs the command on them, and writes what it says.
-/

namespace LexisFront.Main

/-- The variables that are set, of those that are read. -/
def readEnvironment : IO Environment :=
  Environment.names.filterMapM fun name => do
    return (← IO.getEnv name).map fun value => (name, value)

/-- What a path leads to. -/
def readEntry (path : String) : IO Entry := do
  try
    let full ← IO.FS.realPath path
    match (← full.metadata).type with
    | .file => return .file full.toString (← IO.FS.readBinFile full)
    | _ => return .directory
  catch _ =>
    return .missing

/-- Writes a line to the error channel. -/
def writeReport : ReportLine → IO Unit
  | .text text => IO.eprintln text
  | .record value => IO.eprintln value.compact

end LexisFront.Main

open LexisFront in
/-- Runs the command. -/
def main (arguments : List String) : IO UInt32 := do
  let environment ← Main.readEnvironment
  let entry ← match Options.ofArguments arguments with
    | .ok { file := some path, .. } => Main.readEntry path
    | _ => pure Entry.missing
  match CommandLine.run? "lexis" environment (fun _ => entry) arguments with
  | none => return 101
  | some outcome =>
    outcome.report.forM Main.writeReport
    IO.print outcome.output
    return UInt32.ofNat outcome.status
