-- The program: it takes the arguments of the command line, reads the
-- description of a host from standard input, and shows what a run on that
-- host shows. The files of the host after the run go to standard output.
import ProtoRefresh.CommandLine.Run
import ProtoRefresh.Host.Snapshot

namespace ProtoRefresh

/-- How the program is used. -/
def usage : String :=
  "usage: protorefresh [--config FILE] [--root DIRECTORY] [--check] [--progress] [-v]\n" ++
    "The description of the host is read from standard input."

/-- All text on standard input. -/
def readInput : IO String := do
  let input ← IO.getStdin
  let mut text := ""
  repeat
    let line ← input.getLine
    if line.isEmpty then break
    text := text ++ line
  return text

/-- Shows what a run has shown and gives its status. -/
def showEnding (ending : CommandLine.Ending) : IO UInt32 := do
  match ending with
  | .stopped .helpGiven => IO.println usage
  | .stopped .misused => IO.eprintln usage
  | _ => ending.lines.forM IO.eprintln
  return ending.status.toUInt32

/-- The width of the console, if the environment tells it. -/
def consoleWidth : IO Nat :=
  return ((← IO.getEnv "COLUMNS").bind String.toNat?).getD 80

/-- Runs the command line on a host. -/
def runOn (host : Host) (arguments : List String) : IO UInt32 := do
  let (result, after) := ((CommandLine.run (← consoleWidth) arguments).run).run host
  after.log.forM fun entry => IO.eprintln (entry.level.name ++ " " ++ entry.message)
  after.tree.entries.forM fun entry => IO.println (Path.text ⟨1, entry.1⟩)
  match result with
  | .ok ending => showEnding ending
  | .error failure =>
    IO.eprintln failure.message
    return 1

end ProtoRefresh

def main (arguments : List String) : IO UInt32 := do
  match ProtoRefresh.Host.ofText? (← ProtoRefresh.readInput) with
  | some host => ProtoRefresh.runOn host arguments
  | none =>
    IO.eprintln ProtoRefresh.usage
    return 2
