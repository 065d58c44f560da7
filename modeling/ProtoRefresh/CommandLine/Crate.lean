-- A run for the crate alone: its directory is the only argument, and
-- every file that has been placed is told on a line of its own.
import ProtoRefresh.Plan.Crate
import ProtoRefresh.Regeneration.Regenerate

namespace ProtoRefresh.CommandLine

/-- How a run for the crate ends, and what it has printed. -/
structure Printed where
  status : Nat
  output : String
  errors : String
  deriving DecidableEq, Repr

/-- What is printed for a failure of a step, if it is one. -/
def crateFailure? : Failure → Option String
  | .version found =>
    some ("✗ " ++ versionMessage ++ " (found " ++ Text.quoted found ++ ")\n")
  | failure =>
    if failure.family = .regeneration then some ("✗ Regeneration failed: " ++ failure.message ++ "\n")
    else none

/-- The line for a placement. -/
def placementLine (placement : Relocation.Placement) : String :=
  "✓ " ++ placement.source ++ " -> " ++ placement.destination.text ++ "\n"

/-- Regenerates the crate in a directory, or else in the current one. -/
def runCrate (directory : Option String) : Action Printed := do
  let root ←
    match directory with
    | some text => pure (Path.ofText text)
    | none => Action.currentPath
  match ← Action.attempt (Regeneration.regenerate (Plan.ofCrate root) false) with
  | .ok report => return ⟨0, String.join (report.placements.map placementLine), ""⟩
  | .error failure =>
    match crateFailure? failure with
    | some message => return ⟨1, "", message⟩
    | none => throw failure

end ProtoRefresh.CommandLine
