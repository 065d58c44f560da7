-- A run of the command line: the arguments tell the plan, the
-- regeneration is run, and its report or its failure is shown on a
-- console of some width. The status tells whether all went well and, of
-- a check, whether nothing was out of date.
import ProtoRefresh.CommandLine.Arguments
import ProtoRefresh.CommandLine.Report
import ProtoRefresh.Plan.Crate
import ProtoRefresh.Plan.Loading

namespace ProtoRefresh.CommandLine

/-! ## Endings -/

/-- How a run ends, with the lines that it has shown. -/
inductive Ending
  /-- The arguments left nothing to run. -/
  | stopped (stop : Stop)
  | failed (failure : Failure) (lines : List String)
  | reported (outOfDate : Bool) (lines : List String)
  deriving DecidableEq, Repr

def Ending.status : Ending → Nat
  | .stopped stop => stop.status
  | .failed _ _ => 1
  | .reported outOfDate _ => if outOfDate then 1 else 0

def Ending.lines : Ending → List String
  | .stopped _ => []
  | .failed _ lines => lines
  | .reported _ lines => lines

/-- Whether a failure is shown to the user. Others are faults of the program. -/
def isShown (failure : Failure) : Bool := failure.family != .other

/-! ## Runs -/

/-- The plan that arguments ask for: the one in a file, at the root that is given, or the plan for
the crate. -/
def planOf (arguments : Arguments) : Action Plan := do
  match arguments.config.filter (· != "") with
  | some file => do
    let plan ← Plan.load (Path.ofText file)
    return match arguments.root.filter (· != "") with
      | some root => { plan with root := Path.ofText root }
      | none => plan
  | none =>
    match arguments.root with
    | some root => return Plan.ofCrate (Path.ofText root)
    | none => return Plan.ofCrate (← Action.currentPath)

/-- The ending of a run that has a report. -/
def endingOf (width : Nat) (arguments : Arguments) (report : Regeneration.Report) :
    Action Ending := do
  let lines ← Action.ofExcept (reportLines width report.version report.placements arguments.check)
  let outOfDate := arguments.check && !report.changed.isEmpty
  if outOfDate then
    Action.log .error (toString report.changed.length ++ " file(s) out of date")
  return .reported outOfDate lines

/-- Regenerates as arguments ask for. -/
def runArguments (width : Nat) (arguments : Arguments) : Action Ending := do
  let report := do Regeneration.regenerate (← planOf arguments) arguments.check
  match ← Action.attempt report with
  | .ok report => endingOf width arguments report
  | .error failure =>
    if isShown failure then
      return .failed failure (← Action.ofExcept (failureLines width failure))
    throw failure

/-- Whether a record is logged: details are logged only where they are asked for. -/
def isLogged (arguments : Arguments) (entry : LogRecord) : Bool :=
  arguments.verbose || entry.level != .debug

/-- Runs the command line on the texts of its arguments. -/
def run (width : Nat) (texts : List String) : Action Ending := do
  match Arguments.ofTexts texts with
  | .error stop => return .stopped stop
  | .ok arguments => Action.keepingLog (isLogged arguments) (runArguments width arguments)

end ProtoRefresh.CommandLine
