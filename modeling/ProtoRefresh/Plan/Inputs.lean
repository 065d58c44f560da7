-- The input files of a plan. A pattern stands for the files that it
-- matches, and for itself where there are none, so that the compiler
-- reports what is missing.
import ProtoRefresh.Glob.Listing
import ProtoRefresh.Plan.Basic

namespace ProtoRefresh.Plan

/-- The files that one input stands for. -/
def resolveInput (root : Path) (pattern : String) : Action (List String) := do
  if !Glob.isPattern pattern then return [pattern]
  let found ← Glob.listFiles root pattern
  if found.isEmpty then
    Action.log .warning ("input pattern " ++ pattern ++ " matched nothing")
    return [pattern]
  return found.map fun text => (Path.ofText text).text

/-- The files that the inputs of a plan stand for, in order. -/
def resolveInputs (plan : Plan) : Action (List String) :=
  return (← plan.inputs.mapM (resolveInput plan.root)).flatten

end ProtoRefresh.Plan
