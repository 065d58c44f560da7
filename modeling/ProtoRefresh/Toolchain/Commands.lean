-- The commands that are run before the compiler: the check of its version
-- and the helper builds.
import ProtoRefresh.Plan.Basic
import ProtoRefresh.Toolchain.Basic

namespace ProtoRefresh

/-! ## The version -/

/-- What the compiler says about its version. -/
def compilerVersion (compiler : String) (directory : Option String) : Action String :=
  return Text.trimmed (← Action.runCommand [compiler, "--version"] directory true)

/-- Fails unless a version starts as it has to. -/
def checkVersion (version start : String) : Action Unit := do
  if !start.toList.isPrefixOf version.toList then Action.fail (.version version)
  Action.log .debug
    ("protoc version " ++ Text.quoted version ++ " matches " ++ Text.quoted start)

/-! ## Helpers -/

/-- The command that builds a helper; an empty program name is none. -/
def Helper.buildCommand (helper : Helper) : List String :=
  ["cargo", "build", "--manifest-path=" ++ helper.manifest] ++
    match helper.bin.filter (· != "") with
    | some bin => ["--bin", bin]
    | none => []

/-- The command that builds and runs a helper. -/
def Helper.runCommand (helper : Helper) : List String :=
  ["cargo", "run", "--manifest-path=" ++ helper.manifest, "--bin", helper.bin.getD "None"]

/-- Builds a helper. -/
def Helper.build (helper : Helper) (directory : Option String) : Action Unit := do
  let _ ← Action.runCommand helper.buildCommand directory false

/-- Builds and runs a helper and gives what it printed. -/
def Helper.run (helper : Helper) (directory : Option String) : Action String :=
  return Text.trimmed (← Action.runCommand helper.runCommand directory true)

/-- Builds the helpers of a plan and finds its toolchain. -/
def Plan.toolchain (plan : Plan) : Action Toolchain := do
  let directory := some plan.root.text
  plan.helpers.forM fun helper => helper.build directory
  let compiler ←
    match plan.compilerFinder with
    | none => pure "protoc"
    | some finder => do
      let compiler ← finder.run directory
      Action.log .info ("using protoc " ++ compiler)
      pure compiler
  Toolchain.ofWorkspace (plan.root.joinText plan.workspace) compiler plan.lang none

end ProtoRefresh
