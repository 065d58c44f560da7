-- The regeneration of sources by a plan: the version of the compiler is
-- checked before anything else runs, helpers are built, the compiler
-- generates into a fresh directory, the markers in what it generated are
-- rewritten, and the files move to their places. The first step that
-- fails ends the run.
import ProtoRefresh.Compiler.Run
import ProtoRefresh.Plan.Inputs
import ProtoRefresh.Relocation.Relocate
import ProtoRefresh.Rewrite.File
import ProtoRefresh.Toolchain.Commands

namespace ProtoRefresh.Regeneration

/-! ## Reports -/

structure Report where
  version : String
  /-- The generated files, seen from the generation directory. -/
  generated : List String
  /-- Those of them that rewriting changed. -/
  rewritten : List String
  placements : List Relocation.Placement
  deriving DecidableEq, Repr

/-- The placements that change the source tree. -/
def Report.changed (report : Report) : List Relocation.Placement :=
  report.placements.filter fun placement => placement.changed

/-! ## Steps -/

/-- The directory that a plan generates into. -/
def generationDir (plan : Plan) : Path := plan.root.joinText plan.generationDir

/-- Makes a directory that holds nothing. -/
def makeFresh (directory : Path) : Action Unit := do
  if ← Action.pathExists directory then Action.removeTree directory
  Action.makeNewDirectory directory

/-- The settings of the compiler for a plan, without its inputs. -/
def settings (plan : Plan) (toolchain : Toolchain) : List Compiler.Setting :=
  [.directory plan.root, .toolchain toolchain, .outDir (Path.ofText plan.generationDir),
   .options plan.options, .includeDirs (plan.includes.map Path.ofText)]

/-- Runs the compiler for a plan. -/
def compile (plan : Plan) (toolchain : Toolchain) : Action Unit := do
  let settings := settings plan toolchain
  if settings.any Compiler.Setting.isRefused then Action.fail .wrongType
  let inputs ← plan.resolveInputs
  (Compiler.Setup.ofSettings (settings ++ [.inputs (inputs.map Path.ofText)])).run

/-- The text of a path seen from a directory that it starts with. -/
def textBelow (directory p : Path) : String := ((p.relativeTo? directory).getD p).text

/-- The pattern for the names of generated files. -/
def generatedPattern (plan : Plan) : String := "*" ++ plan.generatedSuffix

/-- The generated files, by code points. -/
def listGenerated (plan : Plan) : Action (List String) := do
  let directory := generationDir plan
  let files ← Glob.searchBelow directory (generatedPattern plan)
  let texts := (files.map (textBelow directory)).mergeSort fun a b => decide (a ≤ b)
  Action.log .info
    ("generated " ++ toString texts.length ++ " file(s) in " ++ directory.text)
  return texts

/-! ## The whole run -/

/-- Everything up to the relocation: the version, the generated files and the rewritten ones. -/
def generate (plan : Plan) : Action (String × List String × List Path) := do
  let version ← compilerVersion plan.versionCompiler (some plan.root.text)
  checkVersion version plan.versionStart
  let toolchain ← plan.toolchain
  makeFresh (generationDir plan)
  compile plan toolchain
  let generated ← listGenerated plan
  let rules ← Action.ofExcept (plan.rules.mapError Failure.pattern)
  let rewritten ← Rewrite.rewriteTree (generationDir plan) rules (generatedPattern plan)
  return (version, generated, rewritten)

/-- Regenerates sources by a plan. A check leaves the source tree as it is. -/
def regenerate (plan : Plan) (check : Bool) : Action Report := do
  let (version, generated, rewritten) ← generate plan
  let directory := generationDir plan
  let placements ← Relocation.relocate directory plan.root plan.moves check
  return ⟨version, generated, rewritten.map (textBelow directory), placements⟩

end ProtoRefresh.Regeneration
