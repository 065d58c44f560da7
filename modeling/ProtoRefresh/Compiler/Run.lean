-- Runs of the compiler: one that describes the inputs, and one that
-- generates sources from them.
import ProtoRefresh.Compiler.Descriptor
import ProtoRefresh.Compiler.ImportPath

namespace ProtoRefresh.Compiler

/-! ## Describing -/

/-- A source file as the compiler sees it. -/
structure FileDescription where
  name : String
  package : String
  dependency : List String
  deriving DecidableEq, Repr

structure Description where
  /-- Each input as the include path names it. -/
  relativePaths : List String
  /-- The inputs and all that they import. -/
  files : List FileDescription
  deriving DecidableEq, Repr

/-- The names of a described file as texts. -/
def RawFile.describe (file : RawFile) : Action FileDescription :=
  return ⟨← Action.decode file.name, ← Action.decode file.package,
    ← file.dependency.mapM Action.decode⟩

/-- Takes a directory away with all below it, whatever is there. -/
def discard (p : Path) : Action Unit :=
  modify fun host => { host with tree := host.tree.eraseBelow p.parts }

/-- Has the compiler write a description, which comes with its answer, into a directory and reads
it back. -/
def Setup.describeIn (setup : Setup) (directory : Path) : Action Content := do
  let file := directory.child "descriptor_set.pb"
  let argv :=
    [setup.compiler, "--descriptor_set_out=" ++ file.text, "--include_imports"] ++
      setup.sourceArguments
  let answer := (← get).responses.head?
  let _ ← Action.runCommand argv (setup.directory.map Path.text) false
  if let some content := answer.bind Response.descriptors then
    Action.leave Path.here [⟨file, .file content⟩]
  Action.readFile file

/-- Has the compiler describe the inputs, in a directory that is gone afterwards. -/
def Setup.describe (setup : Setup) : Action Description := do
  let relativePaths ← Action.ofExcept setup.relativePaths
  let host ← get
  Action.ensureDirectory host.scratch
  let content ← tryCatch (setup.describeIn host.scratch) fun failure => do
    discard host.scratch
    throw failure
  discard host.scratch
  match rawFiles? content with
  | none => Action.fail .descriptors
  | some files => return ⟨relativePaths, ← files.mapM RawFile.describe⟩

/-! ## Generating -/

/-- Runs the compiler; the output directory is made first. -/
def Setup.run (setup : Setup) : Action Unit := do
  let argv ← Action.ofExcept setup.command
  let outDir := setup.outDir.getD Path.here
  Action.ensureDirectory (setup.locate outDir)
  let _ ← Action.runCommand argv (setup.directory.map Path.text) false
  Action.log .debug
    ("generated " ++ toString setup.inputs.length ++ " input(s) into " ++ outDir.text)

/-- Runs the compiler for a script: a failed step or a refused value is logged and ends the script
with status 1. -/
def Setup.runFromScript (setup : Setup) : Action Unit :=
  tryCatch setup.run fun failure => do
    match failure.family with
    | .regeneration | .value =>
      Action.log .error ("codegen failed: " ++ failure.message)
      throw (.exit 1)
    | _ => throw failure

end ProtoRefresh.Compiler
