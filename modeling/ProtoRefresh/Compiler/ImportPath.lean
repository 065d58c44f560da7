-- The include path: where inputs lie in it, where imports are found in
-- it, and the files that the inputs reach through their imports.
import ProtoRefresh.Compiler.Setup
import ProtoRefresh.Proto.Imports

namespace ProtoRefresh.Compiler

/-! ## Places in the include path -/

/-- A path seen from an include directory, which has to hold it. The current directory holds every
relative path. -/
def relativeTo? (p start : Path) : Option Path :=
  if start = Path.here && !p.isAbsolute then some p else p.relativeTo? start

/-- An input seen from the first include directory that holds it. -/
def Setup.relativePath (setup : Setup) (p : Path) : Except Failure String :=
  match setup.includes.findSome? (relativeTo? p) with
  | some relative => .ok relative.text
  | none => .error (.imports (.outside p setup.includes))

/-- All inputs seen from the include path. -/
def Setup.relativePaths (setup : Setup) : Except Failure (List String) :=
  setup.inputs.mapM setup.relativePath

/-- The first file in the include path that an import may mean. -/
def Setup.findImport (setup : Setup) (tree : FileTree) (current : Location) (proto : String) :
    Except Failure Path :=
  let candidates := setup.includes.map fun start => setup.locate (start.joinText proto)
  match candidates.find? fun p => tree.pathExists current p with
  | some p => .ok p
  | none => .error (.imports (.notFound proto setup.includes))

/-! ## Imports -/

/-- The text that some bytes encode, each line end in it a newline. -/
def sourceText (content : Content) : Except Text.Utf8Fault String :=
  (Text.decodeUtf8 content).map Text.withNewlines

/-- The imports of a source file. -/
def importsOf (tree : FileTree) (current : Location) (file : Path) :
    Except Failure (List String) := do
  if Action.isEnded file then throw (.endedPath .opening)
  match tree.read current file with
  | .error e => throw (.imports (.unreadable file e))
  | .ok content =>
    match sourceText content with
    | .ok source => return Proto.imports source
    | .error fault => throw (.document (.undecodable fault))

/-- The seen proto paths after a file and what it imports, depth first. The number bounds how
deep imports may nest. -/
def Setup.visit (setup : Setup) (tree : FileTree) (current : Location) :
    Nat → List String → String → Path → Except Failure (List String)
  | 0, seen, _, _ => return seen
  | depth + 1, seen, proto, file => do
    if seen.contains proto then return seen
    let dependencies ← importsOf tree current file
    dependencies.foldlM
      (fun seen dependency => do
        if seen.contains dependency then return seen
        let found ← setup.findImport tree current dependency
        setup.visit tree current depth seen dependency found)
      (seen ++ [proto])

/-- How many imports the files of a tree have together. -/
def importCount (tree : FileTree) : Nat :=
  tree.entries.foldl (fun count entry =>
    match entry.2 with
    | .file content => count + (((sourceText content).map Proto.imports).toOption.getD []).length
    | .directory => count) 0

/-- The proto paths that the inputs reach, in the order in which they are first seen. -/
def Setup.reachable (setup : Setup) (tree : FileTree) (current : Location) :
    Except Failure (List String) :=
  setup.inputs.foldlM
    (fun seen p => do
      let proto ← setup.relativePath p
      setup.visit tree current (importCount tree + 2) seen proto (setup.locate p))
    []

/-- Finds every input and all that it imports in the include path. -/
def Setup.checkImports (setup : Setup) : Action (List String) := do
  let host ← get
  Action.ofExcept (setup.reachable host.tree host.current)

end ProtoRefresh.Compiler
