-- Plans read from data. Fields are checked in the order in which plans
-- describe them; keys that no field has are passed over.
import ProtoRefresh.Plan.Basic
import ProtoRefresh.Plan.Checked

namespace ProtoRefresh.Plan

open Document

/-! ## Parts of a plan -/

def readHelper : Value → Checked Helper :=
  readModel "HelperBuild" fun entries =>
    Helper.mk <$> required entries "manifest" readText
      <*> optional entries "bin" none (readOptional readText)

def readSubstitution : Value → Checked Rewrite.Substitution :=
  readModel "SubstitutionRule" fun entries =>
    Rewrite.Substitution.mk <$> required entries "pattern" readPoints
      <*> optional entries "replacement" none (readOptional readPoints)

/-- The move of a list of sources, if it may have its new name. -/
def moveOf (sources : { l : List String // l ≠ [] }) (dest : String) (rename : Option String) :
    Checked Relocation.Move :=
  if h : rename.isSome = true → Relocation.isSingleName sources.1 = true then
    .ok ⟨sources.1, dest, rename, sources.2, h⟩
  else .issue .renameNeedsOneSource

def readMove : Value → Checked Relocation.Move :=
  readModel "Move" fun entries =>
    (moveOf <$> required entries "sources" (readSome readText)
      <*> required entries "dest" readText
      <*> optional entries "rename" none (readOptional readText)).andThen id

/-- A path, spelled as a text. -/
def readPath : Value → Checked Path
  | .text s => .ok (Path.ofText (Text.shown s))
  | _ => .issue .notPath

/-! ## Plans -/

/-- The plan that a mapping describes; without a root it is the given directory. -/
def readEntries (current : Path) (entries : List (Value × Value)) : Checked Plan :=
  (fun root versionStart versionCompiler helpers compilerFinder workspace lang options includes
      (inputs : { l : List String // l ≠ [] }) generationDir generatedSuffix substitutions moves =>
    { root, versionStart, versionCompiler, helpers, compilerFinder, workspace, lang, options,
      includes, inputs := inputs.1, generationDir, generatedSuffix, substitutions, moves,
      inputs_ne_nil := inputs.2 : Plan })
    <$> optional entries "root" current readPath
    <*> optional entries "protoc_prefix" standardVersionStart readText
    <*> optional entries "version_protoc" "protoc" readText
    <*> optional entries "helpers" [] (readList readHelper)
    <*> optional entries "protoc_which" none (readOptional readHelper)
    <*> optional entries "workspace" ".." readText
    <*> optional entries "lang" Toolchain.standardLang readText
    <*> optional entries "options" [] readMap
    <*> optional entries "includes" [] (readList readText)
    <*> required entries "inputs" (readSome readText)
    <*> optional entries "tmp_dir" standardGenerationDir readText
    <*> optional entries "generated_suffix" standardSuffix readText
    <*> optional entries "substitutions" [] (readList readSubstitution)
    <*> optional entries "moves" [] (readList readMove)

/-- The plan that a value describes. -/
def ofValue (current : Path) : Value → Checked Plan :=
  readModel "RegenConfig" (readEntries current)

end ProtoRefresh.Plan
