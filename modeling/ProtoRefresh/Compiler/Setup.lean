-- The settings of one run of the compiler, and the command line that they
-- make. Later settings replace earlier ones, except that include
-- directories and inputs add up, and an option keeps its first place.
import ProtoRefresh.Plan.Checked
import ProtoRefresh.Toolchain.Basic

namespace ProtoRefresh.Compiler

open Document

/-! ## Settings -/

structure Setup where
  outDir : Option Path := none
  includes : List Path := []
  inputs : List Path := []
  options : List (String × Value) := []
  compiler : String := "protoc"
  plugin : Option Path := none
  lang : String := Toolchain.standardLang
  /-- The directory that relative paths are seen from. -/
  directory : Option Path := none
  deriving Repr

inductive Setting
  | outDir (p : Path)
  | includeDir (p : Path)
  | includeDirs (ps : List Path)
  | input (p : Path)
  | inputs (ps : List Path)
  | options (entries : List (String × Value))
  | compiler (name : String)
  | plugin (p : Option Path)
  | lang (name : String)
  | directory (p : Path)
  | toolchain (t : Toolchain)
  deriving Repr

/-- The options with some more. -/
def addOptions (options more : List (String × Value)) : List (String × Value) :=
  more.foldl (fun options (key, value) => Plan.putText key value options) options

def Setup.apply (setup : Setup) : Setting → Setup
  | .outDir p => { setup with outDir := p }
  | .includeDir p => { setup with includes := setup.includes ++ [p] }
  | .includeDirs ps => { setup with includes := setup.includes ++ ps }
  | .input p => { setup with inputs := setup.inputs ++ [p] }
  | .inputs ps => { setup with inputs := setup.inputs ++ ps }
  | .options entries => { setup with options := addOptions setup.options entries }
  | .compiler name => { setup with compiler := name }
  | .plugin p => { setup with plugin := p }
  | .lang name => { setup with lang := name }
  | .directory p => { setup with directory := p }
  | .toolchain t => { setup with compiler := t.compiler, plugin := t.plugin, lang := t.lang }

/-- The setup after some settings in order. -/
def Setup.ofSettings (settings : List Setting) : Setup := settings.foldl Setup.apply {}

/-- A setting is refused when it has an option of the one name that options cannot have. -/
def Setting.isRefused : Setting → Bool
  | .options entries => entries.any fun entry => entry.1 = "self"
  | _ => false

/-! ## The command line -/

/-- The value of an option. -/
def optionText : Value → String
  | .bool b => if b then "true" else "false"
  | value => value.plain

/-- All options in one argument. -/
def optionsText (options : List (String × Value)) : String :=
  ",".intercalate (options.map fun (key, value) => key ++ "=" ++ optionText value)

/-- The arguments for the include directories and the inputs. -/
def Setup.sourceArguments (setup : Setup) : List String :=
  setup.includes.map (fun p => "-I" ++ p.text) ++ setup.inputs.map Path.text

/-- The command that generates sources. -/
def Setup.command (setup : Setup) : Except Failure (List String) := do
  let some outDir := setup.outDir | throw .noOutput
  if setup.inputs.isEmpty then throw .noInputs
  let plugin :=
    match setup.plugin with
    | some p => ["--plugin=protoc-gen-" ++ setup.lang ++ "=" ++ p.text]
    | none => []
  let options :=
    if setup.options.isEmpty then []
    else ["--" ++ setup.lang ++ "_opt", optionsText setup.options]
  return setup.compiler :: plugin ++ ["--" ++ setup.lang ++ "_out", outDir.text] ++ options ++
    setup.sourceArguments

/-- A path as it is seen from the directory of the setup. -/
def Setup.locate (setup : Setup) (p : Path) : Path :=
  match setup.directory with
  | some directory => directory.join p
  | none => p

end ProtoRefresh.Compiler
