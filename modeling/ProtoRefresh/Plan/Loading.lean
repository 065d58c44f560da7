-- Plans loaded from files. The ending of the file's name tells whether it
-- is YAML or JSON. A root that is not absolute is seen from the directory
-- of the file.
import ProtoRefresh.Document.Json
import ProtoRefresh.Document.Yaml.Meaning
import ProtoRefresh.Host.Basic
import ProtoRefresh.Plan.Reading

namespace ProtoRefresh.Plan

open Document

/-! ## Documents -/

/-- The formats of plans. -/
inductive Format
  | yaml
  | json
  deriving DecidableEq, Repr

/-- The format that the ending of a name tells. -/
def Format.ofSuffix? (suffix : String) : Option Format :=
  if suffix = ".yml" || suffix = ".yaml" then some .yaml
  else if suffix = ".json" then some .json
  else none

/-- The failure to load a file whose text is no YAML document. -/
def yamlFailure (file : Path) : Yaml.YamlError → Failure
  | .malformed => .document (.invalidYaml file)
  | .noCharacter => .document (.badValue "chr() arg not in range(0x110000)")
  | .tooLarge => .tooLarge
  | .badValue message => .document (.badValue message)
  | .noDigits => .noItem
  | .noTruth => .noKey
  | .noMoment => .noAttribute
  | .nestedMoment => .wrongType

/-- The failure to load a file whose text is no JSON document. -/
def jsonFailure (error : Json.JsonError) : Failure :=
  match error with
  | .malformed _ _ => .document (.invalidJson error)
  | .tooManyDigits _ => .document (.badValue error.message)

/-- The value in the text of a file. An empty YAML value counts as a mapping without entries. -/
def readDocument (file : Path) (format : Format) (text : String) : Except Failure Value :=
  match format with
  | .yaml => do
    let value ← (Yaml.ofText text).mapError (yamlFailure file)
    return if value.isEmpty then .map [] else value
  | .json => (Json.ofText text).mapError jsonFailure

/-- The value that a file holds. -/
def loadDocument (file : Path) : Action Value := do
  let content ← Action.readFile file
  match Format.ofSuffix? file.suffix with
  | some format =>
    let text := Text.withNewlines (← Action.decode content)
    Action.ofExcept (readDocument file format text)
  | none => Action.fail (.document (.unsupported file.suffix))

/-! ## Plans -/

/-- The root of a plan in a file. -/
def rootOf (file : Path) (entries : List (Value × Value)) : Except Failure Path :=
  match Value.find? entries "root" with
  | none => .ok file.parent
  | some (.text s) => .ok (file.parent.joinText (Text.shown s))
  | some _ => .error .wrongType

/-- Whether all keys of a mapping are texts. -/
def hasTextKeys (entries : List (Value × Value)) : Bool :=
  entries.all fun entry => entry.1.kind = .text

/-- The plan that entries describe for a root. -/
def planAt (root : Path) (entries : List (Value × Value)) : Except Failure Plan :=
  if hasTextKeys entries then
    match readEntries root (Value.put (.text "root") (.text root.text) entries) with
    | .ok plan => .ok { plan with root }
    | .bad issues => .error (.invalid "RegenConfig" issues)
  else .error .wrongType

/-- The plan in a file. -/
def load (file : Path) : Action Plan := do
  match ← loadDocument file with
  | .map entries => do
    let root ← Action.ofExcept (rootOf file entries)
    Action.log .debug ("loaded config " ++ file.text ++ " (root " ++ root.text ++ ")")
    Action.ofExcept (planAt root entries)
  | value => Action.fail (.document (.notMapping value.kind file))

end ProtoRefresh.Plan
