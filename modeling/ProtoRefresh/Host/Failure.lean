-- Why an action fails. Each cause is a value; its wording is in one
-- place. Causes fall into families, by which callers tell what they
-- report from what they pass on.
import ProtoRefresh.Document.Json
import ProtoRefresh.FileTree.Access
import ProtoRefresh.Pattern.Reader
import ProtoRefresh.Plan.Issue
import ProtoRefresh.Text.CodePoint
import ProtoRefresh.Text.Utf8

namespace ProtoRefresh

/-! ## Causes -/

/-- Why an import cannot be followed. -/
inductive ImportFault
  /-- An input lies in no include directory. -/
  | outside (file : Path) (includes : List Path)
  /-- No include directory holds the imported file. -/
  | notFound (file : String) (includes : List Path)
  | unreadable (file : Path) (error : FileError)
  deriving DecidableEq, Repr

/-- Why a generated file cannot be placed. -/
inductive PlacementFault
  | noFile (source : String) (directory : Path)
  | noMatch (source : String) (directory : Path)
  deriving DecidableEq, Repr

/-- What is wrong with a glob. -/
inductive GlobFault
  /-- Two stars stand in a name together with other characters. -/
  | starsInName
  | absolute
  deriving DecidableEq, Repr

/-- What a path that holds the character that ends paths was to be used for. -/
inductive PathUse
  | opening
  | making
  | listing
  | moving
  | resolving
  deriving DecidableEq, Repr

/-- What is wrong with the text of a plan. -/
inductive DocumentFault
  | unsupported (suffix : String)
  | invalidYaml (file : Path)
  | invalidJson (error : Document.Json.JsonError)
  | notMapping (kind : Document.Kind) (file : Path)
  | undecodable (fault : Text.Utf8Fault)
  /-- A value does not make sense, in the words of the reader of such values. -/
  | badValue (message : String)
  deriving DecidableEq, Repr

inductive Failure
  | version (found : String)
  /-- A command was not found, or ended with a status other than zero. -/
  | command (argv : List String) (status : Option Int) (stderr : String)
  | imports (fault : ImportFault)
  | placement (fault : PlacementFault)
  | file (error : FileError) (shown : String)
  /-- What is to be removed as a directory is none. -/
  | notTree (path : Path)
  /-- A move into a directory finds its place taken. -/
  | taken (shown : String)
  /-- A path holds the character that ends paths. -/
  | endedPath (use : PathUse)
  | noOutput
  | noInputs
  | glob (fault : GlobFault)
  | document (fault : DocumentFault)
  /-- A text holds halves of pairs, which have no bytes. -/
  | unencodable (fault : Text.HalfFault)
  | invalid (model : String) (issues : List Plan.Issue)
  | pattern (error : Pattern.PatternError)
  | wrongType
  /-- A number is larger than the machine can take it. -/
  | tooLarge
  | noItem
  | noKey
  | noAttribute
  | descriptors
  | markup
  | exit (status : Nat)
  deriving DecidableEq, Repr

/-! ## Families -/

/-- The families of failures. -/
inductive Family
  /-- A step of the regeneration failed. -/
  | regeneration
  /-- A value was refused. -/
  | value
  /-- The system refused an action. -/
  | system
  | other
  deriving DecidableEq, Repr

def Failure.family : Failure → Family
  | .version _ => .regeneration
  | .command _ _ _ => .regeneration
  | .imports _ => .regeneration
  | .placement _ => .regeneration
  | .file _ _ => .system
  | .notTree _ => .system
  | .taken _ => .system
  | .endedPath _ => .value
  | .noOutput => .value
  | .noInputs => .value
  | .glob .absolute => .other
  | .glob _ => .value
  | .document _ => .value
  | .unencodable _ => .value
  | .invalid _ _ => .value
  | .pattern .clashingAlphabets => .value
  | .pattern _ => .other
  | .wrongType => .other
  | .tooLarge => .other
  | .noItem => .other
  | .noKey => .other
  | .noAttribute => .other
  | .descriptors => .other
  | .markup => .other
  | .exit _ => .other

/-! ## Wording -/

/-- The sentence about a compiler that is not the required one. -/
def versionMessage : String := "you need to use protobuf 3 to regenerate .rs from .proto"

/-- A file error with the path that it is about. -/
def FileError.message (error : FileError) (shown : String) : String :=
  "[Errno " ++ toString error.number ++ "] " ++ error.phrase ++ ": " ++ shown

/-- Paths between quotes, in brackets. -/
def quotedPaths (paths : List Path) : String := Text.quotedList (paths.map Path.text)

def ImportFault.message : ImportFault → String
  | .outside file includes =>
    "file `" ++ file.text ++ "` must reside in include path " ++ quotedPaths includes
  | .notFound file includes =>
    "protobuf path `" ++ file ++ "` is not found in import path " ++ quotedPaths includes
  | .unreadable file error =>
    "could not read file `" ++ file.text ++ "`: " ++ error.message (Text.quoted file.text)

def PlacementFault.message : PlacementFault → String
  | .noFile source directory =>
    "generated file `" ++ source ++ "` not found in " ++ directory.text
  | .noMatch source directory =>
    "no generated file matches `" ++ source ++ "` in " ++ directory.text

/-- What a command's failure says. -/
def commandMessage (argv : List String) (status : Option Int) (stderr : String) : String :=
  let first :=
    match status with
    | none => "command not found: " ++ argv.head?.getD ""
    | some n => "command failed with exit status " ++ toString n ++ ": " ++ " ".intercalate argv
  if stderr = "" then first else first ++ "\n" ++ Text.endTrimmed stderr

/-- The name of a kind of value. -/
def kindName : Document.Kind → String
  | .null => "NoneType"
  | .bool => "bool"
  | .int => "int"
  | .float => "float"
  | .text => "str"
  | .bytes => "bytes"
  | .date => "date"
  | .datetime => "datetime"
  | .list => "list"
  | .pair => "tuple"
  | .set => "set"
  | .map => "dict"

def utf8Reason : Text.Utf8Reason → String
  | .badStart => "invalid start byte"
  | .badContinuation => "invalid continuation byte"
  | .cutShort => "unexpected end of data"

/-- What is said about bytes that are no text. -/
def undecodableMessage (fault : Text.Utf8Fault) : String :=
  let start := toString fault.index
  let place :=
    match fault.bytes with
    | [byte] => "byte 0x" ++ String.ofList (Text.hexDigits 2 byte.toNat) ++ " in position " ++ start
    | bytes => "bytes in position " ++ start ++ "-" ++ toString (fault.index + bytes.length - 1)
  "'utf-8' codec can't decode " ++ place ++ ": " ++ utf8Reason fault.reason

/-- What is said about a text that has no bytes. -/
def unencodableMessage (fault : Text.HalfFault) : String :=
  let start := toString fault.index
  let place :=
    match fault.halves with
    | [half] =>
      "character '\\u" ++ String.ofList (Text.hexDigits 4 (Text.CodePoint.half half).code) ++
        "' in position " ++ start
    | halves => "characters in position " ++ start ++ "-" ++ toString (fault.index + halves.length - 1)
  "'utf-8' codec can't encode " ++ place ++ ": surrogates not allowed"

def DocumentFault.message : DocumentFault → String
  | .unsupported suffix => "Unsupported config format: " ++ suffix
  | .invalidYaml file => "Invalid YAML in " ++ file.text
  | .invalidJson error => error.message
  | .notMapping kind file => "Config must be a mapping, not " ++ kindName kind ++ ": " ++ file.text
  | .undecodable fault => undecodableMessage fault
  | .badValue message => message

def Failure.message : Failure → String
  | .version _ => versionMessage
  | .command argv status stderr => commandMessage argv status stderr
  | .imports fault => fault.message
  | .placement fault => fault.message
  | .file error shown => error.message (Text.quoted shown)
  | .notTree path =>
    FileError.notDirectory.message ("PosixPath(" ++ Text.quoted path.text ++ ")")
  | .taken shown => "Destination path '" ++ shown ++ "' already exists"
  | .endedPath _ => "embedded null byte"
  | .noOutput => "output directory is not set"
  | .noInputs => "no input .proto files"
  | .glob .starsInName => "Invalid pattern: '**' can only be an entire path component"
  | .glob .absolute => "Non-relative patterns are unsupported"
  | .document fault => fault.message
  | .unencodable fault => unencodableMessage fault
  | .invalid model issues =>
    toString issues.length ++ " validation error" ++ (if issues.length = 1 then "" else "s") ++
      " for " ++ model
  | .pattern .clashingAlphabets => "ASCII and UNICODE flags are incompatible"
  | .pattern .malformed => "malformed pattern"
  | .pattern .tooManyRounds => "the repetition number is too large"
  | .wrongType => "wrong type"
  | .tooLarge => "number too large"
  | .noItem => "list index out of range"
  | .noKey => "no such key"
  | .noAttribute => "no such attribute"
  | .descriptors => "malformed descriptors"
  | .markup => "malformed markup"
  | .exit status => toString status

end ProtoRefresh
