-- The compiler's description of source files: for each file its name, its
-- package and what it imports. All else in a description only has to be
-- well formed, message within message.
import ProtoRefresh.Compiler.Wire

namespace ProtoRefresh.Compiler

/-! ## The shape of descriptions -/

/-- The kinds of messages in a description. -/
inductive MessageKind
  | file
  | message
  | extensionRange
  | range
  | declaration
  | field
  | editionDefault
  | support
  | oneOf
  | enumeration
  | enumValue
  | service
  | method
  | options (featuresAt supportAt : Nat)
  | fieldOptions
  | rangeOptions
  | features
  | rawOption
  | rawName
  | sourceInfo
  | sourceLocation
  deriving DecidableEq, Repr

/-- What the counted bytes of a field have to be. -/
inductive Shape
  | anything
  | numbers
  | nested (kind : MessageKind)
  deriving DecidableEq, Repr

/-- The shape of a field in a message. -/
def MessageKind.shape : MessageKind → Nat → Shape
  | .file, 4 => .nested .message
  | .file, 5 => .nested .enumeration
  | .file, 6 => .nested .service
  | .file, 7 => .nested .field
  | .file, 8 => .nested (.options 50 0)
  | .file, 9 => .nested .sourceInfo
  | .file, 10 => .numbers
  | .file, 11 => .numbers
  | .message, 2 => .nested .field
  | .message, 3 => .nested .message
  | .message, 4 => .nested .enumeration
  | .message, 5 => .nested .extensionRange
  | .message, 6 => .nested .field
  | .message, 7 => .nested (.options 12 0)
  | .message, 8 => .nested .oneOf
  | .message, 9 => .nested .range
  | .extensionRange, 3 => .nested .rangeOptions
  | .rangeOptions, 2 => .nested .declaration
  | .rangeOptions, 50 => .nested .features
  | .rangeOptions, 999 => .nested .rawOption
  | .field, 8 => .nested .fieldOptions
  | .fieldOptions, 19 => .numbers
  | .fieldOptions, 20 => .nested .editionDefault
  | .fieldOptions, 21 => .nested .features
  | .fieldOptions, 22 => .nested .support
  | .fieldOptions, 999 => .nested .rawOption
  | .oneOf, 2 => .nested (.options 1 0)
  | .enumeration, 2 => .nested .enumValue
  | .enumeration, 3 => .nested (.options 7 0)
  | .enumeration, 4 => .nested .range
  | .enumValue, 3 => .nested (.options 2 4)
  | .service, 2 => .nested .method
  | .service, 3 => .nested (.options 34 0)
  | .method, 4 => .nested (.options 35 0)
  | .options featuresAt supportAt, n =>
    if n = featuresAt then .nested .features
    else if n = supportAt then .nested .support
    else if n = 999 then .nested .rawOption
    else .anything
  | .rawOption, 2 => .nested .rawName
  | .sourceInfo, 1 => .nested .sourceLocation
  | .sourceLocation, 1 => .numbers
  | .sourceLocation, 2 => .numbers
  | _, _ => .anything

/-- Whether some bytes are a message of a kind, whose messages nest no deeper than the number. -/
def isMessage : Nat → MessageKind → List UInt8 → Bool
  | 0, _, _ => false
  | depth + 1, kind, bytes =>
    match fieldsOf depth bytes with
    | none => false
    | some fields => fields.all fun field =>
      match field.payload with
      | .counted inner =>
        match kind.shape field.number with
        | .anything => true
        | .numbers => isNumberRow inner.length inner
        | .nested kind => isMessage depth kind inner
      | _ => true

/-! ## Files -/

/-- The names in a description of one file, as bytes. -/
structure RawFile where
  name : List UInt8
  package : List UInt8
  dependency : List (List UInt8)
  deriving DecidableEq, Repr

/-- The contents of the fields with a number. -/
def contents (number : Nat) (fields : List Field) : List (List UInt8) :=
  fields.filterMap fun field =>
    match field.payload with
    | .counted bytes => if field.number = number then some bytes else none
    | _ => none

/-- How deep messages may nest. -/
def deepest : Nat := 100

/-- The file that a message describes. Of names that are given twice the last one counts. -/
def rawFile? (bytes : List UInt8) : Option RawFile := do
  if !isMessage deepest .file bytes then none
  let fields ← fieldsOf deepest bytes
  return ⟨(contents 1 fields).getLast?.getD [], (contents 2 fields).getLast?.getD [],
    contents 3 fields⟩

/-- The files that a description lists. -/
def rawFiles? (bytes : List UInt8) : Option (List RawFile) := do
  (contents 1 (← fieldsOf deepest bytes)).mapM rawFile?

end ProtoRefresh.Compiler
