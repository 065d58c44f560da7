-- Checks of data against a description. A check gives what it has read or
-- everything that is wrong; two checks together give all that is wrong
-- with either. A text that names or starts something holds no halves of
-- pairs, and U+0000 stands for one, which no path and no argument can hold
-- either.
import ProtoRefresh.Document.Value
import ProtoRefresh.Plan.Issue
import ProtoRefresh.Text.Utf8

namespace ProtoRefresh.Plan

open Document

/-! ## Checks -/

/-- What has been read, or the issues found, in order. -/
inductive Checked (α : Type)
  | ok (value : α)
  | bad (issues : List Issue)

namespace Checked

variable {α β : Type}

def map (f : α → β) : Checked α → Checked β
  | .ok a => .ok (f a)
  | .bad issues => .bad issues

/-- Applies a function that was checked to a value that was checked. -/
def seq : Checked (α → β) → Checked α → Checked β
  | .ok f, .ok a => .ok (f a)
  | .ok _, .bad issues => .bad issues
  | .bad issues, .ok _ => .bad issues
  | .bad issues, .bad more => .bad (issues ++ more)

instance : Applicative Checked where
  pure := .ok
  seq f a := seq f (a ())

/-- One issue with the value itself. -/
def issue (kind : IssueKind) : Checked α := .bad [⟨kind, []⟩]

/-- A check of a part, its issues seen from the whole. -/
def below (step : Step) : Checked α → Checked α
  | .ok a => .ok a
  | .bad issues => .bad (issues.map (Issue.below step))

/-- A further check of what has been read. -/
def andThen (checked : Checked α) (f : α → Checked β) : Checked β :=
  match checked with
  | .ok a => f a
  | .bad issues => .bad issues

/-- The checks of a list of parts, each one seen from the whole by its place. -/
def items (check : Value → Checked α) : Nat → List Value → Checked (List α)
  | _, [] => .ok []
  | index, value :: rest =>
    seq (map List.cons (below (.index index) (check value))) (items check (index + 1) rest)

end Checked

/-! ## Kinds of data -/

/-- A text, as it is. Bytes count as the text that they encode. -/
def readPoints : Value → Checked (List Text.CodePoint)
  | .text s => .ok s
  | .bytes b =>
    match Text.decodeUtf8 b with
    | .ok s => .ok (Text.points s)
    | .error _ => .issue .notUtf8
  | _ => .issue .notText

/-- A text that names or starts something. A half of a pair is read as the character that ends paths,
which is in no name either. -/
def readText (value : Value) : Checked String := (readPoints value).map Text.shown

/-- Nothing, or what a check reads. -/
def readOptional {α : Type} (check : Value → Checked α) : Value → Checked (Option α)
  | .null => .ok none
  | value => (check value).map some

/-- A list, or a set, of what a check reads. -/
def readList {α : Type} (check : Value → Checked α) : Value → Checked (List α)
  | .list values => .items check 0 values
  | .set values => .items check 0 values
  | _ => .issue .notList

/-- A list that is not empty. -/
def readSome {α : Type} (check : Value → Checked α) (value : Value) :
    Checked { l : List α // l ≠ [] } :=
  (readList check value).andThen fun l =>
    if h : l ≠ [] then .ok ⟨l, h⟩ else .issue (.tooShort 1 0)

/-- The entries of a mapping that is described by the named model. -/
def readModel {α : Type} (model : String) (check : List (Value × Value) → Checked α) :
    Value → Checked α
  | .map entries => check entries
  | _ => .issue (.notModel model)

/-- The value of a key that has to be there. -/
def required {α : Type} (entries : List (Value × Value)) (key : String)
    (check : Value → Checked α) : Checked α :=
  .below (.name key) <|
    match Value.find? entries key with
    | some value => check value
    | none => .issue .missing

/-- The value of a key, or what stands for it. -/
def optional {α : Type} (entries : List (Value × Value)) (key : String) (standard : α)
    (check : Value → Checked α) : Checked α :=
  match Value.find? entries key with
  | some value => .below (.name key) (check value)
  | none => .ok standard

/-! ## Mappings with text keys -/

/-- How an issue names a key: numbers of up to 64 bits as places, other keys by their text. -/
def keyStep : Value → Step
  | .text s => .name (Text.shown s)
  | .bool b => .index (if b then 1 else 0)
  | .int i => if -9223372036854775808 ≤ i ∧ i < 9223372036854775808 then .index i else .name (toString i)
  | value => .name value.inner

/-- Puts an entry into a mapping. A key that is there keeps its place. -/
def putText (key : String) (value : Value) : List (String × Value) → List (String × Value)
  | [] => [(key, value)]
  | (k, v) :: rest => if k = key then (k, value) :: rest else (k, v) :: putText key value rest

/-- The keys of a mapping, all of which have to be texts, with their values. -/
def readKeys (entries : List (Value × Value)) : Checked (List (String × Value)) :=
  entries.foldl
    (fun read (key, value) =>
      let name := Checked.below (keyStep key) (.below (.name "[key]") (readText key))
      Checked.seq (read.map fun done name => putText name value done) name)
    (.ok [])

/-- A mapping from texts to any values. -/
def readMap : Value → Checked (List (String × Value))
  | .map entries => readKeys entries
  | _ => .issue .notMapping

end ProtoRefresh.Plan
