-- The values that a document holds. A mapping keeps its entries in the
-- order in which their keys came first, with the value that came last.
import ProtoRefresh.Decimal.Text
import ProtoRefresh.Document.Moment
import ProtoRefresh.Text.Quoted

namespace ProtoRefresh.Document

open Decimal

/-! ## Values -/

inductive Value
  | null
  | bool (b : Bool)
  | int (i : Int)
  | float (d : Double)
  | text (s : List Text.CodePoint)
  | bytes (b : List UInt8)
  | moment (m : Moment)
  | list (items : List Value)
  /-- A key with its value outside a mapping. -/
  | pair (key value : Value)
  | set (items : List Value)
  | map (entries : List (Value × Value))
  deriving Repr, Inhabited

/-- The kinds of values. -/
inductive Kind
  | null
  | bool
  | int
  | float
  | text
  | bytes
  | date
  | datetime
  | list
  | pair
  | set
  | map
  deriving DecidableEq, Repr

namespace Value

def kind : Value → Kind
  | .null => .null
  | .bool _ => .bool
  | .int _ => .int
  | .float _ => .float
  | .text _ => .text
  | .bytes _ => .bytes
  | .moment m => if m.time.isSome then .datetime else .date
  | .list _ => .list
  | .pair _ _ => .pair
  | .set _ => .set
  | .map _ => .map

/-! ## Keys -/

/-- The number that a value counts as when it is a key. -/
def asInt? : Value → Option Int
  | .bool b => some (if b then 1 else 0)
  | .int i => some i
  | _ => none

/-- Whether two keys name one entry. Numbers of all kinds are compared by value. -/
def sameKey : Value → Value → Bool
  | .null, .null => true
  | .text a, .text b => a = b
  | .bytes a, .bytes b => a = b
  | .moment a, .moment b => a = b
  | .float a, .float b => a.same b
  | .float a, b => (b.asInt?.map a.equalsInt).getD false
  | a, .float b => (a.asInt?.map b.equalsInt).getD false
  | a, b =>
    match a.asInt?, b.asInt? with
    | some i, some j => i = j
    | _, _ => false

/-- A value that can be a key or a member of a set. -/
def isKey : Value → Bool
  | .list _ => false
  | .pair _ _ => false
  | .set _ => false
  | .map _ => false
  | _ => true

/-- Puts an entry into a mapping. A key that is there keeps its place and its spelling. -/
def put (key value : Value) : List (Value × Value) → List (Value × Value)
  | [] => [(key, value)]
  | (k, v) :: rest => if k.sameKey key then (k, value) :: rest else (k, v) :: put key value rest

/-- The entries of a mapping after puts in order. -/
def putAll (entries : List (Value × Value)) (more : List (Value × Value)) : List (Value × Value) :=
  more.foldl (fun entries (key, value) => put key value entries) entries

/-- The value of a key that is a text. -/
def find? (entries : List (Value × Value)) (key : String) : Option Value :=
  (entries.find? fun entry => entry.1.sameKey (.text (Text.points key))).map (·.2)

/-- Whether a value counts as empty: nothing, zero, no text and no items. -/
def isEmpty : Value → Bool
  | .null => true
  | .bool b => !b
  | .int i => i = 0
  | .float d => d.equalsInt 0
  | .text s => s.isEmpty
  | .bytes b => b.isEmpty
  | .moment _ => false
  | .list items => items.isEmpty
  | .pair _ _ => false
  | .set items => items.isEmpty
  | .map entries => entries.isEmpty

end Value

/-! ## Text -/

/-- One byte between quotes. -/
def quoteByte (quote : Char) (b : UInt8) : List Char :=
  let c := Char.ofNat b.toNat
  if c = quote || c = '\\' then ['\\', c]
  else if c = '\t' then ['\\', 't']
  else if c = '\n' then ['\\', 'n']
  else if c = '\r' then ['\\', 'r']
  else if 32 ≤ b && b < 127 then [c]
  else '\\' :: 'x' :: Text.hexDigits 2 b.toNat

/-- Bytes between quotes. -/
def quotedBytes (bytes : List UInt8) : String :=
  let quote := Text.quoteFor (bytes.map fun b => .char (Char.ofNat b.toNat))
  "b" ++ String.ofList (quote :: bytes.flatMap (quoteByte quote) ++ [quote])

/-- The text of a value inside a list or a mapping. -/
def Value.inner : Value → String
  | .null => "None"
  | .bool b => if b then "True" else "False"
  | .int i => toString i
  | .float d => d.text
  | .text s => String.ofList (Text.quote s)
  | .bytes b => quotedBytes b
  | .moment m => m.callText
  | .list items => "[" ++ innerItems items ++ "]"
  | .pair key value => "(" ++ key.inner ++ ", " ++ value.inner ++ ")"
  | .set [] => "set()"
  | .set items => "\x7b" ++ innerItems items ++ "\x7d"
  | .map entries => "\x7b" ++ innerEntries entries ++ "\x7d"
where
  /-- Items with commas between them. -/
  innerItems : List Value → String
    | [] => ""
    | [item] => item.inner
    | item :: rest => item.inner ++ ", " ++ innerItems rest
  /-- Entries with commas between them. -/
  innerEntries : List (Value × Value) → String
    | [] => ""
    | [(key, value)] => key.inner ++ ": " ++ value.inner
    | (key, value) :: rest => key.inner ++ ": " ++ value.inner ++ ", " ++ innerEntries rest

/-- The text of a value that stands alone. -/
def Value.plain : Value → String
  | .text s => Text.shown s
  | .moment m => m.text
  | value => value.inner

end ProtoRefresh.Document
