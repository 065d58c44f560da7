-- Reading JSON text. Besides the standard's values, the words NaN,
-- Infinity and -Infinity are numbers. A number with a point or an
-- exponent is a float, any other an integer of any size.
import ProtoRefresh.Document.Value

namespace ProtoRefresh.Document.Json

open Decimal Text

/-! ## Errors -/

/-- What is missing or wrong at a place of a text. -/
inductive JsonFault
  | noValue
  | noName
  | noColon
  | noComma
  | extraText
  | openString
  | controlChar
  | badEscape
  | badCodeEscape
  | byteOrderMark
  deriving DecidableEq, Repr

/-- A place in a text: its line and its column, from one, and how many characters stand before
it. -/
structure Position where
  line : Nat
  column : Nat
  index : Nat
  deriving DecidableEq, Repr

/-- Why a text is no JSON document. -/
inductive JsonError
  | malformed (fault : JsonFault) (place : Position)
  /-- An integer has more digits than are read. -/
  | tooManyDigits (count : Nat)
  deriving DecidableEq, Repr

def JsonFault.message : JsonFault → String
  | .noValue => "Expecting value"
  | .noName => "Expecting property name enclosed in double quotes"
  | .noColon => "Expecting ':' delimiter"
  | .noComma => "Expecting ',' delimiter"
  | .extraText => "Extra data"
  | .openString => "Unterminated string starting at"
  | .controlChar => "Invalid control character at"
  | .badEscape => "Invalid \\escape"
  | .badCodeEscape => "Invalid \\uXXXX escape"
  | .byteOrderMark => "Unexpected UTF-8 BOM (decode using utf-8-sig)"

def Position.text (p : Position) : String :=
  "line " ++ toString p.line ++ " column " ++ toString p.column ++ " (char " ++ toString p.index ++
    ")"

def JsonError.message : JsonError → String
  | .malformed fault place => fault.message ++ ": " ++ place.text
  | .tooManyDigits count =>
    "Exceeds the limit (4300 digits) for integer string conversion: value has " ++ toString count ++
      " digits; use sys.set_int_max_str_digits() to increase the limit"

/-! ## Reading -/

/-- Why a reading stopped: a fault before the characters that are left, or too long a number. -/
inductive Stop
  | fault (fault : JsonFault) (left : Nat)
  | tooManyDigits (count : Nat)
  deriving DecidableEq, Repr

/-- Stops at a fault before some text. -/
def failAt {α : Type} (fault : JsonFault) (text : List Char) : Except Stop α :=
  .error (.fault fault text.length)

/-- The most digits that an integer may have. -/
def digitLimit : Nat := 4300

/-- White space between values. -/
def isSpace (c : Char) : Bool := c == ' ' || c == '\t' || c == '\n' || c == '\r'

def skipSpace (text : List Char) : List Char := text.dropWhile isSpace

/-! ## Strings -/

/-- The value of four hexadecimal digits. -/
def hex4? (a b c d : Char) : Option Nat := do
  return ((← digit a) * 16 + (← digit b)) * 256 + (← digit c) * 16 + (← digit d)
where
  /-- The value of a hexadecimal digit. -/
  digit (c : Char) : Option Nat :=
    if c.isDigit then some (c.toNat - 48)
    else if 'a' ≤ c && c ≤ 'f' then some (c.toNat - 87)
    else if 'A' ≤ c && c ≤ 'F' then some (c.toNat - 55)
    else none

/-- The character of a simple escape. -/
def escapeOf? : Char → Option Char
  | '"' => some '"'
  | '\\' => some '\\'
  | '/' => some '/'
  | 'b' => some '\x08'
  | 'f' => some '\x0c'
  | 'n' => some '\n'
  | 'r' => some '\r'
  | 't' => some '\t'
  | _ => none

/-- The code units of a string up to its closing quote; `start` characters are left from its
opening quote on. -/
def units (start : Nat) : List Char → List Nat → Except Stop (List Nat × List Char)
  | [], _ => .error (.fault .openString start)
  | '"' :: rest, acc => .ok (acc.reverse, rest)
  | '\\' :: 'u' :: a :: b :: c :: d :: rest, acc =>
    match hex4? a b c d with
    | some unit => units start rest (unit :: acc)
    | none => .error (.fault .badCodeEscape (rest.length + 5))
  | ['\\'], _ => .error (.fault .openString start)
  | '\\' :: c :: rest, acc =>
    match escapeOf? c with
    | some e => units start rest (e.toNat :: acc)
    | none =>
      if c = 'u' then .error (.fault .badCodeEscape (rest.length + 1))
      else .error (.fault .badEscape (rest.length + 2))
  | c :: rest, acc =>
    if c.toNat < 32 then .error (.fault .controlChar (rest.length + 1))
    else units start rest (c.toNat :: acc)

/-- The text of code units. Two halves of a pair side by side make one character. -/
def pointsOfUnits : List Nat → List CodePoint
  | [] => []
  | [unit] => [.ofCode unit]
  | high :: low :: rest =>
    if 0xD800 ≤ high && high < 0xDC00 && 0xDC00 ≤ low && low < 0xE000 then
      .ofCode (0x10000 + (high - 0xD800) * 1024 + (low - 0xDC00)) :: pointsOfUnits rest
    else .ofCode high :: pointsOfUnits (low :: rest)

/-- A string after its opening quote. -/
def string (text : List Char) : Except Stop (List CodePoint × List Char) := do
  let (us, rest) ← units (text.length + 1) text []
  return (pointsOfUnits us, rest)

/-! ## Numbers -/

/-- The digits that start a text, at least one. -/
def digits? (text : List Char) : Option (List Char × List Char) :=
  let ds := text.takeWhile Char.isDigit
  if ds.isEmpty then none else some (ds, text.dropWhile Char.isDigit)

/-- The digits behind a point that start a text. -/
def fraction (text : List Char) : List Char × List Char :=
  match text with
  | '.' :: rest => ((digits? rest).map fun (ds, rest) => (ds, rest)).getD ([], text)
  | _ => ([], text)

/-- The exponent that starts a text. -/
def exponent? (text : List Char) : Option (Int × List Char) :=
  match text with
  | c :: rest =>
    if c = 'e' || c = 'E' then
      let (negative, rest) := splitSign rest
      (digits? rest).map fun (ds, rest) =>
        (if negative then -natOfDigits ds else natOfDigits ds, rest)
    else none
  | [] => none

/-- A number with its sign. -/
def number (text : List Char) : Except Stop (Value × List Char) :=
  let negative := text.head? = some '-'
  match digits? (if negative then text.drop 1 else text) with
  | none => failAt .noValue text
  | some (ds, rest) =>
    let (whole, rest) :=
      match ds with
      | '0' :: more => (['0'], more ++ rest)
      | _ => (ds, rest)
    let (point, rest) := fraction rest
    match exponent? rest with
    | some (e, rest) =>
      .ok (.float (.ofDecimal negative (natOfDigits (whole ++ point)) (e - point.length)), rest)
    | none =>
      if point.isEmpty then
        if digitLimit < whole.length then .error (.tooManyDigits whole.length)
        else
          let n : Int := natOfDigits whole
          .ok (.int (if negative then -n else n), rest)
      else .ok (.float (.ofDecimal negative (natOfDigits (whole ++ point)) (-point.length)), rest)

/-! ## Values -/

/-- The text after a word, if it starts with it. -/
def afterWord? (word : String) (text : List Char) : Option (List Char) :=
  if word.toList.isPrefixOf text then some (text.drop word.length) else none

/-- The words that are values. -/
def words : List (String × Value) :=
  [("null", .null), ("true", .bool true), ("false", .bool false), ("NaN", .float .nan),
   ("Infinity", .float (.infinite false)), ("-Infinity", .float (.infinite true))]

/-- A word that is a value. -/
def word? (text : List Char) : Option (Value × List Char) :=
  words.findSome? fun (word, value) => (afterWord? word text).map (value, ·)

mutual

/-- A value. -/
def value : Nat → List Char → Except Stop (Value × List Char)
  | 0, text => failAt .noValue text
  | fuel + 1, text =>
    match text with
    | '"' :: rest => do
      let (s, rest) ← string rest
      return (.text s, rest)
    | '[' :: rest =>
      match skipSpace rest with
      | ']' :: rest => .ok (.list [], rest)
      | rest => do
        let (items, rest) ← items fuel rest
        return (.list items, rest)
    | '\x7b' :: rest =>
      match skipSpace rest with
      | '\x7d' :: rest => .ok (.map [], rest)
      | rest => do
        let (entries, rest) ← entries fuel rest
        return (.map (Value.putAll [] entries), rest)
    | text =>
      match word? text with
      | some (v, rest) => .ok (v, rest)
      | none => number text

/-- The items of a list up to its closing bracket. -/
def items : Nat → List Char → Except Stop (List Value × List Char)
  | 0, text => failAt .noValue text
  | fuel + 1, text => do
    let (v, rest) ← value fuel text
    match skipSpace rest with
    | ',' :: rest => do
      let (vs, rest) ← items fuel (skipSpace rest)
      return (v :: vs, rest)
    | ']' :: rest => return ([v], rest)
    | rest => failAt .noComma rest

/-- The entries of a mapping up to its closing brace. -/
def entries : Nat → List Char → Except Stop (List (Value × Value) × List Char)
  | 0, text => failAt .noValue text
  | fuel + 1, text =>
    match text with
    | '"' :: rest => do
      let (key, rest) ← string rest
      match skipSpace rest with
      | ':' :: rest => do
        let (v, rest) ← value fuel (skipSpace rest)
        match skipSpace rest with
        | ',' :: rest => do
          let (vs, rest) ← entries fuel (skipSpace rest)
          return ((.text key, v) :: vs, rest)
        | '\x7d' :: rest => return ([(.text key, v)], rest)
        | rest => failAt .noComma rest
      | rest => failAt .noColon rest
    | text => failAt .noName text

end

/-- A value with nothing but white space around it. -/
def document (text : List Char) : Except Stop Value := do
  if text.head? = some '\ufeff' then failAt .byteOrderMark text
  let (v, rest) ← value (text.length + 1) (skipSpace text)
  let rest := skipSpace rest
  if rest.isEmpty then return v else failAt .extraText rest

/-- The place in a text before which some characters stand. -/
def Position.ofIndex (text : List Char) (index : Nat) : Position :=
  let before := text.take index
  let last := before.reverse.takeWhile (· != '\n')
  ⟨before.count '\n' + 1, last.length + 1, index⟩

/-- The value of a JSON text, with white space around it. -/
def ofText (text : String) : Except JsonError Value :=
  let chars := text.toList
  (document chars).mapError fun
    | .fault fault left => .malformed fault (.ofIndex chars (chars.length - left))
    | .tooManyDigits count => .tooManyDigits count

end ProtoRefresh.Document.Json
