-- Escapes and sets of a pattern. An escape is a condition on the place, a
-- class, a character by its code or name, or a group named by its number;
-- between brackets it is an item of the set.
import ProtoRefresh.Pattern.Reading
import ProtoRefresh.Text.CharName
import ProtoRefresh.Text.Identifier

namespace ProtoRefresh.Pattern

open Text

/-! ## Numbers -/

/-- The value of digits in a base. -/
def digitsValue (base : Nat) (digits : List Char) : Nat :=
  digits.foldl (fun value c => value * base + digit c) 0
where
  /-- The value of a digit up to f. -/
  digit (c : Char) : Nat :=
    if c.isDigit then c.toNat - 48
    else if 'a' ≤ c && c ≤ 'f' then c.toNat - 87
    else if 'A' ≤ c && c ≤ 'F' then c.toNat - 55
    else 0

def isOctal (c : Char) : Bool := '0' ≤ c && c ≤ '7'

def isHex (c : Char) : Bool := c.isDigit || ('a' ≤ c && c ≤ 'f') || ('A' ≤ c && c ≤ 'F')

/-- Exactly `n` hexadecimal digits. -/
def readHex (n : Nat) : Read Nat := do
  let digits ← Read.takeWhile isHex n
  unless digits.length = n do Read.fail
  return digitsValue 16 digits

/-- Digits with single underscores between them. -/
def groupDigits? : List Char → Option Nat
  | [] => none
  | c :: rest => do go (← decimalValue? c) rest
where
  /-- The digits after the first. -/
  go (value : Nat) : List Char → Option Nat
    | [] => some value
    | '_' :: c :: rest => do go (value * 10 + (← decimalValue? c)) rest
    | c :: rest => do go (value * 10 + (← decimalValue? c)) rest

/-- The number of a group: digits of any script, perhaps signed, with blanks around them. -/
def groupNumber? (name : List Char) : Option Nat :=
  match trim name with
  | '+' :: digits => groupDigits? digits
  | '-' :: digits => (groupDigits? digits).bind fun n => if n = 0 then some 0 else none
  | digits => groupDigits? digits

/-! ## Escapes -/

/-- The control character of an escape that means the same everywhere. -/
def controlOf? : Char → Option Nat
  | 'a' => some 7
  | 'f' => some 12
  | 'n' => some 10
  | 'r' => some 13
  | 't' => some 9
  | 'v' => some 11
  | '\\' => some 92
  | _ => none

/-- The class of an escape. -/
def classOf? : Char → Option SetItem
  | 'd' => some (.inClass .digit false)
  | 'D' => some (.inClass .digit true)
  | 's' => some (.inClass .blank false)
  | 'S' => some (.inClass .blank true)
  | 'w' => some (.inClass .word false)
  | 'W' => some (.inClass .word true)
  | _ => none

/-- The condition of an escape. -/
def anchorOf? (flags : Flags) : Char → Option Anchor
  | 'A' => some .textStart
  | 'b' => some (.wordEdge flags.alphabet)
  | 'B' => some (.noWordEdge flags.alphabet)
  | 'Z' => some .textEnd
  | _ => none

/-- A character given by code or by name, or a character that only stands for itself. -/
def readCharEscape (c : Char) : Read Nat := do
  match c with
  | 'x' => readHex 2
  | 'u' => readHex 4
  | 'U' =>
    let code ← readHex 8
    if 0x10FFFF < code then Read.fail
    return code
  | 'N' =>
    Read.expect '\x7b'
    match codeOfName? (← Read.takeName '\x7d') with
    | some code => return code
    | none => Read.fail
  | _ => if c.isAlphanum then Read.fail else return c.toNat

/-- An escape between brackets. -/
def readSetEscape (c : Char) : Read SetItem := do
  if c = 'b' then return .one 8
  if let some code := controlOf? c then return .one code
  if let some item := classOf? c then return item
  if isOctal c then
    let value := digitsValue 8 (c :: (← Read.takeWhile isOctal 2))
    if 255 < value then Read.fail
    return .one value
  return .one (← readCharEscape c)

/-- The group with this number, complete and, inside a look behind, opened before it. -/
def checkGroup (index : Nat) (mustBeClosed : Bool) : Read Unit := do
  let s ← get
  let closed := (s.widths.lookup index).isSome
  if mustBeClosed && !closed then Read.fail
  match s.behindFrom with
  | none => return
  | some limit => if !closed || limit ≤ index then Read.fail

/-! ## Pieces of a sequence -/

/-- What a repetition may follow. -/
inductive PieceKind
  | item
  | place
  | repetition
  deriving DecidableEq, Repr

structure Piece where
  node : Node
  kind : PieceKind := .item

/-- A set of one item. -/
def Flags.setOf (flags : Flags) (items : List SetItem) (negated : Bool) : Piece :=
  ⟨.one ⟨items, negated, flags.alphabet, flags.caseRule⟩, .item⟩

/-- An escape outside brackets. -/
def readEscape (flags : Flags) (c : Char) : Read Piece := do
  if let some anchor := anchorOf? flags c then return ⟨.anchor anchor, .place⟩
  if let some item := classOf? c then return flags.setOf [item] false
  if let some code := controlOf? c then return flags.setOf [.one code] false
  if c = '0' then
    return flags.setOf [.one (digitsValue 8 (c :: (← Read.takeWhile isOctal 2)))] false
  if c.isDigit then
    let second ← Read.takeWhile Char.isDigit 1
    if (c :: second).length = 2 && (c :: second).all isOctal then
      let third ← Read.takeWhile isOctal 1
      if third.length = 1 then
        let value := digitsValue 8 (c :: second ++ third)
        if 255 < value then Read.fail
        return flags.setOf [.one value] false
    let index := digitsValue 10 (c :: second)
    unless index < (← get).groups do Read.fail
    checkGroup index true
    return ⟨.sameAs index flags.caseRule, .item⟩
  return flags.setOf [.one (← readCharEscape c)] false

/-! ## Sets -/

/-- One end of a range, or an item that stands alone. -/
def readSetItem : Token → Read SetItem
  | .plain c => return .one c.toNat
  | .escaped c => readSetEscape c

/-- The items up to the closing bracket, which is an item itself where it comes first. -/
def readSetItems : Nat → List SetItem → Read (List SetItem)
  | 0, _ => Read.fail
  | fuel + 1, items => do
    let token ← Read.need
    if token = .plain ']' && !items.isEmpty then return items
    let first ← readSetItem token
    unless ← Read.accept '-' do return ← readSetItems fuel (items ++ [first])
    let token ← Read.need
    if token = .plain ']' then return items ++ [first, .one 45]
    match first, ← readSetItem token with
    | .one low, .one high =>
      if high < low then Read.fail
      readSetItems fuel (items ++ [.range low high])
    | _, _ => Read.fail

/-- A set after its opening bracket. -/
def readSet (flags : Flags) : Read Piece := do
  let negated ← Read.accept '^'
  let items ← readSetItems ((← get).input.length + 1) []
  return flags.setOf items negated

end ProtoRefresh.Pattern
