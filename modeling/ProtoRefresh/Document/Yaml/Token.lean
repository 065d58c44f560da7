-- The tokens of a text. Indentation is told by tokens of its own: a
-- collection in the block style opens where a line is indented further
-- and closes where one is indented less. A key that has no sign of its
-- own is told only by the colon behind it, and its sign is then put in
-- before it.
import ProtoRefresh.Document.Yaml.Block
import ProtoRefresh.Document.Yaml.Directive
import ProtoRefresh.Document.Yaml.Plain
import ProtoRefresh.Document.Yaml.Quoted

namespace ProtoRefresh.Document.Yaml

/-! ## Tokens -/

inductive Token
  | directive (directive : Directive)
  | documentStart
  | documentEnd
  | blockSequence
  | blockMapping
  | blockEnd
  | flowSequence
  | flowSequenceEnd
  | flowMapping
  | flowMappingEnd
  | key
  | value
  /-- An item in the block style. -/
  | entry
  | comma
  | alias (name : String)
  | anchor (name : String)
  | tag (name : TagName)
  | scalar (text : List Text.CodePoint) (plain : Bool)
  deriving DecidableEq, Repr

/-! ## The state of the reading -/

/-- A place where a key may start that has no sign of its own. -/
structure KeyPlace where
  /-- How many tokens stand before it. -/
  number : Nat
  /-- Whether nothing but a key may stand there. -/
  required : Bool
  index : Nat
  line : Nat
  column : Nat
  deriving Repr

structure Reading where
  cursor : Cursor
  /-- The tokens so far, the last one first. -/
  tokens : List Token := []
  count : Nat := 0
  /-- Whether a key without a sign may start here. -/
  keyAllowed : Bool := true
  /-- The key that may have started on this level of flow brackets. -/
  key : Option KeyPlace := none
  /-- The keys that may have started on the levels around it. -/
  outer : List (Option KeyPlace) := []
  /-- The columns of the open block collections, the innermost one first. -/
  indents : List Nat := []

abbrev Read := StateT Reading (Except YamlError)

namespace Read

def fail {α : Type} : Read α := throw .malformed

/-- A reading of text. -/
def scan {α : Type} (part : Scan α) : Read α := do
  let s ← get
  let (a, cursor) ← (part.run s.cursor : Except YamlError _)
  set { s with cursor }
  return a

def emit (token : Token) : Read Unit :=
  modify fun s => { s with tokens := token :: s.tokens, count := s.count + 1 }

/-- Puts tokens, the last one first, behind the first `number` ones. -/
def insert (number : Nat) (tokens : List Token) : Read Unit :=
  modify fun s =>
    let late := s.count - number
    { s with
      tokens := s.tokens.take late ++ tokens ++ s.tokens.drop late
      count := s.count + tokens.length }

/-- Whether the place is between flow brackets. -/
def inFlow : Read Bool := return !(← get).outer.isEmpty

def allowKey (allowed : Bool) : Read Unit := modify fun s => { s with keyAllowed := allowed }

/-! ## Indentation -/

/-- The column of the innermost block collection. -/
def indent : Read (Option Nat) := return (← get).indents.head?

/-- The least column of lines inside the innermost block collection. -/
def innerColumn : Read Nat := return ((← indent).map (· + 1)).getD 0

/-- Closes the block collections that are indented further than a column, or all of them. -/
def closeBlocks (column : Option Nat) : Read Unit := do
  if ← inFlow then return
  let s ← get
  let closed := s.indents.takeWhile fun indent => column.all (· < indent)
  set { s with indents := s.indents.drop closed.length }
  closed.forM fun _ => emit .blockEnd

/-- Opens a block collection at a column, if it is indented further than the innermost one. -/
def openBlock (column : Nat) : Read Bool := do
  if (← indent).all (· < column) then
    modify fun s => { s with indents := column :: s.indents }
    return true
  return false

/-! ## Keys without signs -/

/-- Gives up the key that may have started on this level. -/
def dropKey : Read Unit := do
  if (← get).key.any fun key => key.required then fail
  modify fun s => { s with key := none }

/-- Notes that a key may start here. -/
def noteKey : Read Unit := do
  let s ← get
  if s.keyAllowed then
    dropKey
    let c := s.cursor
    let required := s.outer.isEmpty && s.indents.head? = some c.column
    modify fun s => { s with key := some ⟨s.count, required, c.index, c.line, c.column⟩ }

/-- Whether a key that started at a place cannot end here: it has to be on one line, and short. -/
def isStale (c : Cursor) (key : KeyPlace) : Bool := key.line != c.line || 1024 < c.index - key.index

/-- Gives up the keys that cannot end here. -/
def dropStaleKeys : Read Unit := do
  let s ← get
  let stale := isStale s.cursor
  if (s.key :: s.outer).any fun key => key.any fun key => stale key && key.required then fail
  let fresh := fun key : Option KeyPlace => key.filter fun key => !stale key
  set { s with key := fresh s.key, outer := s.outer.map fresh }

/-! ## Tokens one by one -/

/-- Goes over spaces, comments and line ends. Behind a line end a key may start in the block
style. -/
def skipToToken : Nat → Read Unit
  | 0 => return
  | n + 1 => do
    scan Scan.skipSpaces
    if (← scan Scan.next) = some '#' then
      let _ ← scan (Scan.takeWhile fun c => !isBreak c)
    if (← scan Scan.lineBreak).isEmpty then return
    if !(← inFlow) then allowKey true
    skipToToken n

/-- A token that stands alone and ends everything before it. -/
def readMark (token : Token) : Read Unit := do
  closeBlocks none
  dropKey
  allowKey false
  scan (Scan.skip 3)
  emit token

def readDirective : Read Unit := do
  closeBlocks none
  dropKey
  allowKey false
  emit (.directive (← scan directive))

/-- An opening flow bracket. -/
def readOpening (token : Token) : Read Unit := do
  noteKey
  modify fun s => { s with outer := s.key :: s.outer, key := none, keyAllowed := true }
  scan (Scan.skip 1)
  emit token

/-- A closing flow bracket. -/
def readClosing (token : Token) : Read Unit := do
  dropKey
  match (← get).outer with
  | [] => fail
  | key :: outer =>
    modify fun s => { s with key, outer, keyAllowed := false }
    scan (Scan.skip 1)
    emit token

def readComma : Read Unit := do
  allowKey true
  dropKey
  scan (Scan.skip 1)
  emit .comma

/-- Opens a block collection for a sign at this place. -/
def openForSign (collection : Token) : Read Unit := do
  if ← inFlow then return
  if !(← get).keyAllowed then fail
  if ← openBlock (← scan Scan.column) then emit collection

def readEntry : Read Unit := do
  openForSign .blockSequence
  allowKey true
  dropKey
  scan (Scan.skip 1)
  emit .entry

/-- The sign of a key. -/
def readKey : Read Unit := do
  openForSign .blockMapping
  allowKey !(← inFlow)
  dropKey
  scan (Scan.skip 1)
  emit .key

/-- The sign of a value. It turns what may be a key into one. -/
def readValue : Read Unit := do
  match (← get).key with
  | some key =>
    modify fun s => { s with key := none }
    let opens ← if ← inFlow then pure false else openBlock key.column
    insert key.number (if opens then [.key, .blockMapping] else [.key])
    allowKey false
  | none =>
    openForSign .blockMapping
    allowKey !(← inFlow)
    dropKey
  scan (Scan.skip 1)
  emit .value

/-- A token that a key may start with. -/
def readStarting (token : Scan Token) : Read Unit := do
  noteKey
  allowKey false
  emit (← scan token)

/-- A block of text. -/
def readBlock (folded : Bool) : Read Unit := do
  allowKey true
  dropKey
  let least := max (← innerColumn) 1
  let text ← scan (blockText folded least)
  emit (.scalar (Text.ofChars text) false)

def readQuoted (double : Bool) : Read Unit :=
  readStarting do return .scalar (← quotedText double) false

def readPlain : Read Unit := do
  noteKey
  let (text, crossed) ← scan (plain (← inFlow) (← innerColumn))
  allowKey crossed
  emit (.scalar (Text.ofChars text) true)

/-! ## All tokens -/

/-- Reads the token that starts with the given text. -/
def readToken (text : List Char) (column : Nat) : Read Unit := do
  let flow ← inFlow
  let atMark ← if column = 0 then scan Scan.isAtMark else pure false
  let behind := (text.drop 1).head?
  match text with
  | '%' :: _ => if column = 0 then readDirective else fail
  | '[' :: _ => readOpening .flowSequence
  | '\x7b' :: _ => readOpening .flowMapping
  | ']' :: _ => readClosing .flowSequenceEnd
  | '\x7d' :: _ => readClosing .flowMappingEnd
  | ',' :: _ => readComma
  | '*' :: _ => readStarting do return .alias (← anchorName)
  | '&' :: _ => readStarting do return .anchor (← anchorName)
  | '!' :: _ => readStarting do return .tag (← tagName)
  | '\'' :: _ => readQuoted false
  | '"' :: _ => readQuoted true
  | c :: _ =>
    if atMark then readMark (if c = '-' then .documentStart else .documentEnd)
    else if c = '-' && endsWord behind then readEntry
    else if c = '?' && (flow || endsWord behind) then readKey
    else if c = ':' && (flow || endsWord behind) then readValue
    else if (c = '|' || c = '>') && !flow then readBlock (c = '>')
    else if startsPlain flow text then readPlain
    else fail
  | [] => fail

/-- Reads what is left of the text. -/
def readAll : Nat → Read Unit
  | 0 => fail
  | n + 1 => do
    skipToToken (← scan Scan.bound)
    dropStaleKeys
    let c := (← get).cursor
    closeBlocks (some c.column)
    if c.rest.isEmpty then
      closeBlocks none
      dropKey
    else
      readToken c.rest c.column
      readAll n

end Read

/-- The tokens of a text. -/
def Token.ofText (text : List Char) : Except YamlError (List Token) := do
  if !text.all isAllowed then throw .malformed
  let start : Cursor := { rest := text }
  let start := if text.head? = some '\ufeff' then start.advance else start
  let (_, reading) ← (Read.readAll (text.length + 1)).run { cursor := start }
  return reading.tokens.reverse

end ProtoRefresh.Document.Yaml
