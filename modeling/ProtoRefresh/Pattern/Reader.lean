-- Reading a pattern. A repetition needs an item before it that is neither
-- a condition on the place nor a repetition itself; alternatives end at a
-- closing parenthesis or at the end of the text.
import ProtoRefresh.Pattern.Opening

namespace ProtoRefresh.Pattern

open Text

/-! ## Repetitions -/

/-- The bounds between braces, if the tokens after the opening brace spell some. -/
def readBounds : Read (Option (Nat × Option Nat)) := do
  let saved ← get
  let size := saved.input.length
  let low ← Read.takeWhile Char.isDigit size
  let high ← if ← Read.accept ',' then Read.takeWhile Char.isDigit size else pure low
  unless ← Read.accept '\x7d' do
    set saved
    return none
  let least := digitsValue 10 low
  if roundLimit ≤ least then throw .tooManyRounds
  if high.isEmpty then return some (least, none)
  let most := digitsValue 10 high
  if roundLimit ≤ most then throw .tooManyRounds
  if most < least then Read.fail
  return some (least, some most)

/-- The bounds of a quantifier. A brace that opens none stands for itself. -/
def readQuantifier (c : Char) : Read (Option (Nat × Option Nat)) := do
  match c with
  | '?' => return some (0, some 1)
  | '*' => return some (0, none)
  | '+' => return some (1, none)
  | _ => if (← Read.peek) = some (.plain '\x7d') then return none else readBounds

/-- Repeats the last piece. -/
def readRepetition (flags : Flags) (pieces : List Piece) (least : Nat) (most : Option Nat) :
    Read (List Piece) := do
  match pieces with
  | ⟨body, .item⟩ :: rest =>
    let appetite ←
      if ← Read.accept '?' then pure Appetite.lazy
      else if ← Read.accept '+' then pure Appetite.possessive
      else pure Appetite.greedy
    if flags.template then modify fun s => { s with unfit := true }
    return ⟨.repeated appetite least most body, .repetition⟩ :: rest
  | _ => Read.fail

/-! ## Sequences and alternatives -/

/-- White space that a verbose pattern may hold anywhere. -/
def isPatternBlank (c : Char) : Bool := isBlankAscii c

/-- Takes a verbose comment up to the end of its line. -/
def skipLine : Read Unit :=
  modify fun s => { s with input := (s.input.dropWhile (· != .plain '\n')).tail }

/-- The node of pieces in reverse order. -/
def sequenceOf (pieces : List Piece) : Node := Node.ofList (pieces.reverse.map (·.node))

mutual

/-- Alternatives up to the end or a closing parenthesis. -/
def readAlternatives : Nat → Flags → Bool → Bool → Read Node
  | 0, _, _, _ => Read.fail
  | fuel + 1, flags, top, first => do
    let node ← readSequence fuel flags (top && first) top []
    unless ← Read.accept '|' do return node
    let s ← get
    let flags := if top then s.flags else flags
    return .alt node (← readAlternatives fuel flags top false)

/-- Pieces up to a bar, the end or a closing parenthesis; the pieces read so far come in reverse. -/
def readSequence : Nat → Flags → Bool → Bool → List Piece → Read Node
  | 0, _, _, _, _ => Read.fail
  | fuel + 1, flags, atStart, top, pieces => do
    match ← Read.peek with
    | none => return sequenceOf pieces
    | some (.plain '|') => return sequenceOf pieces
    | some (.plain ')') => return sequenceOf pieces
    | some (.escaped c) =>
      let _ ← Read.take
      let piece ← readEscape flags c
      readSequence fuel flags atStart top (piece :: pieces)
    | some (.plain c) =>
      let _ ← Read.take
      if flags.verbose && isPatternBlank c then readSequence fuel flags atStart top pieces
      else if flags.verbose && c = '#' then
        skipLine
        readSequence fuel flags atStart top pieces
      else if c = '[' then
        let piece ← readSet flags
        readSequence fuel flags atStart top (piece :: pieces)
      else if c = '?' || c = '*' || c = '+' || c = '\x7b' then
        match ← readQuantifier c with
        | some (least, most) =>
          let pieces ← readRepetition flags pieces least most
          readSequence fuel flags atStart top pieces
        | none => readSequence fuel flags atStart top (flags.setOf [.one c.toNat] false :: pieces)
      else if c = '.' then
        readSequence fuel flags atStart top (⟨.any flags.dotAll, .item⟩ :: pieces)
      else if c = '^' then
        let anchor := if flags.multiline then Anchor.lineStart else .textStart
        readSequence fuel flags atStart top (⟨.anchor anchor, .place⟩ :: pieces)
      else if c = '$' then
        let anchor := if flags.multiline then Anchor.lineEnd else .finalLineEnd
        readSequence fuel flags atStart top (⟨.anchor anchor, .place⟩ :: pieces)
      else if c = '(' then
        match ← readGroup fuel flags (atStart && pieces.isEmpty) with
        | some piece => readSequence fuel flags atStart top (piece :: pieces)
        | none =>
          let s ← get
          let flags := if top then s.flags else flags
          readSequence fuel flags atStart top pieces
      else readSequence fuel flags atStart top (flags.setOf [.one c.toNat] false :: pieces)

/-- A group after its opening parenthesis, if it adds a piece. -/
def readGroup : Nat → Flags → Bool → Read (Option Piece)
  | 0, _, _ => Read.fail
  | fuel + 1, flags, atStart => do
    match ← readOpening flags atStart with
    | .nothing => return none
    | .reference index => return some ⟨.sameAs index flags.caseRule, .item⟩
    | .plain inner =>
      let body ← readAlternatives fuel inner false false
      Read.expect ')'
      return some ⟨body, .item⟩
    | .atomic =>
      let body ← readAlternatives fuel flags false false
      Read.expect ')'
      return some ⟨.atomic body, .item⟩
    | .capture name =>
      let index ← openGroup name
      let body ← readAlternatives fuel flags false false
      Read.expect ')'
      return some (← closeGroup index body)
    | .look negated backward =>
      let saved := (← get).behindFrom
      if backward && saved.isNone then
        modify fun s => { s with behindFrom := some s.groups }
      let body ← readAlternatives fuel flags false false
      if backward then modify fun s => { s with behindFrom := saved }
      Read.expect ')'
      return some (← lookPiece negated backward body)
    | .condition index =>
      let yes ← readSequence fuel flags false false []
      let no ←
        if ← Read.accept '|' then
          let no ← readSequence fuel flags false false []
          if (← Read.peek) = some (.plain '|') then Read.fail
          pure no
        else pure .empty
      Read.expect ')'
      return some ⟨.ifGroup index yes no, .item⟩

end

/-! ## Patterns -/

/-- The pattern that a text spells. -/
def Node.ofText (text : List CodePoint) : Except PatternError Node := do
  let some tokens := Token.ofText text | throw .malformed
  let start : Reading := { input := tokens }
  let (node, s) ← (readAlternatives (4 * tokens.length + 4) {} true true).run start
  if s.sawAscii && s.sawUnicode then throw .clashingAlphabets
  if !s.input.isEmpty || s.asked.any (s.groups ≤ ·) || s.unfit then throw .malformed
  return node

/-- The text whose pattern is the given text itself. -/
def escape (text : List Char) : List Char :=
  text.flatMap fun c => if isSpecial c then ['\\', c] else [c]
where
  /-- A character that a pattern may read as more than itself. -/
  isSpecial (c : Char) : Bool :=
    "()[]\x7b\x7d?*+-|^$\\.&~# \t\n\r\x0b\x0c".toList.contains c

end ProtoRefresh.Pattern
