-- What follows the opening parenthesis of a group: its kind, its name, or
-- flags. Flags for the whole pattern may stand at its very start only.
import ProtoRefresh.Pattern.Escape

namespace ProtoRefresh.Pattern

open Text

/-! ## Flags in a group -/

/-- Flag letters up to a character that is none, with the letters read so far. -/
def readFlagLetters : Nat → Char → List Char → Read (List Char × Char)
  | 0, _, _ => Read.fail
  | fuel + 1, c, letters => do
    if c = 'L' then Read.fail
    let letters := letters ++ [c]
    if letters.contains 'a' && letters.contains 'u' then Read.fail
    match ← Read.need with
    | .plain d =>
      if d = ')' || d = '-' || d = ':' then return (letters, d)
      if !Flags.isLetter d then Read.fail
      readFlagLetters fuel d letters
    | .escaped _ => Read.fail

/-- Flag letters to turn off, up to the colon. -/
def readOffLetters : Nat → Token → List Char → Read (List Char)
  | 0, _, _ => Read.fail
  | fuel + 1, .plain c, letters => do
    if !Flags.isLetter c || c = 'a' || c = 'u' || c = 'L' then Read.fail
    let letters := letters ++ [c]
    let token ← Read.need
    if token = .plain ':' then return letters
    readOffLetters fuel token letters
  | _, .escaped _, _ => Read.fail

/-- What the letters of a group ask for. -/
inductive FlagGroup
  | whole (on : List Char)
  | inside (on off : List Char)

/-- The flags of a group after its first letter or dash. -/
def readFlags (c : Char) : Read FlagGroup := do
  let fuel := (← get).input.length + 1
  let (on, close) ← if c = '-' then pure ([], '-') else readFlagLetters fuel c []
  if close = ')' then return .whole on
  if on.contains 't' then Read.fail
  let off ← if close = '-' then do readOffLetters fuel (← Read.need) [] else pure []
  if off.contains 't' || on.any off.contains then Read.fail
  return .inside on off

/-! ## Groups -/

/-- Opens a group and gives its number. -/
def openGroup (name : Option (List Char)) : Read Nat := do
  let s ← get
  let index := s.groups
  match name with
  | none => set { s with groups := index + 1 }
  | some name =>
    if (s.names.lookup name).isSome then Read.fail
    set { s with groups := index + 1, names := (name, index) :: s.names }
  return index

/-- The width of a group that is closed. -/
def Reading.widthOf (s : Reading) (index : Nat) : Width := (s.widths.lookup index).getD ⟨0, 0⟩

/-- Closes a group. -/
def closeGroup (index : Nat) (body : Node) : Read Piece := do
  modify fun s => { s with widths := (index, body.width s.widthOf) :: s.widths }
  return ⟨.group index body, .item⟩

/-- The piece of a look ahead or behind. A look behind has to have one width. -/
def lookPiece (negated backward : Bool) (body : Node) : Read Piece := do
  if !backward then return ⟨.ahead negated body, .item⟩
  let width := body.width (← get).widthOf
  if width.least ≠ width.most || roundLimit < width.least then
    modify fun s => { s with unfit := true }
  return ⟨.behind negated width.least body, .item⟩

/-- The name of a group, checked. -/
def readGroupName (close : Char) : Read (List Char) := do
  let name ← Read.takeName close
  unless isIdentifier name do Read.fail
  return name

/-- The group that a condition names. -/
def readCondition : Read Nat := do
  let name ← Read.takeName ')'
  let index ←
    if isIdentifier name then
      match (← get).names.lookup name with
      | some index => pure index
      | none => Read.fail
    else
      match groupNumber? name with
      | some (index + 1) =>
        modify fun s => { s with asked := (index + 1) :: s.asked }
        pure (index + 1)
      | _ => Read.fail
  checkGroup index false
  return index

/-- Takes a comment up to its closing parenthesis. -/
def skipComment : Read Unit := do
  let s ← get
  match s.input.dropWhile (· != .plain ')') with
  | [] => Read.fail
  | _ :: rest => set { s with input := rest }

/-- What follows an opening parenthesis. -/
inductive Opening
  | capture (name : Option (List Char))
  | plain (flags : Flags)
  | atomic
  | look (negated backward : Bool)
  | condition (index : Nat)
  /-- A comment or a flag group, which is complete and adds no piece. -/
  | nothing
  | reference (index : Nat)

/-- Applies flags to the whole pattern, which only its start may do. -/
def setWholeFlags (letters : List Char) (atStart : Bool) : Read Unit := do
  unless atStart do Read.fail
  modify fun s => { s with
    flags := letters.foldl (fun flags c => flags.set c true) s.flags
    sawAscii := s.sawAscii || letters.contains 'a'
    sawUnicode := s.sawUnicode || letters.contains 'u' }

/-- Reads what follows an opening parenthesis. -/
def readOpening (flags : Flags) (atStart : Bool) : Read Opening := do
  unless ← Read.accept '?' do return .capture none
  match ← Read.need with
  | .escaped _ => Read.fail
  | .plain c =>
    match c with
    | 'P' =>
      if ← Read.accept '<' then return .capture (some (← readGroupName '>'))
      if ← Read.accept '=' then
        let name ← readGroupName ')'
        match (← get).names.lookup name with
        | some index =>
          checkGroup index true
          return .reference index
        | none => Read.fail
      Read.fail
    | ':' => return .plain flags
    | '#' =>
      skipComment
      return .nothing
    | '=' => return .look false false
    | '!' => return .look true false
    | '<' =>
      match ← Read.need with
      | .plain '=' => return .look false true
      | .plain '!' => return .look true true
      | _ => Read.fail
    | '(' => return .condition (← readCondition)
    | '>' => return .atomic
    | _ =>
      if !(Flags.isLetter c || c = '-') then Read.fail
      match ← readFlags c with
      | .whole on =>
        setWholeFlags on atStart
        return .nothing
      | .inside on off =>
        let raised := on.foldl (fun flags c => flags.set c true) flags
        return .plain (off.foldl (fun flags c => flags.set c false) raised)

end ProtoRefresh.Pattern
