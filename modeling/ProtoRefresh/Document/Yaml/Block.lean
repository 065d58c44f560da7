-- Blocks of text: lines under a header, all with the same indentation.
-- They are kept as they are or folded; the header says what becomes of
-- the line ends behind them.
import ProtoRefresh.Document.Yaml.Cursor

namespace ProtoRefresh.Document.Yaml

/-! ## Headers -/

/-- What becomes of the line ends behind a block. -/
inductive Chomping
  /-- One of them stays. -/
  | clip
  | strip
  | keep
  deriving DecidableEq, Repr

/-- The chomping sign, if it comes next. -/
def chomping? : Scan (Option Chomping) := do
  match ← Scan.next with
  | some '+' =>
    Scan.skip 1
    return some .keep
  | some '-' =>
    Scan.skip 1
    return some .strip
  | _ => return none

/-- The indentation that a header gives, if it comes next. -/
def increment? : Scan (Option Nat) := do
  match ← Scan.next with
  | some c =>
    if c.isDigit then
      if c = '0' then Scan.fail
      Scan.skip 1
      return some (c.toNat - 48)
    return none
  | none => return none

/-- The header of a block, its two parts in either order. -/
def blockHeader : Scan (Chomping × Option Nat) := do
  let before ← chomping?
  let increment ← increment?
  let after ← if before.isNone && increment.isSome then chomping? else pure none
  unless endsName (← Scan.next) do Scan.fail
  Scan.skipLine
  return ((before.or after).getD .clip, increment)

/-! ## Indentation -/

/-- The line ends before the first line, and the widest indentation up to there. -/
def leadingBreaks : Nat → Nat → Scan (List Char × Nat)
  | 0, widest => return ([], widest)
  | n + 1, widest => do
    Scan.skipSpaces
    let widest := max widest (← Scan.column)
    let first ← Scan.lineBreak
    if first.isEmpty then return ([], widest)
    let (more, widest) ← leadingBreaks n widest
    return (first ++ more, widest)

/-- Goes over spaces up to a column. -/
def indentTo (width : Nat) : Scan Unit := do
  let spaces := (← Scan.rest).takeWhile (· == ' ')
  Scan.skip (min spaces.length (width - (← Scan.column)))

/-- The line ends before the next line, and its indentation. -/
def breaksTo (width : Nat) : Nat → Scan (List Char)
  | 0 => return []
  | n + 1 => do
    indentTo width
    let first ← Scan.lineBreak
    if first.isEmpty then return []
    return first ++ (← breaksTo width n)

/-! ## Lines -/

structure BlockText where
  text : List Char
  /-- The end of the last line. -/
  ending : List Char
  /-- The line ends behind it. -/
  trailing : List Char

/-- Whether a line of the block comes next. -/
def isInBlock (width : Nat) : Scan Bool := return (← Scan.column) = width && (← Scan.next).isSome

/-- Whether the next line starts with a word. -/
def isFoldable : Scan Bool := return !((← Scan.next).any isTabOrSpace)

/-- What stands between two lines: in a folded block a line end between two lines that start with
words is joined. -/
def lineJoint (folded : Bool) (ending after : List Char) : List Char :=
  if folded && ending = ['\n'] then (if after.isEmpty then [' '] else []) else ending

/-- The lines of a block behind some line ends. -/
def blockLines (folded : Bool) (width : Nat) : Nat → List Char → Scan BlockText
  | 0, breaks => return ⟨[], [], breaks⟩
  | n + 1, breaks => do
    unless ← isInBlock width do return ⟨[], [], breaks⟩
    let foldable ← isFoldable
    let line ← Scan.takeWhile fun c => !isBreak c
    let ending ← Scan.lineBreak
    let after ← breaksTo width (← Scan.bound)
    if ← isInBlock width then
      let joint := lineJoint (folded && foldable && (← isFoldable)) ending after
      let block ← blockLines folded width n after
      return { block with text := breaks ++ line ++ joint ++ block.text }
    else return ⟨breaks ++ line, ending, after⟩

/-- A block from its sign on, inside lines of the given least indentation. -/
def blockText (folded : Bool) (least : Nat) : Scan (List Char) := do
  Scan.skip 1
  let (chomping, increment) ← blockHeader
  let bound ← Scan.bound
  let (width, breaks) ←
    match increment with
    | some increment => do
      let width := least + increment - 1
      pure (width, ← breaksTo width bound)
    | none => do
      let (breaks, widest) ← leadingBreaks bound 0
      pure (max least widest, breaks)
  let block ← blockLines folded width bound breaks
  return block.text ++ (if chomping = .strip then [] else block.ending) ++
    (if chomping = .keep then block.trailing else [])

end ProtoRefresh.Document.Yaml
