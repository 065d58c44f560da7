-- A place in a text, with the line and the column that it is in, and
-- readings that go on from there.
import ProtoRefresh.Document.Yaml.Basic

namespace ProtoRefresh.Document.Yaml

/-! ## Places -/

structure Cursor where
  rest : List Char
  /-- The number of characters before the place. -/
  index : Nat := 0
  line : Nat := 0
  column : Nat := 0
  deriving Repr

namespace Cursor

/-- One character on. A byte order mark takes no column. -/
def advance (c : Cursor) : Cursor :=
  match c.rest with
  | [] => c
  | char :: rest =>
    if isBreak char then ⟨rest, c.index + 1, c.line + 1, 0⟩
    else ⟨rest, c.index + 1, c.line, if char = '\ufeff' then c.column else c.column + 1⟩

/-- Some characters on. -/
def skip : Nat → Cursor → Cursor
  | 0, c => c
  | n + 1, c => skip n c.advance

end Cursor

/-! ## Readings -/

/-- A reading of a part of the text. -/
abbrev Scan := StateT Cursor (Except YamlError)

namespace Scan

def fail {α : Type} : Scan α := throw .malformed

/-- The text that is left. -/
def rest : Scan (List Char) := return (← get).rest

/-- The next character. -/
def next : Scan (Option Char) := return (← rest).head?

def column : Scan Nat := return (← get).column

def skip (count : Nat) : Scan Unit := modify (Cursor.skip count)

/-- The characters of a class that come next. -/
def takeWhile (p : Char → Bool) : Scan (List Char) := do
  let run := (← rest).takeWhile p
  skip run.length
  return run

def skipSpaces : Scan Unit := do
  let _ ← takeWhile (· == ' ')

/-- The end of the line, if it comes next, as it is kept: a newline for each kind of line end but
the separators. -/
def lineBreak : Scan (List Char) := do
  match ← next with
  | some c =>
    if isBreak c then
      skip 1
      return [if c = '\u0085' then '\n' else c]
    return []
  | none => return []

/-- Goes over spaces and a comment to the end of the line. -/
def skipLine : Scan Unit := do
  skipSpaces
  if (← next) = some '#' then
    let _ ← takeWhile fun c => !isBreak c
  unless endsLine (← next) do fail
  let _ ← lineBreak

/-- Whether a mark between documents comes next. -/
def isAtMark : Scan Bool := do
  let text ← rest
  let start := text.take 3
  return (start = ['-', '-', '-'] || start = ['.', '.', '.']) && endsWord text[3]?

/-- More than the number of steps that a reading of the rest can take. -/
def bound : Scan Nat := return (← rest).length + 1

end Scan

/-- What becomes of line ends between words: a single one is a space, of several the first one
vanishes. A separator always stays. -/
def joinLines (first : List Char) (more : List Char) : List Char :=
  if first ≠ ['\n'] then first ++ more else if more.isEmpty then [' '] else more

end ProtoRefresh.Document.Yaml
