-- The lines of a text. Only a newline ends a line, together with one
-- carriage return before it; a carriage return elsewhere is text.
import ProtoRefresh.Text.CodePoint

namespace ProtoRefresh.Rewrite

open Text

/-! ## Lines -/

/-- What closes a line. -/
inductive Ending
  | newline
  | carriageReturn
  /-- The text ends without a newline. -/
  | none
  deriving DecidableEq, Repr

def Ending.text : Ending → List CodePoint
  | .newline => [.char '\n']
  | .carriageReturn => [.char '\r', .char '\n']
  | .none => []

structure Line where
  body : List CodePoint
  ending : Ending
  deriving DecidableEq, Repr

/-- The code points of a line. -/
def Line.text (line : Line) : List CodePoint := line.body ++ line.ending.text

/-! ## Cutting and joining -/

/-- Puts a code point before the first of some lines. -/
def Line.push (c : CodePoint) : List Line → List Line
  | [] => [⟨[c], .none⟩]
  | line :: lines => ⟨c :: line.body, line.ending⟩ :: lines

/-- The lines of a text. -/
def Line.ofText : List CodePoint → List Line
  | [] => []
  | .char '\n' :: rest => ⟨[], .newline⟩ :: ofText rest
  | .char '\r' :: .char '\n' :: rest => ⟨[], .carriageReturn⟩ :: ofText rest
  | c :: rest => Line.push c (ofText rest)

/-- The text of some lines. -/
def Line.join (lines : List Line) : List CodePoint := lines.flatMap Line.text

theorem Line.join_push (c : CodePoint) (lines : List Line) :
    Line.join (Line.push c lines) = c :: Line.join lines := by
  cases lines <;> simp [Line.push, Line.join, Line.text, Ending.text]

/-- Cutting a text loses nothing. -/
theorem Line.join_ofText (text : List CodePoint) : Line.join (Line.ofText text) = text := by
  fun_induction Line.ofText text with
  | case1 => rfl
  | case2 rest ih => simpa [Line.join, Line.text, Ending.text] using ih
  | case3 rest ih => simpa [Line.join, Line.text, Ending.text] using ih
  | case4 c rest _ _ ih => rw [Line.join_push, ih]

end ProtoRefresh.Rewrite
