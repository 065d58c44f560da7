-- Rules that rewrite lines. A rule looks for its first match in a line;
-- it keeps the text before the match and puts its replacement for the
-- rest, or deletes the line when it has none. Each rule sees what the
-- rule before it made of the line.
import ProtoRefresh.Pattern.Matcher
import ProtoRefresh.Pattern.Reader
import ProtoRefresh.Rewrite.Line

namespace ProtoRefresh.Rewrite

open Text

/-! ## Rules -/

structure Rule where
  /-- The start of the first match in a line. -/
  firstMatch : List CodePoint → Option Nat
  /-- What stands for the rest of the line; without it the line goes. -/
  replacement : Option (List CodePoint)

/-- The line after a rule, or nothing where the rule deletes it. -/
def Rule.apply (rule : Rule) (line : List CodePoint) : Option (List CodePoint) :=
  match rule.firstMatch line with
  | none => some line
  | some start => rule.replacement.map (line.take start ++ ·)

/-- The line after all rules in order. -/
def rewriteLine (rules : List Rule) (line : List CodePoint) : Option (List CodePoint) :=
  rules.foldlM (fun line rule => rule.apply line) line

/-- The text after all rules on each of its lines. A kept line keeps its ending. -/
def rewriteText (rules : List Rule) (text : List CodePoint) : List CodePoint :=
  Line.join <| (Line.ofText text).filterMap fun line =>
    (rewriteLine rules line.body).map fun body => ⟨body, line.ending⟩

/-! ## Where rules come from -/

/-- The place of the first occurrence of a text, from a place on. -/
def findFrom (marker : List CodePoint) : List CodePoint → Nat → Option Nat
  | [], index => if marker.isEmpty then some index else none
  | c :: rest, index =>
    if marker.isPrefixOf (c :: rest) then some index else findFrom marker rest (index + 1)

/-- The place of the first occurrence of a text. -/
def find? (marker line : List CodePoint) : Option Nat := findFrom marker line 0

/-- A rule for lines that hold a marker. -/
def Rule.literal (marker : String) (replacement : Option String) : Rule :=
  ⟨find? (points marker), replacement.map points⟩

/-- A rule for lines that a pattern accepts somewhere. -/
def Rule.ofPattern (pattern : Pattern.Node) (replacement : Option (List CodePoint)) : Rule :=
  ⟨pattern.firstMatch, replacement⟩

/-- A rule as it is written: a pattern, and what stands for the rest of the line. Both may hold
halves of pairs. -/
structure Substitution where
  pattern : List CodePoint
  replacement : Option (List CodePoint) := none
  deriving DecidableEq, Repr

/-- The rule that a substitution describes. -/
def Substitution.rule (substitution : Substitution) : Except Pattern.PatternError Rule := do
  return .ofPattern (← Pattern.Node.ofText substitution.pattern) substitution.replacement

end ProtoRefresh.Rewrite
