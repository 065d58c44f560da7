-- Patterns as trees. A node says what it accepts from a place in a line;
-- its width bounds how many characters that takes.
import ProtoRefresh.Pattern.CharSet

namespace ProtoRefresh.Pattern

/-! ## The tree -/

/-- How many rounds a repetition takes first, and whether it gives any back. -/
inductive Appetite
  | greedy
  | lazy
  | possessive
  deriving DecidableEq, Repr

/-- A condition on a place that takes no character. -/
inductive Anchor
  | textStart
  | lineStart
  | textEnd
  | lineEnd
  /-- The end of the text, or before a line end that closes it. -/
  | finalLineEnd
  | wordEdge (alphabet : Alphabet)
  | noWordEdge (alphabet : Alphabet)
  deriving DecidableEq, Repr

inductive Node
  | empty
  | one (set : CharSet)
  | any (newlineToo : Bool)
  | anchor (kind : Anchor)
  | seq (first second : Node)
  | alt (first second : Node)
  | repeated (appetite : Appetite) (least : Nat) (most : Option Nat) (body : Node)
  | group (index : Nat) (body : Node)
  | atomic (body : Node)
  | ahead (negated : Bool) (body : Node)
  | behind (negated : Bool) (width : Nat) (body : Node)
  | sameAs (index : Nat) (caseRule : CaseRule)
  | ifGroup (index : Nat) (yes no : Node)
  deriving DecidableEq, Repr

/-- Nodes one after the other. -/
def Node.ofList : List Node → Node
  | [] => .empty
  | [node] => node
  | node :: rest => .seq node (ofList rest)

/-! ## Widths -/

/-- The least and the greatest number of characters. -/
structure Width where
  least : Nat
  most : Nat
  deriving DecidableEq, Repr

namespace Width

/-- Widths above this count as this. -/
def limit : Nat := 18446744073709551616

def capped (w : Width) : Width := ⟨min w.least limit, min w.most limit⟩

def add (v w : Width) : Width := ⟨v.least + w.least, v.most + w.most⟩

def either (v w : Width) : Width := ⟨min v.least w.least, max v.most w.most⟩

/-- The width of a repetition. -/
def times (w : Width) (least : Nat) (most : Option Nat) : Width :=
  ⟨w.least * least,
    match most with
    | none => if w.most = 0 then 0 else limit
    | some n => w.most * n⟩

end Width

/-- The width of a node, given the widths of the groups that it refers to. -/
def Node.width (groups : Nat → Width) : Node → Width
  | .empty => ⟨0, 0⟩
  | .one _ => ⟨1, 1⟩
  | .any _ => ⟨1, 1⟩
  | .anchor _ => ⟨0, 0⟩
  | .seq first second => ((first.width groups).add (second.width groups)).capped
  | .alt first second => (first.width groups).either (second.width groups)
  | .repeated _ least most body => ((body.width groups).times least most).capped
  | .group _ body => body.width groups
  | .atomic body => body.width groups
  | .ahead _ _ => ⟨0, 0⟩
  | .behind _ _ _ => ⟨0, 0⟩
  | .sameAs index _ => groups index
  | .ifGroup _ yes no => (yes.width groups).either (no.width groups)

end ProtoRefresh.Pattern
