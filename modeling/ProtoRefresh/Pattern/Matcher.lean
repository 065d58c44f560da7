-- Where a pattern accepts. A matcher tries a node at a place and hands
-- every place where the node may end to what follows, in the order of
-- the pattern's preference; the first that lets the rest accept wins.
-- A repetition that has had its least number of rounds starts no round
-- where the round before it started, so rounds that take nothing end it.
import ProtoRefresh.Pattern.Node

namespace ProtoRefresh.Pattern

open Text

/-! ## Places -/

/-- A place in a line, with the bounds of the groups seen so far, last first. -/
structure Place where
  before : List CodePoint
  rest : List CodePoint
  index : Nat
  starts : List (Nat × Nat)
  ends : List (Nat × Nat)
  deriving DecidableEq, Repr

namespace Place

/-- The place after the first `n` characters of the rest. -/
def skip (place : Place) : Nat → Place
  | 0 => place
  | n + 1 =>
    match place.rest with
    | [] => place
    | c :: rest => skip { place with before := c :: place.before, rest := rest, index := place.index + 1 } n

/-- The place `n` characters earlier. -/
def back (place : Place) : Nat → Place
  | 0 => place
  | n + 1 =>
    match place.before with
    | [] => place
    | c :: before => back { place with before := before, rest := c :: place.rest, index := place.index - 1 } n

/-- The bounds of a group that is complete. -/
def bounds? (place : Place) (group : Nat) : Option (Nat × Nat) :=
  match place.starts.lookup group, place.ends.lookup group with
  | some first, some last => if first ≤ last then some (first, last) else none
  | _, _ => none

/-- The text of a group that is complete. -/
def captured? (place : Place) (line : List CodePoint) (group : Nat) : Option (List CodePoint) :=
  (place.bounds? group).map fun (first, last) => (line.drop first).take (last - first)

/-- Whether a word starts or ends here. -/
def atWordEdge (place : Place) (alphabet : Alphabet) : Bool :=
  let isWord (side : List CodePoint) : Bool := side.head?.any fun c => c.isIn alphabet.isWordChar
  isWord place.before != isWord place.rest

end Place

/-- Whether an anchor holds. No word edge is told in an empty line. -/
def Anchor.holds (place : Place) : Anchor → Bool
  | .textStart => place.before.isEmpty
  | .lineStart => place.before.isEmpty || place.before.head? = some (.char '\n')
  | .textEnd => place.rest.isEmpty
  | .lineEnd => place.rest.isEmpty || place.rest.head? = some (.char '\n')
  | .finalLineEnd => place.rest.isEmpty || place.rest = [.char '\n']
  | .wordEdge alphabet =>
    !(place.before.isEmpty && place.rest.isEmpty) && place.atWordEdge alphabet
  | .noWordEdge alphabet =>
    !(place.before.isEmpty && place.rest.isEmpty) && !place.atWordEdge alphabet

/-! ## Matchers -/

/-- From a place and what follows, the place where all of it ends. -/
abbrev Matcher := Place → (Place → Option Place) → Option Place

namespace Matcher

/-- A fixed number of rounds. -/
def times (m : Matcher) : Nat → Matcher
  | 0, place, next => next place
  | n + 1, place, next => m place fun p => times m n p next

/-- Up to a number of further rounds, as many as possible first. -/
def greedy (m : Matcher) : Nat → Option Nat → Matcher
  | 0, _, place, next => next place
  | n + 1, last, place, next =>
    if last = some place.index then next place
    else
      match m place fun p => greedy m n (some place.index) p next with
      | some p => some p
      | none => next place

/-- Up to a number of further rounds, as few as possible first. -/
def lazy (m : Matcher) : Nat → Option Nat → Matcher
  | 0, _, place, next => next place
  | n + 1, last, place, next =>
    match next place with
    | some p => some p
    | none =>
      if last = some place.index then none
      else m place fun p => lazy m n (some place.index) p next

/-- Up to a number of further rounds, as many as possible, none given back. -/
def possessive (m : Matcher) : Nat → Option Nat → Place → Place
  | 0, _, place => place
  | n + 1, last, place =>
    if last = some place.index then place
    else
      match m place some with
      | some p => possessive m n (some place.index) p
      | none => place

/-- A number of rounds, each taken at its first way. -/
def fixed (m : Matcher) : Nat → Place → Option Place
  | 0, place => some place
  | n + 1, place => (m place some).bind (fixed m n)

/-- The rounds worth trying after the least number: each but the first takes a character. -/
def further (least : Nat) (most : Option Nat) (place : Place) : Nat :=
  match most with
  | none => place.rest.length + 1
  | some n => min (n - least) (place.rest.length + 1)

/-- A repetition. -/
def repeated (m : Matcher) (least : Nat) (most : Option Nat) : Appetite → Matcher
  | .greedy => fun place next =>
    m.times least place fun p => m.greedy (further least most p) none p next
  | .lazy => fun place next =>
    m.times least place fun p => m.lazy (further least most p) none p next
  | .possessive => fun place next =>
    (m.fixed least place).bind fun p => next (m.possessive (further least most p) none p)

/-- A condition that keeps the place and takes the groups that it saw. -/
def look (m : Matcher) (negated : Bool) (start : Place) : Matcher := fun place next =>
  match m start some, negated with
  | some p, false => next { place with starts := p.starts, ends := p.ends }
  | none, true => next place
  | _, _ => none

end Matcher

/-- Whether two code points are equal under a case rule. -/
def CaseRule.same : CaseRule → CodePoint → CodePoint → Bool
  | .exact, c, d => c == d
  | .ignored alphabet, c, d => alphabet.lower c.code == alphabet.lower d.code

/-- Whether a text starts with another one under a case rule. -/
def CaseRule.startsWith (rule : CaseRule) : List CodePoint → List CodePoint → Bool
  | _, [] => true
  | [], _ :: _ => false
  | c :: text, d :: start => rule.same c d && startsWith rule text start

/-- The matcher of a node on a line. -/
def Node.matcher (line : List CodePoint) : Node → Matcher
  | .empty => fun place next => next place
  | .one set => fun place next =>
    match place.rest with
    | c :: _ => if set.has c then next (place.skip 1) else none
    | [] => none
  | .any newlineToo => fun place next =>
    match place.rest with
    | c :: _ => if newlineToo || c != .char '\n' then next (place.skip 1) else none
    | [] => none
  | .anchor kind => fun place next => if kind.holds place then next place else none
  | .seq first second => fun place next =>
    first.matcher line place fun p => second.matcher line p next
  | .alt first second => fun place next =>
    match first.matcher line place next with
    | some p => some p
    | none => second.matcher line place next
  | .repeated appetite least most body => (body.matcher line).repeated least most appetite
  | .group index body => fun place next =>
    body.matcher line { place with starts := (index, place.index) :: place.starts } fun p =>
      next { p with ends := (index, p.index) :: p.ends }
  | .atomic body => fun place next => (body.matcher line place some).bind next
  | .ahead negated body => fun place next =>
    (body.matcher line).look negated place place next
  | .behind negated width body => fun place next =>
    if width ≤ place.index then (body.matcher line).look negated (place.back width) place next
    else if negated then next place else none
  | .sameAs index rule => fun place next =>
    match place.captured? line index with
    | some text =>
      if rule.startsWith place.rest text then next (place.skip text.length) else none
    | none => none
  | .ifGroup index yes no => fun place next =>
    if (place.bounds? index).isSome then yes.matcher line place next
    else no.matcher line place next

/-! ## Search -/

/-- Whether a node accepts at a place. -/
def Node.acceptsAt (node : Node) (line : List CodePoint) (place : Place) : Bool :=
  (node.matcher line place some).isSome

/-- The first place from here on where the node accepts, with `rest` still to pass. -/
def Node.searchFrom (accepts : Place → Bool) : List CodePoint → List CodePoint → Nat → Option Nat
  | before, rest, index =>
    if accepts ⟨before, rest, index, [], []⟩ then some index
    else
      match rest with
      | [] => none
      | c :: rest => searchFrom accepts (c :: before) rest (index + 1)
  termination_by _ rest => rest.length

/-- The start of the first match in a line. -/
def Node.firstMatch (node : Node) (line : List CodePoint) : Option Nat :=
  Node.searchFrom (node.acceptsAt line) [] line 0

end ProtoRefresh.Pattern
