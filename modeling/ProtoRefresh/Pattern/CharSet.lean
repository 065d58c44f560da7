-- Sets of characters as a pattern writes them: single characters, ranges
-- and classes, with or without regard to letter case. Without regard to
-- case, a character is looked up through its lower form, and an item
-- covers every lower form that one of its characters has or shares.
import ProtoRefresh.Text.Blank
import ProtoRefresh.Text.CodePoint
import ProtoRefresh.Text.LetterCase
import ProtoRefresh.Text.Letters

namespace ProtoRefresh.Pattern

open Text

/-! ## Alphabets -/

/-- How far the classes and the letter case reach. -/
inductive Alphabet
  | ascii
  | unicode
  deriving DecidableEq, Repr

/-- How letter case counts. -/
inductive CaseRule
  | exact
  | ignored (alphabet : Alphabet)
  deriving DecidableEq, Repr

/-- The lower form of a code point. -/
def Alphabet.lower : Alphabet → Nat → Nat
  | .ascii => lowerAscii
  | .unicode => lowerCode

/-- Whether a code point has more than one case. -/
def Alphabet.isCased : Alphabet → Nat → Bool
  | .ascii => isCasedAscii
  | .unicode => Text.isCased

/-- The code points with the given lower form. -/
def Alphabet.raised : Alphabet → Nat → List Nat
  | .ascii, code => if 97 ≤ code && code ≤ 122 then [code, code - 32] else
      if 65 ≤ code && code ≤ 90 then [] else [code]
  | .unicode, code => (if lowerCode code = code then [code] else []) ++ upperCodes code

/-- The code points that count as equal to a lower form. -/
def Alphabet.alike : Alphabet → Nat → List Nat
  | .ascii, code => Alphabet.ascii.raised code
  | .unicode, code => (code :: lowerTwins code).flatMap Alphabet.unicode.raised

/-- A character of a word. -/
def Alphabet.isWordChar : Alphabet → Char → Bool
  | .ascii, c => c.isAlphanum || c == '_'
  | .unicode, c => Text.isWordChar c

/-! ## Classes -/

inductive CharClass
  | digit
  | blank
  | word
  deriving DecidableEq, Repr

/-- The members of a class. -/
def CharClass.has : CharClass → Alphabet → Char → Bool
  | .digit, .ascii, c => c.isDigit
  | .digit, .unicode, c => isDecimal c
  | .blank, .ascii, c => isBlankAscii c
  | .blank, .unicode, c => isBlank c
  | .word, alphabet, c => alphabet.isWordChar c

/-! ## Sets -/

inductive SetItem
  | one (code : Nat)
  | range (low high : Nat)
  | inClass (kind : CharClass) (negated : Bool)
  deriving DecidableEq, Repr

/-- Characters between brackets, or a character or class that stands alone. -/
structure CharSet where
  items : List SetItem
  negated : Bool
  alphabet : Alphabet
  caseRule : CaseRule
  deriving DecidableEq, Repr

/-- Whether an item names the code point itself. No half of a pair is in a class. -/
def SetItem.names (alphabet : Alphabet) (c : CodePoint) : SetItem → Bool
  | .one code => c.code = code
  | .range low high => low ≤ c.code && c.code ≤ high
  | .inClass kind negated => c.isIn (kind.has alphabet) != negated

/-- Whether an item names a code point that is equal to the lower form `c` but for case. -/
def SetItem.namesAlike (alphabet : Alphabet) (c : CodePoint) (alike : List Nat) : SetItem → Bool
  | .one code => alike.contains code
  | .range low high => alike.any fun code => low ≤ code && code ≤ high
  | .inClass kind negated => c.isIn (kind.has alphabet) != negated

/-- Whether an item names a character with more than one case. -/
def SetItem.hasCased (alphabet : Alphabet) : SetItem → Bool
  | .one code => alphabet.isCased code
  | .range low high =>
    match alphabet with
    | .ascii => low ≤ 122 && 65 ≤ high && !(90 < low && high < 97)
    | .unicode => 65535 < high || casedRanges.any fun r => r.1 ≤ high && low ≤ r.2
  | .inClass _ _ => false

/-- The set without its negation. Letter case is ignored only where an item has case. -/
def CharSet.names (set : CharSet) (c : CodePoint) : Bool :=
  match set.caseRule with
  | .exact => set.items.any (·.names set.alphabet c)
  | .ignored alphabet =>
    if set.items.any (·.hasCased alphabet) then
      let lower := alphabet.lower c.code
      let alike := alphabet.alike lower
      set.items.any (·.namesAlike set.alphabet (.ofCode lower) alike)
    else set.items.any (·.names set.alphabet c)

/-- Whether the set holds the code point. -/
def CharSet.has (set : CharSet) (c : CodePoint) : Bool := set.names c != set.negated

/-- The set of one code point, taken exactly. -/
def CharSet.single (c : CodePoint) : CharSet := ⟨[.one c.code], false, .unicode, .exact⟩

theorem CharSet.has_single (c d : CodePoint) : (CharSet.single c).has d = (d == c) := by
  by_cases hd : d = c <;>
    simp [CharSet.has, CharSet.names, CharSet.single, SetItem.names, CodePoint.code_inj, hd]

end ProtoRefresh.Pattern
