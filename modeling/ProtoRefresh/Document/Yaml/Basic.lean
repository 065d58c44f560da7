-- The characters of YAML text, and why a text is no YAML document.

namespace ProtoRefresh.Document.Yaml

/-! ## Errors -/

/-- Why a text has no value. -/
inductive YamlError
  /-- The text does not follow the rules for documents, or a value in it is of an unknown kind. -/
  | malformed
  /-- An escape names a code behind the last character. -/
  | noCharacter
  /-- A number is larger than the machine can take it here. -/
  | tooLarge
  /-- A number or a moment does not make sense, in the words of its reader. -/
  | badValue (message : String)
  /-- A number has no digits. -/
  | noDigits
  /-- A truth value is none of the known words. -/
  | noTruth
  /-- A moment is not written as one. -/
  | noMoment
  /-- A moment is written as a mapping. -/
  | nestedMoment
  deriving DecidableEq, Repr

/-! ## Characters -/

/-- A character that a text may hold. -/
def isAllowed (c : Char) : Bool :=
  c == '\t' || c == '\n' || c == '\r' || (' ' ≤ c && c ≤ '~') || c == '\u0085' ||
    ('\u00a0' ≤ c && c.toNat ≤ 0xFFFD) || 0x10000 ≤ c.toNat

/-- A character that ends a line. -/
def isBreak (c : Char) : Bool := c == '\n' || c == '\u0085' || c == '\u2028' || c == '\u2029'

/-- A space or a tab. -/
def isTabOrSpace (c : Char) : Bool := c == ' ' || c == '\t'

/-- A character between words. -/
def isGap (c : Char) : Bool := isTabOrSpace c || isBreak c

/-- Whether a word ends before this character, or before the end of the text. -/
def endsWord : Option Char → Bool
  | none => true
  | some c => isGap c

/-- Whether a name ends before this character, or before the end of the text; a tab does not end
it. -/
def endsName : Option Char → Bool
  | none => true
  | some c => c == ' ' || isBreak c

/-- Whether a line ends before this character, or before the end of the text. -/
def endsLine : Option Char → Bool
  | none => true
  | some c => isBreak c

/-- A character of a name: a letter, a digit, a hyphen or an underscore. -/
def isNameChar (c : Char) : Bool := c.isAlphanum || c == '-' || c == '_'

/-- A character of an address. -/
def isAddressChar (c : Char) : Bool := c.isAlphanum || "-;/?:@&=+$,_.!~*'()[]%".toList.contains c

/-- A character that has a meaning between flow brackets. -/
def isFlowSign (c : Char) : Bool :=
  c == ',' || c == '?' || c == '[' || c == ']' || c == '\x7b' || c == '\x7d'

/-- The value of a hexadecimal digit. -/
def hexValue? (c : Char) : Option Nat :=
  if c.isDigit then some (c.toNat - 48)
  else if 'a' ≤ c && c ≤ 'f' then some (c.toNat - 87)
  else if 'A' ≤ c && c ≤ 'F' then some (c.toNat - 55)
  else none

/-- The value of hexadecimal digits. -/
def hexNumber? (digits : List Char) : Option Nat :=
  digits.foldlM (fun n c => (hexValue? c).map (n * 16 + ·)) 0

end ProtoRefresh.Document.Yaml
