-- Patterns for a single file name. A star stands for any characters, a
-- question mark for one, and brackets for one of those that they list,
-- or, after an exclamation mark, for one that they do not list.

namespace ProtoRefresh.Glob

/-! ## Patterns -/

/-- What brackets list. -/
inductive Item
  | one (c : Char)
  | range (low high : Char)
  deriving DecidableEq, Repr

def Item.has : Item → Char → Bool
  | .one c, d => c = d
  | .range low high, d => low ≤ d && d ≤ high

/-- Whether a range runs downwards, so that it holds nothing. -/
def Item.isEmpty : Item → Bool
  | .one _ => false
  | .range low high => high < low

/-- One element of a pattern. -/
inductive Element
  | star
  | anyChar
  | char (c : Char)
  | oneOf (negated : Bool) (items : List Item)
  deriving DecidableEq, Repr

/-- Whether an element stands for a character. -/
def Element.admits : Element → Char → Bool
  | .star, _ => false
  | .anyChar, _ => true
  | .char c, d => c = d
  | .oneOf negated items, d => (items.any fun item => item.has d) != negated

/-- Whether a pattern stands for a whole name. -/
def accepts : List Element → List Char → Bool
  | [], name => name.isEmpty
  | .star :: rest, name =>
    (List.range (name.length + 1)).any fun n => accepts rest (name.drop n)
  | _ :: _, [] => false
  | element :: rest, c :: name => element.admits c && accepts rest name

/-! ## Reading -/

/-- The characters between brackets as single ones and ranges. A hyphen at an end is itself. -/
def readItems : List Char → List Item
  | [] => []
  | [c] => [.one c]
  | [c, d] => [.one c, .one d]
  | c :: d :: e :: rest =>
    if d = '-' then .range c e :: readItems rest else .one c :: readItems (d :: e :: rest)

/-- Items without the empty ranges. An exclamation mark that thereby comes first negates. -/
def settle (items : List Item) : Element :=
  let kept := items.filter fun item => !item.isEmpty
  if kept.length = items.length then .oneOf false items
  else
    match kept with
    | .one '!' :: rest => .oneOf true rest
    | .range '!' high :: rest => .oneOf true (.one '-' :: .one high :: rest)
    | kept => .oneOf false kept

/-- The element that the characters between brackets describe. -/
def readBrackets : List Char → Element
  | '!' :: listed => .oneOf true ((readItems listed).filter fun item => !item.isEmpty)
  | listed => settle (readItems listed)

/-- How many characters stand before the closing bracket, the first of which may be one itself. -/
def listedLength? (text : List Char) : Option Nat :=
  let opening := if text.head? = some '!' then 1 else 0
  let opening := if (text.drop opening).head? = some ']' then opening + 1 else opening
  ((text.drop opening).findIdx? (· == ']')).map (· + opening)

/-- The pattern that a text spells after some of its characters. A bracket that is not closed is
itself. -/
def readAfter : Nat → List Char → List Element
  | _, [] => []
  | n + 1, _ :: rest => readAfter n rest
  | 0, '*' :: rest => .star :: readAfter 0 rest
  | 0, '?' :: rest => .anyChar :: readAfter 0 rest
  | 0, '[' :: rest =>
    match listedLength? rest with
    | some n => readBrackets (rest.take n) :: readAfter (n + 1) rest
    | none => .char '[' :: readAfter 0 rest
  | 0, c :: rest => .char c :: readAfter 0 rest

/-- The pattern that a text spells. -/
def readPattern (text : List Char) : List Element := readAfter 0 text

/-- Whether a text spells a pattern and not just a name. -/
def isPattern (s : String) : Bool :=
  s.toList.any fun c => c == '*' || c == '?' || c == '['

/-- Whether the pattern that a text spells stands for a name. -/
def nameMatches (pattern name : String) : Bool := accepts (readPattern pattern.toList) name.toList

end ProtoRefresh.Glob
