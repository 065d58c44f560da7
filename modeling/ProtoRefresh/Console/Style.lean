-- The names of styles. A style is named by words: attributes, of which
-- some have a short name, and colours. Two names that mean the same have
-- one normal form; a name that means nothing is only put in lower case.
import ProtoRefresh.Text.Blank
import ProtoRefresh.Text.LetterCase

namespace ProtoRefresh.Console

open Text

/-! ## Words -/

/-- The attributes, in the order in which a normal form lists them. -/
def attributeNames : List String :=
  ["bold", "dim", "italic", "underline", "blink", "blink2", "reverse", "conceal", "strike",
   "underline2", "frame", "encircle", "overline"]

/-- The short names of attributes. -/
def shortNames : List (String × String) :=
  [("d", "dim"), ("b", "bold"), ("i", "italic"), ("u", "underline"), ("r", "reverse"),
   ("c", "conceal"), ("s", "strike"), ("uu", "underline2"), ("o", "overline")]

/-- The colours that have names of their own, without those that count their shades. -/
def colours : List String :=
  ["default", "black", "red", "green", "yellow", "blue", "magenta", "cyan", "white",
   "bright_black", "bright_red", "bright_green", "bright_yellow", "bright_blue",
   "bright_magenta", "bright_cyan", "bright_white"]

/-- The attribute that a word names. -/
def attribute? (word : String) : Option String :=
  if attributeNames.contains word then some word else shortNames.lookup word

/-- Whether a word is six hexadecimal digits behind a hash sign. -/
def isHexColour (word : String) : Bool :=
  match word.toList with
  | '#' :: digits =>
    digits.length = 6 && digits.all fun c => c.isDigit || ('a' ≤ c && c ≤ 'f')
  | _ => false

def isColour (word : String) : Bool := colours.contains word || isHexColour word

/-- A text in lower case. -/
def lowerText (text : List Char) : List Char := text.map fun c => Char.ofNat (lowerCode c.toNat)

/-- The words of a text. -/
def wordsOf (text : List Char) : List String :=
  ((text.splitBy fun a b => !isBlank a && !isBlank b).filter fun piece =>
    !(piece.all isBlank)).map String.ofList

/-! ## Styles -/

structure Style where
  /-- Attributes that are set, or set to be off. -/
  attributes : List (String × Bool) := []
  colour : Option String := none
  background : Option String := none
  link : Option String := none

/-- Sets an attribute. -/
def Style.withAttribute (style : Style) (name : String) (on : Bool) : Style :=
  { style with attributes := (name, on) :: style.attributes.filter (·.1 != name) }

/-- The style that words name, with what is set already. -/
def readStyle : List String → Style → Option Style
  | [], style => some style
  | word :: rest, style =>
    let lower := String.ofList (lowerText word.toList)
    if lower = "on" then
      match rest with
      | colour :: rest =>
        if isColour (String.ofList (lowerText colour.toList)) then
          readStyle rest { style with background := some (String.ofList (lowerText colour.toList)) }
        else none
      | [] => none
    else if lower = "not" then
      match rest with
      | name :: rest => (attribute? name).bind fun name => readStyle rest (style.withAttribute name false)
      | [] => none
    else if lower = "link" then
      match rest with
      | link :: rest => readStyle rest { style with link := some link }
      | [] => none
    else
      match attribute? lower with
      | some name => readStyle rest (style.withAttribute name true)
      | none => if isColour lower then readStyle rest { style with colour := some lower } else none

/-- The normal form of a style. -/
def Style.name (style : Style) : String :=
  let set := attributeNames.filterMap fun name =>
    (style.attributes.lookup name).map fun on => if on then name else "not " ++ name
  let words := set ++ style.colour.toList ++ (style.background.map ("on " ++ ·)).toList ++
    (style.link.map ("link " ++ ·)).toList
  if words.isEmpty then "none" else " ".intercalate words

/-- The normal form of the name of a style. -/
def styleName (name : List Char) : String :=
  let words := wordsOf name
  if words.isEmpty || words = ["none"] then "none"
  else
    match readStyle words {} with
    | some style => style.name
    | none => String.ofList (lowerText (trim name))

end ProtoRefresh.Console
