-- White space of every script, and text without it at its ends. ASCII
-- space, tab and line ends are in the class, and so are the four
-- information separators, the next-line control and the wide spaces;
-- a zero-width space is not.
import ProtoRefresh.Text.CodeRanges

namespace ProtoRefresh.Text

/-! ## The class -/

/-- The code points of white space. -/
def blankRanges : CodeRanges :=
  [(9, 13), (28, 32), (133, 133), (160, 160), (5760, 5760), (8192, 8202), (8232, 8233),
   (8239, 8239), (8287, 8287), (12288, 12288)]

/-- A white space character. -/
def isBlank (c : Char) : Bool := blankRanges.hasChar c

/-- White space among the ASCII characters. -/
def isBlankAscii (c : Char) : Bool := c == ' ' || ('\t' ≤ c && c ≤ '\r')

/-! ## Trimming -/

/-- Text without the white space at its start. -/
def trimStart (text : List Char) : List Char := text.dropWhile isBlank

/-- Text without the white space at its end. -/
def trimEnd (text : List Char) : List Char := (trimStart text.reverse).reverse

/-- Text without the white space at its ends. -/
def trim (text : List Char) : List Char := trimEnd (trimStart text)

/-- A string without the white space at its ends. -/
def trimmed (s : String) : String := String.ofList (trim s.toList)

/-- A string without the white space at its end. -/
def endTrimmed (s : String) : String := String.ofList (trimEnd s.toList)

end ProtoRefresh.Text
