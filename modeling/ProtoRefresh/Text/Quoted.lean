-- Quoted text: a string between quotes that shows every character. The
-- quote is single unless the text holds a single quote and no double
-- one. Backslash, the quote in use, the unprintable characters and the
-- halves of pairs are written as escapes.
import ProtoRefresh.Text.CodePoint
import ProtoRefresh.Text.Printable

namespace ProtoRefresh.Text

/-! ## Hexadecimal digits -/

/-- The digit of a value below sixteen. -/
def hexDigit (value : Nat) : Char :=
  if value < 10 then Char.ofNat (48 + value) else Char.ofNat (87 + value)

/-- The last `width` hexadecimal digits of a value. -/
def hexDigits : Nat → Nat → List Char
  | 0, _ => []
  | width + 1, value => hexDigits width (value / 16) ++ [hexDigit (value % 16)]

/-! ## Quoting -/

/-- The quote that a text is written between. -/
def quoteFor (text : List CodePoint) : Char :=
  if text.contains (.char '\'') && !text.contains (.char '"') then '"' else '\''

/-- One character of quoted text. -/
def quoteChar (quote c : Char) : List Char :=
  if c = quote || c = '\\' then ['\\', c]
  else if c = '\t' then ['\\', 't']
  else if c = '\n' then ['\\', 'n']
  else if c = '\r' then ['\\', 'r']
  else if isPrintable c then [c]
  else if c.toNat < 256 then '\\' :: 'x' :: hexDigits 2 c.toNat
  else if c.toNat < 65536 then '\\' :: 'u' :: hexDigits 4 c.toNat
  else '\\' :: 'U' :: hexDigits 8 c.toNat

/-- One code point of quoted text. -/
def quotePoint (quote : Char) : CodePoint → List Char
  | .char c => quoteChar quote c
  | .half place => '\\' :: 'u' :: hexDigits 4 (CodePoint.half place).code

/-- A text between quotes, all of it shown. -/
def quote (text : List CodePoint) : List Char :=
  let q := quoteFor text
  q :: text.flatMap (quotePoint q) ++ [q]

/-- A string between quotes. -/
def quoted (s : String) : String := String.ofList (quote (points s))

/-- Strings between quotes, in brackets. -/
def quotedList (items : List String) : String :=
  "[" ++ ", ".intercalate (items.map quoted) ++ "]"

end ProtoRefresh.Text
