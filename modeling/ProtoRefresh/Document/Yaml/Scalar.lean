-- What texts mean as numbers, truth values, moments and bytes. A text
-- that has been tagged need not have the shape of a plain word of its
-- kind: numbers may have white space around them and digits of any
-- script.
import ProtoRefresh.Document.Json
import ProtoRefresh.Document.Yaml.Bytes
import ProtoRefresh.Document.Yaml.Shape
import ProtoRefresh.Text.Blank
import ProtoRefresh.Text.LetterCase
import ProtoRefresh.Text.Letters

namespace ProtoRefresh.Document.Yaml

open Decimal

/-! ## Numerals -/

/-- The text of a number without white space around it, its digits those of ASCII. -/
def numeral (text : List Char) : List Char :=
  let isAscii := text.all fun c => c.toNat < 128
  let space := if isAscii then Text.isBlankAscii else Text.isBlank
  let trimmed := ((text.dropWhile space).reverse.dropWhile space).reverse
  trimmed.map fun c => ((Text.decimalValue? c).map fun value => Char.ofNat (48 + value)).getD c

/-- The value of a letter or a digit as a digit of a high base. -/
def digitValue? (c : Char) : Option Nat :=
  if c.isDigit then some (c.toNat - 48) else if c.isAlpha then some (c.toLower.toNat - 87) else none

/-- The number of digits in a base. -/
def ofDigits? (base : Nat) (digits : List Char) : Option Nat :=
  if digits.isEmpty then none
  else
    digits.foldlM
      (fun n c => (digitValue? c).bind fun d => if d < base then some (n * base + d) else none) 0

/-- The letter that tells a base behind a zero. -/
def baseLetter? : Nat → Option Char
  | 2 => some 'b'
  | 8 => some 'o'
  | 16 => some 'x'
  | _ => none

/-- Digits without the zero and the letter that tell their base. -/
def withoutBase (base : Nat) : List Char → List Char
  | '0' :: letter :: rest => if baseLetter? base = some letter.toLower then rest else '0' :: letter :: rest
  | digits => digits

/-- The integer that a text spells in a base. -/
def integer (base : Nat) (text : List Char) : Except YamlError Int :=
  let (negative, digits) := splitSign (numeral text)
  let count := (digits.takeWhile Char.isDigit).length
  if base = 10 && Json.digitLimit < count then
    .error (.badValue (Json.JsonError.tooManyDigits count).message)
  else
    match ofDigits? base (withoutBase base digits) with
    | some n => .ok (if negative then -n else n)
    | none =>
      let shown := (Text.quote (Text.ofChars text)).take 200
      .error (.badValue
        ("invalid literal for int() with base " ++ toString base ++ ": " ++ String.ofList shown))

/-- The number that a text spells. -/
def decimal (text : List Char) : Except YamlError Double :=
  match Double.ofText? (numeral text) with
  | some d => .ok d
  | none =>
    .error (.badValue ("could not convert string to float: " ++
      String.ofList (Text.quote (Text.ofChars text))))

/-! ## Values -/

/-- A text without underscores, its sign taken off. -/
def signedDigits (text : List Char) : Except YamlError (Bool × List Char) :=
  match text.filter (· != '_') with
  | [] => .error .noDigits
  | c :: rest => .ok (splitSign (c :: rest))

/-- The integer of a text without its sign. -/
def readUnsignedInteger (digits : List Char) : Except YamlError Int :=
  match digits with
  | ['0'] => .ok 0
  | '0' :: 'b' :: rest => integer 2 rest
  | '0' :: 'x' :: rest => integer 16 rest
  | '0' :: _ => integer 8 digits
  | [] => .error .noDigits
  | _ => do
    if digits.contains ':' then
      let parts ← (splitColons digits).mapM (integer 10)
      return parts.foldl (fun n part => n * 60 + part) 0
    integer 10 digits

/-- An integer; parts behind colons are sixtieths. -/
def readInteger (text : List Char) : Except YamlError Int := do
  let (negative, digits) ← signedDigits text
  let n ← readUnsignedInteger digits
  return if negative then -n else n

/-- The sum of parts, the last one first, each worth sixty times the one before it. -/
def sumOfSixtieths : Nat → Double → List Double → Except YamlError Double
  | _, sum, [] => .ok sum
  | weight, sum, part :: parts =>
    match Double.ofInt weight with
    | .infinite _ => .error .tooLarge
    | factor => sumOfSixtieths (weight * 60) (sum.add (part.mul factor)) parts

/-- A number of a text without its sign. -/
def readUnsignedDecimal (text : List Char) : Except YamlError Double :=
  if text = ".inf".toList then .ok (.infinite false)
  else if text = ".nan".toList then .ok .nan
  else if text.contains ':' then do
    let parts ← (splitColons text).mapM decimal
    sumOfSixtieths 1 (.zero false) parts.reverse
  else decimal text

/-- A number with a point; parts behind colons are sixtieths. -/
def readDecimal (text : List Char) : Except YamlError Double := do
  let lower := text.map fun c => Char.ofNat (Text.lowerCode c.toNat)
  let (negative, digits) ← signedDigits lower
  let d ← readUnsignedDecimal digits
  return if negative then d.negate else d

def readTruth (text : List Char) : Except YamlError Bool :=
  match truthWords.lookup (String.ofList (text.map Char.toLower)) with
  | some b => .ok b
  | none => .error .noTruth

/-- A moment, each field of it in its range. -/
def readMoment (text : List Char) : Except YamlError Moment :=
  match momentOf? (withoutNewline text) with
  | none => .error .noMoment
  | some moment =>
    match moment.fault? with
    | none => .ok moment
    | some fault => .error (.badValue fault.message)

/-- The value of a text under a tag. -/
def Tag.read (tag : Tag) (text : List Text.CodePoint) : Except YamlError Value :=
  let chars := Text.shownChars text
  match tag with
  | .null => .ok .null
  | .bool => (readTruth chars).map .bool
  | .int => (readInteger chars).map .int
  | .float => (readDecimal chars).map .float
  | .moment => (readMoment chars).map .moment
  | .text => .ok (.text text)
  | .bytes =>
    match (Text.stringOf text).toOption.bind fun s => bytesOf? s.toList with
    | some content => .ok (.bytes content)
    | none => .error .malformed
  | _ => .error .malformed

end ProtoRefresh.Document.Yaml
