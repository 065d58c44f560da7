-- The shapes of plain words: which of them are numbers, truth values,
-- moments or nothing. Any other word is a text.
import ProtoRefresh.Decimal.Text
import ProtoRefresh.Document.Moment
import ProtoRefresh.Document.Yaml.Basic

namespace ProtoRefresh.Document.Yaml

open Decimal

/-! ## Words -/

/-- The words for truth values. -/
def truthWords : List (String × Bool) :=
  [("yes", true), ("no", false), ("true", true), ("false", false), ("on", true), ("off", false)]

/-- A word in small letters, in capitals, or with a capital at the start. -/
def casings (word : String) : List String :=
  let capital := word.toList.map Char.toUpper
  [word, String.ofList (capital.take 1 ++ word.toList.drop 1), String.ofList capital]

def isTruthWord (text : List Char) : Bool :=
  truthWords.any fun (word, _) => (casings word).contains (String.ofList text)

def isNullWord (text : List Char) : Bool :=
  text = ['~'] || (casings "null").contains (String.ofList text)

/-! ## Numbers -/

def isDigitOrUnderscore (c : Char) : Bool := c.isDigit || c == '_'

/-- Digits of a class with underscores, at least one of them. -/
def isDigits (p : Char → Bool) (text : List Char) : Bool :=
  !text.isEmpty && text.all fun c => p c || c == '_'

def isOctal (c : Char) : Bool := '0' ≤ c && c ≤ '7'

/-- A part behind a colon: one digit, or two that make less than sixty. -/
def isSixtieth : List Char → Bool
  | [a] => a.isDigit
  | [a, b] => '0' ≤ a && a ≤ '5' && b.isDigit
  | _ => false

/-- The parts of a text between colons. -/
def splitColons : List Char → List (List Char)
  | [] => [[]]
  | c :: rest =>
    match splitColons rest with
    | [] => [[c]]
    | part :: parts => if c = ':' then [] :: part :: parts else (c :: part) :: parts

/-- A number in parts behind colons. -/
def isSixtieths (first : Char → Bool) (text : List Char) : Bool :=
  match splitColons text with
  | (c :: whole) :: part :: parts =>
    first c && whole.all isDigitOrUnderscore && (part :: parts).all isSixtieth
  | _ => false

/-- An integer, perhaps binary, octal or hexadecimal, or in parts. -/
def isInteger (text : List Char) : Bool :=
  let number := (splitSign text).2
  match number with
  | '0' :: 'b' :: digits => isDigits (fun c => c == '0' || c == '1') digits
  | '0' :: 'x' :: digits => isDigits (fun c => (hexValue? c).isSome) digits
  | ['0'] => true
  | '0' :: digits => isDigits isOctal digits
  | c :: digits =>
    (c.isDigit && digits.all isDigitOrUnderscore) ||
      isSixtieths (fun c => c.isDigit && c != '0') number
  | [] => false

/-- An exponent with its sign, if there is anything. -/
def isExponent : List Char → Bool
  | [] => true
  | e :: sign :: digits =>
    (e == 'e' || e == 'E') && (sign == '+' || sign == '-') && !digits.isEmpty &&
      digits.all Char.isDigit
  | _ => false

/-- A number with a point, or one of the words for numbers that are not finite. -/
def isDecimal (text : List Char) : Bool :=
  let number := (splitSign text).2
  let whole := number.takeWhile fun c => isDigitOrUnderscore c || c == ':'
  match number.drop whole.length with
  | '.' :: fraction =>
    let digits := fraction.takeWhile isDigitOrUnderscore
    let rest := fraction.drop digits.length
    match whole with
    | [] =>
      (casings "inf").contains (String.ofList fraction) ||
        (number = text && ["nan", "NaN", "NAN"].contains (String.ofList fraction)) ||
        (number = text && digits.head?.any Char.isDigit && isExponent rest)
    | c :: more =>
      (c.isDigit && more.all isDigitOrUnderscore && isExponent rest) ||
        (rest.isEmpty && isSixtieths Char.isDigit whole)
  | _ => false

/-! ## Moments -/

/-- Some digits, no more than `most`, and what follows them. -/
def digitsUpTo (most : Nat) (text : List Char) : Option (Nat × List Char) :=
  let digits := (text.take most).takeWhile Char.isDigit
  if digits.isEmpty then none else some (natOfDigits digits, text.drop digits.length)

/-- Just so many digits, and what follows them. -/
def digitsExactly (count : Nat) (text : List Char) : Option (Nat × List Char) :=
  let digits := (text.take count).takeWhile Char.isDigit
  if digits.length < count then none else some (natOfDigits digits, text.drop count)

/-- What follows a sign. -/
def behind (sign : Char) : List Char → Option (List Char)
  | [] => none
  | c :: rest => if c = sign then some rest else none

/-- An offset from universal time, in minutes. -/
def offsetOf? (text : List Char) : Option Int := do
  match text with
  | ['Z'] => return 0
  | sign :: rest =>
    if sign ≠ '+' ∧ sign ≠ '-' then none
    else
      let (hours, rest) ← digitsUpTo 2 rest
      let minutes ←
        if rest.isEmpty then some 0
        else do
          let (minutes, rest) ← digitsExactly 2 (← behind ':' rest)
          if rest.isEmpty then some minutes else none
      let offset : Int := hours * 60 + minutes
      return if sign = '-' then -offset else offset
  | [] => none

/-- The first six digits of a fraction, as millionths. -/
def microsOf (digits : List Char) : Nat :=
  natOfDigits ((digits ++ List.replicate 6 '0').take 6)

/-- A time, perhaps with an offset. -/
def timeOf? (text : List Char) : Option Time := do
  let (hour, rest) ← digitsUpTo 2 text
  let (minute, rest) ← digitsExactly 2 (← behind ':' rest)
  let (second, rest) ← digitsExactly 2 (← behind ':' rest)
  let fraction := ((behind '.' rest).map fun rest => rest.takeWhile Char.isDigit).getD []
  let rest := ((behind '.' rest).map fun rest => rest.dropWhile Char.isDigit).getD rest
  if rest.isEmpty then return ⟨hour, minute, second, microsOf fraction, none⟩
  else
    let offset ← offsetOf? (rest.dropWhile isTabOrSpace)
    return ⟨hour, minute, second, microsOf fraction, some offset⟩

/-- A date, perhaps with a time behind a letter or white space. Its fields may be out of their
ranges. -/
def momentOf? (text : List Char) : Option Moment := do
  let (year, rest) ← digitsExactly 4 text
  let (month, rest) ← digitsUpTo 2 (← behind '-' rest)
  let (day, rest) ← digitsUpTo 2 (← behind '-' rest)
  match rest with
  | [] => return ⟨⟨year, month, day⟩, none⟩
  | c :: after =>
    let time ←
      if c = 'T' ∨ c = 't' then timeOf? after
      else if isTabOrSpace c then timeOf? (after.dropWhile isTabOrSpace)
      else none
    return ⟨⟨year, month, day⟩, some time⟩

/-- A plain word that is a moment. A date alone has all of its digits. -/
def isMoment (text : List Char) : Bool :=
  (momentOf? text).any fun moment => moment.time.isSome || text.length = 10

/-! ## Tags -/

/-- The kinds of nodes that have a meaning. -/
inductive Tag
  | null
  | bool
  | int
  | float
  | bytes
  | moment
  | text
  | list
  | map
  | set
  /-- Entries in order, which need not have keys of their own. -/
  | pairs
  /-- A key whose value is merged into its mapping. -/
  | merge
  /-- A key whose value stands for its mapping. -/
  | standIn
  | unknown
  deriving DecidableEq, Repr

/-- A text without the newline at its end. -/
def withoutNewline (text : List Char) : List Char :=
  if text.getLast? = some '\n' then text.dropLast else text

/-- The tag of a plain word. A newline behind it counts for nothing. -/
def Tag.ofWord (text : List Char) : Tag :=
  let word := withoutNewline text
  if text.isEmpty then .null
  else if word.isEmpty then .text
  else if isTruthWord word then .bool
  else if isDecimal word then .float
  else if isInteger word then .int
  else if word = ['<', '<'] then .merge
  else if isNullWord word then .null
  else if isMoment word then .moment
  else if word = ['='] then .standIn
  else if word = ['!'] || word = ['&'] || word = ['*'] then .unknown
  else .text

/-- How the tags of the standard kinds start. -/
def standardStart : String := "tag:yaml.org,2002:"

/-- The names of the standard kinds. -/
def standardTags : List (String × Tag) :=
  [("null", .null), ("bool", .bool), ("int", .int), ("float", .float), ("binary", .bytes),
   ("timestamp", .moment), ("omap", .pairs), ("pairs", .pairs), ("set", .set), ("str", .text),
   ("seq", .list), ("map", .map), ("merge", .merge), ("value", .standIn)]

/-- The tag that is written out. -/
def Tag.ofName (name : String) : Tag :=
  ((standardTags.find? fun entry => standardStart ++ entry.1 = name).map (·.2)).getD .unknown

end ProtoRefresh.Document.Yaml
