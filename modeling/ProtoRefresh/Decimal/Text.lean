-- Numbers as text. A number is written with its shortest digits, with a
-- point where the exponent is moderate and in powers of ten elsewhere.
import ProtoRefresh.Decimal.Shortest

namespace ProtoRefresh.Decimal

/-! ## Writing -/

/-- How the digits of a number are laid out. -/
structure Layout where
  /-- The point may stand behind this many digits at most. -/
  pointLimit : Int
  /-- No point stands this far or farther before the first digit. -/
  zeroLimit : Int
  /-- The least number of digits of an exponent. -/
  exponentDigits : Nat
  infinite : String
  nan : String

/-- Plans and commands write sixteen digits before the point and three zeros after it at most. -/
def planLayout : Layout := ⟨16, -4, 2, "inf", "nan"⟩

/-- Digits with zeros before them up to a width. -/
def padDigits (width n : Nat) : String :=
  let s := toString n
  "".pushn '0' (width - s.length) ++ s

/-- Digits with the point behind `point` of them. -/
def Layout.place (layout : Layout) (digits : String) (point : Int) : String :=
  let count := digits.length
  if point ≤ layout.zeroLimit || layout.pointLimit < point then
    let first := String.ofList (digits.toList.take 1)
    let rest := String.ofList (digits.toList.drop 1)
    let power := point - 1
    first ++ (if rest.isEmpty then "" else "." ++ rest) ++ "e" ++ (if power < 0 then "-" else "+")
      ++ padDigits layout.exponentDigits power.natAbs
  else if point ≤ 0 then "0." ++ "".pushn '0' (-point).toNat ++ digits
  else if (count : Int) ≤ point then digits.pushn '0' (point.toNat - count) ++ ".0"
  else
    String.ofList (digits.toList.take point.toNat) ++ "." ++
      String.ofList (digits.toList.drop point.toNat)

/-- The text of a number. -/
def Layout.write (layout : Layout) : Double → String
  | .nan => layout.nan
  | .infinite negative => (if negative then "-" else "") ++ layout.infinite
  | .finite negative mantissa exponent =>
    let sign := if negative then "-" else ""
    if mantissa = 0 then sign ++ "0.0"
    else
      let d := shortest mantissa exponent
      let digits := toString d.digits
      sign ++ layout.place digits (digits.length + d.exponent)

/-- The text of a number in a plan. -/
def Double.text (d : Double) : String := planLayout.write d

/-! ## Reading -/

/-- The value of decimal digits. -/
def natOfDigits (digits : List Char) : Nat :=
  digits.foldl (fun n c => n * 10 + (c.toNat - 48)) 0

/-- The sign of a text and the text after it. -/
def splitSign : List Char → Bool × List Char
  | '-' :: rest => (true, rest)
  | '+' :: rest => (false, rest)
  | text => (false, text)

/-- The exponent that ends a number, if the text is one. -/
def readExponent : List Char → Option Int
  | [] => some 0
  | c :: rest =>
    if c = 'e' || c = 'E' then
      let (negative, digits) := splitSign rest
      if digits.isEmpty || !digits.all Char.isDigit then none
      else some (if negative then -natOfDigits digits else natOfDigits digits)
    else none

/-- A number without a sign: digits with a point and an exponent, or a word. -/
def readUnsigned (negative : Bool) (text : List Char) : Option Double :=
  let word := String.ofList (text.map Char.toLower)
  if word = "inf" || word = "infinity" then some (.infinite negative)
  else if word = "nan" then some .nan
  else
    let whole := text.takeWhile Char.isDigit
    let rest := text.dropWhile Char.isDigit
    let (fraction, tail) :=
      match rest with
      | '.' :: rest => (rest.takeWhile Char.isDigit, rest.dropWhile Char.isDigit)
      | rest => ([], rest)
    if whole.isEmpty && fraction.isEmpty then none
    else
      (readExponent tail).map fun exponent =>
        .ofDecimal negative (natOfDigits (whole ++ fraction)) (exponent - fraction.length)

/-- The number that a text spells. -/
def Double.ofText? (text : List Char) : Option Double :=
  let (negative, rest) := splitSign text
  readUnsigned negative rest

end ProtoRefresh.Decimal
