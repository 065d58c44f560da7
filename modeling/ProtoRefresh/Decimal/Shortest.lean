-- The shortest decimal of a number: the fewest digits that read back as
-- it, and of those the nearest. The reals that round to a number form an
-- interval around it; a decimal reads back exactly when it lies there.
import ProtoRefresh.Decimal.Double

namespace ProtoRefresh.Decimal

/-! ## Exact decimals -/

/-- The value `digits * 10 ^ exponent`. -/
structure Digits where
  digits : Nat
  exponent : Int
  deriving DecidableEq, Repr

/-- Numerator and denominator of a decimal. -/
def Digits.quotient (d : Digits) : Nat × Nat :=
  if 0 ≤ d.exponent then (d.digits * tenTo d.exponent.toNat, 1)
  else (d.digits, tenTo (-d.exponent).toNat)

/-- The decimal without zeros at its end. -/
def Digits.strip : Nat → Digits → Digits
  | 0, d => d
  | fuel + 1, d =>
    if d.digits % 10 = 0 && d.digits ≠ 0 then strip fuel ⟨d.digits / 10, d.exponent + 1⟩ else d

/-! ## The interval of a number -/

/-- The bounds of the interval of `mantissa * 2 ^ exponent`, in quarters of its last bit. -/
def bounds (mantissa : Nat) (exponent : Int) : Nat × Nat :=
  let below := if mantissa = twoTo 52 && exponent ≠ Double.leastExponent then 1 else 2
  (4 * mantissa - below, 4 * mantissa + 2)

/-- Whether a decimal reads back as the number. The ends belong to an even mantissa. -/
def readsBack (mantissa : Nat) (exponent : Int) (d : Digits) : Bool :=
  let (low, high) := bounds mantissa exponent
  let (up, down) := Double.power (exponent - 2)
  let (num, den) := d.quotient
  let value := num * down
  if mantissa % 2 = 0 then low * up * den ≤ value && value ≤ high * up * den
  else low * up * den < value && value < high * up * den

/-! ## The choice -/

/-- The least power of ten, up to a limit, that takes the quotient to one at least. -/
def shiftToOne (num den : Nat) : Nat → Nat → Nat
  | 0, k => k
  | fuel + 1, k => if den ≤ num * tenTo k then k else shiftToOne num den fuel (k + 1)

/-- The place of the first digit of a positive quotient. -/
def leadingPlace (num den : Nat) : Int :=
  if den ≤ num then (Nat.toDigits 10 (num / den)).length - 1
  else -(shiftToOne num den 400 1 : Int)

/-- The best decimal at one place, if one there reads back. -/
def atPlace? (mantissa : Nat) (exponent : Int) (place : Int) : Option Digits :=
  let (up, down) := Double.power exponent
  let (tenNum, tenDen) := Digits.quotient ⟨1, place⟩
  let num := mantissa * up * tenDen
  let den := down * tenNum
  let low := num / den
  let nearest := Double.roundQuotient num den
  let other := if nearest = low then low + 1 else low
  let good (n : Nat) : Bool := readsBack mantissa exponent ⟨n, place⟩
  if good nearest then some ⟨nearest, place⟩
  else if good other then some ⟨other, place⟩
  else none

/-- The first decimal that reads back, with ever more digits. -/
def search (mantissa : Nat) (exponent : Int) : Nat → Int → Digits
  | 0, place => (atPlace? mantissa exponent place).getD ⟨0, place⟩
  | fuel + 1, place =>
    match atPlace? mantissa exponent place with
    | some d => d
    | none => search mantissa exponent fuel (place - 1)

/-- The shortest decimal of a positive number. -/
def shortest (mantissa : Nat) (exponent : Int) : Digits :=
  let (up, down) := Double.power exponent
  (search mantissa exponent 17 (leadingPlace (mantissa * up) down)).strip 400

end ProtoRefresh.Decimal
