-- Binary numbers of 53 bits, by their exact values. Rounding takes a
-- quotient of naturals to the nearest number, an exact tie to the even
-- mantissa; sums and products are taken exactly and rounded once.

namespace ProtoRefresh.Decimal

/-! ## Powers -/

abbrev twoTo (n : Nat) : Nat := Nat.pow 2 n

abbrev tenTo (n : Nat) : Nat := Nat.pow 10 n

/-! ## Numbers -/

/-- A finite number is `mantissa * 2 ^ exponent`. The mantissa is below `2 ^ 53`, and is at least
`2 ^ 52` unless the exponent is the least one. -/
inductive Double
  | finite (negative : Bool) (mantissa : Nat) (exponent : Int)
  | infinite (negative : Bool)
  | nan
  deriving DecidableEq, Repr, Inhabited

namespace Double

def leastExponent : Int := -1074

def greatestExponent : Int := 971

def zero (negative : Bool) : Double := .finite negative 0 leastExponent

/-- A power of two or its inverse, as numerator and denominator. -/
def power (exponent : Int) : Nat × Nat :=
  if 0 ≤ exponent then (twoTo exponent.toNat, 1) else (1, twoTo (-exponent).toNat)

/-! ## Rounding -/

/-- The nearest natural to a quotient, a tie to the even one. -/
def roundQuotient (num den : Nat) : Nat :=
  let q := num / den
  let r := num % den
  if 2 * r < den then q else if den < 2 * r then q + 1 else if q % 2 = 0 then q else q + 1

/-- The exponent at which a positive quotient has 53 bits, no less than the least one. -/
def exponentOf (num den : Nat) : Int :=
  let guess : Int := (num.log2 : Int) - den.log2 - 52
  let (up, down) := power guess
  let q := num * down / (den * up)
  let exact := if q < twoTo 52 then guess - 1 else if twoTo 53 ≤ q then guess + 1 else guess
  max exact leastExponent

/-- The number nearest to a quotient. -/
def ofQuotient (negative : Bool) (num den : Nat) : Double :=
  if num = 0 then zero negative
  else
    let exponent := exponentOf num den
    let (up, down) := power exponent
    let mantissa := roundQuotient (num * down) (den * up)
    let (mantissa, exponent) :=
      if mantissa = twoTo 53 then (twoTo 52, exponent + 1) else (mantissa, exponent)
    if greatestExponent < exponent then .infinite negative
    else .finite negative mantissa exponent

/-- The number nearest to `digits * 10 ^ exponent`. -/
def ofDecimal (negative : Bool) (digits : Nat) (exponent : Int) : Double :=
  let size : Int := (Nat.toDigits 10 digits).length + exponent
  if digits = 0 || size < -330 then zero negative
  else if 320 < size then .infinite negative
  else if 0 ≤ exponent then ofQuotient negative (digits * tenTo exponent.toNat) 1
  else ofQuotient negative digits (tenTo (-exponent).toNat)

/-- The number nearest to an integer. -/
def ofInt (i : Int) : Double := ofQuotient (i < 0) i.natAbs 1

/-! ## Arithmetic -/

def negate : Double → Double
  | .finite negative mantissa exponent => .finite (!negative) mantissa exponent
  | .infinite negative => .infinite (!negative)
  | .nan => .nan

/-- The exact value in units of `2 ^ leastExponent`, of a finite number. -/
def units : Bool → Nat → Int → Int
  | negative, mantissa, exponent =>
    let size : Int := mantissa * twoTo (exponent - leastExponent).toNat
    if negative then -size else size

/-- The number nearest to a count of units. A zero takes the given sign. -/
def ofUnits (units : Int) (negativeZero : Bool) : Double :=
  if units = 0 then zero negativeZero
  else ofQuotient (units < 0) units.natAbs (twoTo (-leastExponent).toNat)

def add : Double → Double → Double
  | .nan, _ => .nan
  | _, .nan => .nan
  | .infinite a, .infinite b => if a = b then .infinite a else .nan
  | .infinite a, _ => .infinite a
  | _, .infinite b => .infinite b
  | .finite a m e, .finite b n f => ofUnits (units a m e + units b n f) (a && b)

def mul : Double → Double → Double
  | .nan, _ => .nan
  | _, .nan => .nan
  | .infinite a, .infinite b => .infinite (a != b)
  | .infinite a, .finite b n _ => if n = 0 then .nan else .infinite (a != b)
  | .finite a m _, .infinite b => if m = 0 then .nan else .infinite (a != b)
  | .finite a m e, .finite b n f =>
    let (up, down) := power (e + f)
    ofQuotient (a != b) (m * n * up) down

/-- Whether a finite number has the value of an integer. -/
def equalsInt (i : Int) : Double → Bool
  | .finite negative mantissa exponent =>
    units negative mantissa exponent == i * twoTo (-leastExponent).toNat
  | _ => false

/-- Whether two numbers have one value. Both zeros do; no value equals itself where it is none. -/
def same : Double → Double → Bool
  | .finite a m e, .finite b n f => (m = 0 && n = 0) || (a = b && m = n && e = f)
  | .infinite a, .infinite b => a = b
  | _, _ => false

end Double

end ProtoRefresh.Decimal
