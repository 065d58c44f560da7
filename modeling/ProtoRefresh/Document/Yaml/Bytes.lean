-- Bytes written in an alphabet of sixty-four characters, six bits each.
-- Characters outside the alphabet are passed over; the text ends where
-- its padding completes a group of four.
import ProtoRefresh.Document.Yaml.Basic

namespace ProtoRefresh.Document.Yaml

/-- The value of a character of the alphabet. -/
def sextet? (c : Char) : Option Nat :=
  if 'A' ≤ c && c ≤ 'Z' then some (c.toNat - 65)
  else if 'a' ≤ c && c ≤ 'z' then some (c.toNat - 71)
  else if c.isDigit then some (c.toNat + 4)
  else if c = '+' then some 62
  else if c = '/' then some 63
  else none

/-- The values of a text that goes on at a place of a group, behind some padding. There are none
for a text that ends inside a group. -/
def sextets : Nat → Nat → List Char → Option (List Nat)
  | place, _, [] => if place = 0 then some [] else none
  | place, pads, c :: rest =>
    match sextet? c with
    | some value => (sextets ((place + 1) % 4) 0 rest).map (value :: ·)
    | none =>
      if c = '=' && 2 ≤ place then if 3 ≤ place + pads then some [] else sextets place (pads + 1) rest
      else sextets place pads rest

/-- The bytes that values of six bits make together. -/
def packSextets : List Nat → List Nat
  | a :: b :: c :: d :: rest => (a * 4 + b / 16) :: (b % 16 * 16 + c / 4) :: (c % 4 * 64 + d) :: packSextets rest
  | [a, b, c] => [a * 4 + b / 16, b % 16 * 16 + c / 4]
  | [a, b] => [a * 4 + b / 16]
  | _ => []

/-- The bytes that a text stands for. -/
def bytesOf? (text : List Char) : Option (List UInt8) :=
  if text.all fun c => c.toNat < 128 then
    (sextets 0 0 text).map fun values => (packSextets values).map UInt8.ofNat
  else none

end ProtoRefresh.Document.Yaml
