-- Text as bytes. A character takes one to four bytes, of which the first
-- tells how many follow; the shortest form is the only one, and halves of
-- pairs have none. Bytes that are no text are told by their first fault.

namespace ProtoRefresh.Text

/-! ## Faults -/

/-- Why some bytes start no character. -/
inductive Utf8Reason
  | badStart
  | badContinuation
  | cutShort
  deriving DecidableEq, Repr

/-- The first bytes that are no character, and where they are. -/
structure Utf8Fault where
  index : Nat
  bytes : List UInt8
  reason : Utf8Reason
  deriving DecidableEq, Repr

/-! ## Characters -/

/-- The number of bytes that a first byte asks for. -/
def lengthFrom? (first : UInt8) : Option Nat :=
  if first < 0x80 then some 1
  else if first < 0xC2 then none
  else if first < 0xE0 then some 2
  else if first < 0xF0 then some 3
  else if first < 0xF5 then some 4
  else none

/-- Whether a byte may come second. After some first bytes only a part of the others may. -/
def isSecond (first second : UInt8) : Bool :=
  if first = 0xE0 then 0xA0 ≤ second && second < 0xC0
  else if first = 0xED then 0x80 ≤ second && second < 0xA0
  else if first = 0xF0 then 0x90 ≤ second && second < 0xC0
  else if first = 0xF4 then 0x80 ≤ second && second < 0x90
  else 0x80 ≤ second && second < 0xC0

/-- How many of the bytes after the first one fit. -/
def fitting (first : UInt8) : List UInt8 → Nat
  | [] => 0
  | second :: more =>
    if isSecond first second then
      1 + (more.takeWhile fun b => 0x80 ≤ b && b < 0xC0).length
    else 0

/-- The number of bytes of the first character, or how many of them are wrong together and why. -/
def firstLength (first : UInt8) (more : List UInt8) : Except (Nat × Utf8Reason) Nat :=
  match lengthFrom? first with
  | none => .error (1, .badStart)
  | some length =>
    let following := more.take (length - 1)
    let fits := fitting first following
    if fits = length - 1 then .ok length
    else if fits = following.length then .error (fits + 1, .cutShort)
    else .error (fits + 1, .badContinuation)

/-- The first fault of bytes from an index on. The number bounds how many characters there are. -/
def faultFrom? : Nat → Nat → List UInt8 → Option Utf8Fault
  | 0, _, _ => none
  | _ + 1, _, [] => none
  | fuel + 1, index, first :: more =>
    match firstLength first more with
    | .ok length => faultFrom? fuel (index + length) ((first :: more).drop length)
    | .error (count, reason) => some ⟨index, (first :: more).take count, reason⟩

/-- The first fault of bytes. -/
def utf8Fault? (bytes : List UInt8) : Option Utf8Fault := faultFrom? bytes.length 0 bytes

/-- The text that bytes encode. -/
def decodeUtf8 (bytes : List UInt8) : Except Utf8Fault String :=
  match String.fromUTF8? ⟨bytes.toArray⟩ with
  | some s => .ok s
  | none => .error ((utf8Fault? bytes).getD ⟨0, [], .badStart⟩)

end ProtoRefresh.Text
