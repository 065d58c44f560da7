-- The binary form of messages: a row of fields, each one a number with
-- its content. The content is a number of variable length, four or eight
-- bytes, counted bytes, or a group, which is a row of fields up to its
-- end mark.

namespace ProtoRefresh.Compiler

/-! ## Fields -/

/-- The content of a field, as far as its form tells. -/
inductive Payload
  | plain
  | counted (bytes : List UInt8)
  | group
  deriving DecidableEq, Repr

structure Field where
  number : Nat
  payload : Payload
  deriving DecidableEq, Repr

/-! ## Reading -/

/-- A number of variable length, of at most so many bytes: seven bits in each, the lowest first. -/
def readNumber : Nat → List UInt8 → Option (Nat × List UInt8)
  | 0, _ => none
  | _, [] => none
  | limit + 1, byte :: rest =>
    if byte < 128 then some (byte.toNat, rest)
    else do
      let (high, rest) ← readNumber limit rest
      return (byte.toNat - 128 + 128 * high, rest)

/-- The bytes behind the first ones, if there are as many. -/
def dropBytes (n : Nat) (bytes : List UInt8) : Option (List UInt8) :=
  if n ≤ bytes.length then some (bytes.drop n) else none

/-- The number and the form of the next field. -/
def readTag (bytes : List UInt8) : Option (Nat × Nat × List UInt8) := do
  let (tag, rest) ← readNumber 5 bytes
  if tag < 4294967296 then return (tag / 8, tag % 8, rest) else none

/-- The bytes behind the content of a field that is no group. -/
def readPayload (form : Nat) (bytes : List UInt8) : Option (Payload × List UInt8) := do
  match form with
  | 0 => return (.plain, (← readNumber 10 bytes).2)
  | 1 => return (.plain, ← dropBytes 8 bytes)
  | 2 =>
    let (size, rest) ← readNumber 10 bytes
    let behind ← dropBytes size rest
    return (.counted (rest.take size), behind)
  | 5 => return (.plain, ← dropBytes 4 bytes)
  | _ => none

/-- The bytes behind a group. The numbers bound its length and its depth. -/
def skipGroup : Nat → Nat → Nat → List UInt8 → Option (List UInt8)
  | 0, _, _, _ => none
  | fuel + 1, depth, number, bytes => do
    let (inner, form, rest) ← readTag bytes
    if inner = 0 then none
    else if form = 4 then
      if inner = number then return rest else none
    else if form = 3 then
      match depth with
      | 0 => none
      | depth' + 1 => skipGroup fuel depth number (← skipGroup fuel depth' inner rest)
    else skipGroup fuel depth number (← readPayload form rest).2

/-- The fields of a message. The numbers bound its length and the depth of its groups. -/
def readFields : Nat → Nat → List UInt8 → Option (List Field)
  | _, _, [] => some []
  | 0, _, _ => none
  | fuel + 1, depth, bytes => do
    let (number, form, rest) ← readTag bytes
    if number = 0 then none
    else if form = 3 then
      match depth with
      | 0 => none
      | depth' + 1 =>
        return ⟨number, .group⟩ :: (← readFields fuel depth (← skipGroup fuel depth' number rest))
    else
      let (payload, rest) ← readPayload form rest
      return ⟨number, payload⟩ :: (← readFields fuel depth rest)

/-- The fields of a message at a depth. -/
def fieldsOf (depth : Nat) (bytes : List UInt8) : Option (List Field) :=
  readFields bytes.length depth bytes

/-- Whether some bytes are a row of numbers of variable length. -/
def isNumberRow : Nat → List UInt8 → Bool
  | _, [] => true
  | 0, _ => false
  | fuel + 1, bytes =>
    match readNumber 10 bytes with
    | some (_, rest) => isNumberRow fuel rest
    | none => false

end ProtoRefresh.Compiler
