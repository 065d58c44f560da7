-- Properties of nodes: the names of anchors and aliases, and tags. A tag
-- is written out between angle brackets, or as a handle with the rest of
-- the tag behind it.
import ProtoRefresh.Document.Yaml.Cursor
import ProtoRefresh.Text.Utf8

namespace ProtoRefresh.Document.Yaml

/-! ## Anchors -/

/-- Whether a character may follow the name of an anchor. -/
def mayFollowAnchor (after : Option Char) : Bool :=
  endsWord after || after.any fun c => "?:,]\x7d%@`".toList.contains c

/-- The name of an anchor or an alias, behind its sign. -/
def anchorName : Scan String := do
  Scan.skip 1
  let name ← Scan.takeWhile isNameChar
  if name.isEmpty || !mayFollowAnchor (← Scan.next) then Scan.fail
  return String.ofList name

/-! ## Addresses -/

/-- The characters that escapes encode, two digits a byte. -/
def addressEscapes : Nat → Scan (List UInt8)
  | 0 => return []
  | n + 1 => do
    if (← Scan.next) ≠ some '%' then return []
    Scan.skip 1
    let digits := (← Scan.rest).take 2
    match hexNumber? digits with
    | some byte =>
      if digits.length < 2 then Scan.fail
      Scan.skip 2
      return UInt8.ofNat byte :: (← addressEscapes n)
    | none => Scan.fail

/-- An address or a part of one; it may be empty here. -/
def addressFrom : Nat → Scan (List Char)
  | 0 => return []
  | n + 1 => do
    let run ← Scan.takeWhile fun c => isAddressChar c && c != '%'
    let bytes ← addressEscapes (← Scan.bound)
    if bytes.isEmpty then return run
    match Text.decodeUtf8 bytes with
    | .ok text => return run ++ text.toList ++ (← addressFrom n)
    | .error _ => Scan.fail

/-- An address or a part of one. -/
def address : Scan String := do
  let bound ← Scan.bound
  if !((← Scan.next).any isAddressChar) then Scan.fail
  return String.ofList (← addressFrom bound)

/-! ## Tags -/

/-- A tag as it is written. -/
structure TagName where
  /-- The handle that stands for the start of the tag, if it is not written out. -/
  handle : Option String
  rest : String
  deriving DecidableEq, Repr

/-- A handle: an exclamation mark alone, or a name between two of them. -/
def tagHandle : Scan String := do
  if (← Scan.next) ≠ some '!' then Scan.fail
  Scan.skip 1
  if (← Scan.next) = some ' ' then return "!"
  let name ← Scan.takeWhile isNameChar
  if (← Scan.next) ≠ some '!' then Scan.fail
  Scan.skip 1
  return String.ofList ('!' :: name ++ ['!'])

/-- A tag written out between angle brackets. -/
def fullTag : Scan TagName := do
  Scan.skip 2
  let text ← address
  if (← Scan.next) ≠ some '>' then Scan.fail
  Scan.skip 1
  return ⟨none, text⟩

/-- A tag with a handle. An exclamation mark inside the word ends the handle. -/
def shortTag : Scan TagName := do
  let word := ((← Scan.rest).drop 1).takeWhile fun c => c != ' ' && !isBreak c
  if word.contains '!' then return ⟨some (← tagHandle), ← address⟩
  Scan.skip 1
  return ⟨some "!", ← address⟩

/-- A tag. An exclamation mark alone is one. -/
def tagName : Scan TagName := do
  let tag ←
    match (← Scan.rest)[1]? with
    | some '<' => fullTag
    | after =>
      if endsWord after then
        Scan.skip 1
        pure ⟨none, "!"⟩
      else shortTag
  unless endsName (← Scan.next) do Scan.fail
  return tag

end ProtoRefresh.Document.Yaml
