-- Text with style tags. A tag stands in brackets and starts with a small
-- letter or one of the signs for colours, closings and actions; a
-- backslash before it makes it plain text. Tags vanish when the text is
-- shown; a closing tag needs an open tag of its name, or any open tag
-- when it has no name. Codes for emoji are replaced in the text between
-- tags.
import ProtoRefresh.Console.Emoji
import ProtoRefresh.Console.Style
import ProtoRefresh.Host.Failure

namespace ProtoRefresh.Console

open Text

/-! ## Reading -/

/-- A piece of text with tags. -/
inductive Piece
  | plain (text : List Char)
  | tag (text : List Char)
  deriving DecidableEq, Repr

/-- Whether a tag may start with a character. -/
def startsTag (c : Char) : Bool := ('a' ≤ c && c ≤ 'z') || c == '#' || c == '/' || c == '@'

/-- The inside of a tag, and what follows it, of a text behind an opening bracket. -/
def readTag? (text : List Char) : Option (List Char × List Char) :=
  match text with
  | c :: _ =>
    let inside := text.takeWhile fun c => c != ']' && c != '['
    if startsTag c && (text.drop inside.length).head? = some ']' then
      some (inside, text.drop (inside.length + 1))
    else none
  | [] => none

theorem readTag?_shorter {text inside rest : List Char} (h : readTag? text = some (inside, rest)) :
    rest.length < text.length := by
  unfold readTag? at h
  split at h
  · rename_i c tail
    simp only at h
    split at h
    · simp only [Option.some.injEq, Prod.mk.injEq] at h
      rw [← h.2]
      simp only [List.length_drop, List.length_cons]
      omega
    · simp at h
  · simp at h

/-- The tag at the start of a text, with the number of backslashes before it and what follows. -/
def markAt? (text : List Char) : Option (Nat × List Char × List Char) :=
  let slashes := (text.takeWhile (· == '\\')).length
  match text.drop slashes with
  | '[' :: inner => (readTag? inner).map fun (inside, after) => (slashes, inside, after)
  | _ => none

theorem markAt?_shorter {text inside after : List Char} {n : Nat}
    (h : markAt? text = some (n, inside, after)) : after.length < text.length := by
  unfold markAt? at h
  simp only at h
  split at h
  · rename_i inner hd
    obtain ⟨⟨a, b⟩, hr, he⟩ := Option.map_eq_some_iff.1 h
    simp only [Prod.mk.injEq] at he
    have h1 := readTag?_shorter hr
    have h2 := congrArg List.length hd
    simp only [List.length_drop, List.length_cons] at h2
    rw [← he.2.2]
    omega
  · simp at h

/-- A text in which a backslash before a bracket is left out. -/
def dropEscapes : List Char → List Char
  | '\\' :: '[' :: rest => '[' :: dropEscapes rest
  | c :: rest => c :: dropEscapes rest
  | [] => []

/-- Puts a character before the first piece. -/
def pushPlain (c : Char) : List Piece → List Piece
  | .plain text :: pieces => .plain (c :: text) :: pieces
  | pieces => .plain [c] :: pieces

/-- The pieces of a text. Of backslashes before a tag each pair is one; a single one makes the tag
plain. An empty plain piece keeps its neighbours apart. -/
def readPieces (text : List Char) : List Piece :=
  match text with
  | [] => []
  | c :: rest =>
    match h : markAt? (c :: rest) with
    | some (slashes, inside, after) =>
      have := markAt?_shorter h
      let shown := if slashes % 2 = 1 then Piece.plain ('[' :: inside ++ [']']) else .tag inside
      .plain [] :: .plain (List.replicate (slashes / 2) '\\') :: .plain [] :: shown ::
        .plain [] :: readPieces after
    | none => pushPlain c (readPieces rest)
termination_by text.length
decreasing_by
  · exact this
  · exact Nat.lt_succ_self _

/-! ## Showing -/

/-- The name of a tag, and what it is given. -/
def splitTag (text : List Char) : List Char × Option (List Char) :=
  let name := text.takeWhile (· != '=')
  (name, if name.length < text.length then some (text.drop (name.length + 1)) else none)

/-- Whether an action that a tag gives is well formed: a name, perhaps with arguments in
parentheses. -/
def isAction (text : List Char) : Bool :=
  let text := trim text
  let behind := text.dropWhile fun c => isWordChar c || c == '.'
  behind.isEmpty || (behind.head? = some '(' && behind.getLast? = some ')')

/-- An open tag: the normal form of its name, and the action that it gives. -/
structure OpenTag where
  name : String
  action : Option (List Char)

/-- The open tags, the last one first, after a tag. -/
def stepTag (opened : List OpenTag) (tag : List Char) : Except Failure (List OpenTag) := do
  let (name, given) := splitTag tag
  match name with
  | '/' :: closing =>
    let closing := trim closing
    let place := if closing.isEmpty then 0
      else opened.findIdx fun tag => tag.name == styleName closing
    match opened[place]? with
    | none => throw .markup
    | some tag =>
      if tag.name.toList.head? = some '@' && !((tag.action.map isAction).getD true) then
        throw .markup
      return opened.eraseIdx place
  | _ => return ⟨styleName name, given⟩ :: opened

/-- A control character that is never shown. -/
def isStripped (c : Char) : Bool :=
  c == '\x07' || c == '\x08' || c == '\x0b' || c == '\x0c' || c == '\r'

/-- What is shown of pieces, given the open tags. -/
def showPieces : List OpenTag → List Piece → Except Failure (List Char)
  | _, [] => return []
  | opened, .plain text :: rest =>
    return replaceEmoji (dropEscapes text) ++ (← showPieces opened rest)
  | opened, .tag text :: rest => do showPieces (← stepTag opened text) rest

/-- What is shown of a text with tags. -/
def showMarkup (text : List Char) : Except Failure (List Char) := do
  if !text.contains '[' then return (replaceEmoji text).filter (!isStripped ·)
  return (← showPieces [] (readPieces text)).filter (!isStripped ·)

/-- A text with a backslash before each tag, and each backslash there twice. -/
def escapeTags (text : List Char) : List Char :=
  match text with
  | [] => []
  | c :: rest =>
    match h : markAt? (c :: rest) with
    | some (slashes, inside, after) =>
      have := markAt?_shorter h
      List.replicate (2 * slashes + 1) '\\' ++ '[' :: inside ++ ']' :: escapeTags after
    | none => c :: escapeTags rest
termination_by text.length
decreasing_by
  · exact this
  · exact Nat.lt_succ_self _

/-- A text whose tags are plain text. A last single backslash is doubled. -/
def escapeMarkup (text : List Char) : List Char :=
  let escaped := escapeTags text
  match escaped.reverse with
  | '\\' :: '\\' :: _ => escaped
  | '\\' :: _ => escaped ++ ['\\']
  | _ => escaped

end ProtoRefresh.Console
