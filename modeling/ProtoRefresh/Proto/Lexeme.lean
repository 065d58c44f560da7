-- The lexemes of a .proto source text. One pass from left to right cuts
-- the text into string literals, comments, words, single symbols and the
-- blanks between them. Nothing is lost: the lexemes of a text, put
-- together again, are the text.
import ProtoRefresh.Text.Blank

namespace ProtoRefresh.Proto

open Text

/-! ## Lexemes -/

inductive Lexeme
  /-- A literal between two quotes of one kind. -/
  | literal (quote : Char) (inside : List Char)
  /-- A line comment, without the line end. -/
  | lineComment (inside : List Char)
  /-- A block comment, which the end of the text may cut short. -/
  | blockComment (inside : List Char) (closed : Bool)
  | word (chars : List Char)
  | symbol (c : Char)
  | blank (c : Char)
  deriving DecidableEq, Repr

/-- The characters of a lexeme. -/
def Lexeme.text : Lexeme → List Char
  | .literal quote inside => quote :: inside ++ [quote]
  | .lineComment inside => '/' :: '/' :: inside
  | .blockComment inside closed => '/' :: '*' :: inside ++ (if closed then ['*', '/'] else [])
  | .word chars => chars
  | .symbol c => [c]
  | .blank c => [c]

/-! ## Reading one lexeme -/

/-- The inside of a literal and the text after it, if a closing quote comes before a line end.
A backslash takes the character after it along. -/
def literalEnd (quote : Char) : List Char → Option (List Char × List Char)
  | [] => none
  | '\\' :: [] => none
  | '\\' :: c :: rest => (literalEnd quote rest).map fun (inside, after) => ('\\' :: c :: inside, after)
  | c :: rest =>
    if c = quote then some ([], rest)
    else if c = '\n' then none
    else (literalEnd quote rest).map fun (inside, after) => (c :: inside, after)

/-- The inside of a block comment, whether it is closed, and the text after it. -/
def blockEnd : List Char → List Char × Bool × List Char
  | [] => ([], false, [])
  | '*' :: '/' :: rest => ([], true, rest)
  | c :: rest =>
    let (inside, closed, after) := blockEnd rest
    (c :: inside, closed, after)

/-- A character that a word may start with. -/
def isWordStart (c : Char) : Bool := c.isAlpha || c == '_'

/-- A character that a word may go on with. -/
def isWordRest (c : Char) : Bool := c.isAlphanum || c == '_' || c == '.'

/-- A lexeme that starts with neither a quote nor a slash. -/
def plainLexeme (c : Char) (rest : List Char) : Lexeme × List Char :=
  if isWordStart c then (.word (c :: rest.takeWhile isWordRest), rest.dropWhile isWordRest)
  else if isBlank c then (.blank c, rest)
  else (.symbol c, rest)

/-- The first lexeme of a text that starts with `c`, and the text after it. -/
def firstLexeme (c : Char) (rest : List Char) : Lexeme × List Char :=
  if c = '"' ∨ c = '\'' then
    match literalEnd c rest with
    | some (inside, after) => (.literal c inside, after)
    | none => (.symbol c, rest)
  else if c = '/' then
    match rest with
    | '/' :: rest => (.lineComment (rest.takeWhile (· != '\n')), rest.dropWhile (· != '\n'))
    | '*' :: rest =>
      let (inside, closed, after) := blockEnd rest
      (.blockComment inside closed, after)
    | _ => (.symbol c, rest)
  else plainLexeme c rest

/-! ## Nothing is lost -/

theorem literalEnd_eq {quote : Char} {text inside after : List Char}
    (h : literalEnd quote text = some (inside, after)) : inside ++ quote :: after = text := by
  fun_induction literalEnd quote text generalizing inside after with
  | case1 => simp at h
  | case2 => simp at h
  | case3 c rest ih =>
    obtain ⟨⟨i, a⟩, hi, he⟩ := Option.map_eq_some_iff.1 h
    simp only [Prod.mk.injEq] at he
    obtain ⟨rfl, rfl⟩ := he
    simp [ih hi]
  | case4 rest _ => simp_all
  | case5 => simp at h
  | case6 c rest _ _ _ _ ih =>
    obtain ⟨⟨i, a⟩, hi, he⟩ := Option.map_eq_some_iff.1 h
    simp only [Prod.mk.injEq] at he
    obtain ⟨rfl, rfl⟩ := he
    simp [ih hi]

theorem blockEnd_eq (text : List Char) :
    (blockEnd text).1 ++ (if (blockEnd text).2.1 then ['*', '/'] else []) ++ (blockEnd text).2.2
      = text := by
  fun_induction blockEnd text with
  | case1 => rfl
  | case2 => rfl
  | case3 c rest _ inside closed after he ih => simpa [he] using ih

theorem firstLexeme_text (c : Char) (rest : List Char) :
    (firstLexeme c rest).1.text ++ (firstLexeme c rest).2 = c :: rest := by
  unfold firstLexeme
  split
  · split
    · rename_i inside after h
      simpa [Lexeme.text] using literalEnd_eq h
    · rfl
  · split
    · rename_i hc
      subst hc
      split
      · simp [Lexeme.text]
      · rename_i rest
        simpa [Lexeme.text] using blockEnd_eq rest
      · rfl
    · unfold plainLexeme
      split
      · simp [Lexeme.text]
      · split <;> rfl

theorem firstLexeme_text_ne_nil (c : Char) (rest : List Char) :
    (firstLexeme c rest).1.text ≠ [] := by
  unfold firstLexeme plainLexeme
  repeat' split
  all_goals simp [Lexeme.text]

theorem firstLexeme_rest_length (c : Char) (rest : List Char) :
    (firstLexeme c rest).2.length ≤ rest.length := by
  have h := congrArg List.length (firstLexeme_text c rest)
  have hne := List.length_pos_iff.2 (firstLexeme_text_ne_nil c rest)
  simp only [List.length_append, List.length_cons] at h
  omega

/-! ## Reading a text -/

/-- The lexemes of a text, from left to right. -/
def Lexeme.ofText : List Char → List Lexeme
  | [] => []
  | c :: rest => (firstLexeme c rest).1 :: ofText (firstLexeme c rest).2
  termination_by text => text.length
  decreasing_by
    have := firstLexeme_rest_length c rest
    simp only [List.length_cons]
    omega

/-- The lexemes of a text tile it. -/
theorem Lexeme.flatMap_text_ofText (text : List Char) :
    (Lexeme.ofText text).flatMap Lexeme.text = text := by
  fun_induction Lexeme.ofText text with
  | case1 => rfl
  | case2 c rest ih => rw [List.flatMap_cons, ih, firstLexeme_text]

/-! ## Tokens -/

/-- A lexeme that counts for the grammar: neither a blank nor a comment. -/
def Lexeme.isToken : Lexeme → Bool
  | .lineComment _ => false
  | .blockComment _ _ => false
  | .blank _ => false
  | _ => true

/-- The lexemes that count for the grammar. -/
def tokens (text : List Char) : List Lexeme := (Lexeme.ofText text).filter Lexeme.isToken

end ProtoRefresh.Proto
