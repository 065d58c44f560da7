-- Source texts as they are written: statements, each of them some tokens,
-- with blanks and comments between any two tokens. However the tokens are
-- laid out they are read back as they are, so exactly the paths that the
-- import statements name are found.
import Mathlib.Data.List.Infix
import ProtoRefresh.Proofs.Text.Pieces
import ProtoRefresh.Proto.Imports

namespace ProtoRefresh.Proto

open Text

/-! ## What stands between tokens -/

/-- A blank or a comment. A line comment comes with its line end, a block comment with the first
end that it has. -/
inductive Filler
  | blank (c : Char) (h : isBlank c = true)
  | line (inside : List Char) (h : '\n' ∉ inside)
  | block (inside : List Char) (h : ¬ ['*', '/'] <:+: inside)

def Filler.text : Filler → List Char
  | .blank c _ => [c]
  | .line inside _ => '/' :: '/' :: inside ++ ['\n']
  | .block inside _ => '/' :: '*' :: inside ++ ['*', '/']

/-- What separates two tokens: blanks and comments in any order, one of them at least. -/
structure Gap where
  fillers : List Filler
  fillers_ne_nil : fillers ≠ []

def Gap.text (gap : Gap) : List Char := gap.fillers.flatMap Filler.text

/-! ## Tokens as they are written -/

/-- What may stand between two quotes: no line end and no quote of that kind, unless a backslash
takes it along. -/
inductive Inside (quote : Char) : List Char → Prop
  | nil : Inside quote []
  | escaped (c : Char) {rest : List Char} (h : Inside quote rest) : Inside quote ('\\' :: c :: rest)
  | plain {c : Char} {rest : List Char} (hquote : c ≠ quote) (hline : c ≠ '\n') (hslash : c ≠ '\\')
      (h : Inside quote rest) : Inside quote (c :: rest)

/-- A character that is a token by itself wherever it stands. -/
structure IsSign (c : Char) : Prop where
  not_blank : isBlank c = false
  not_word : isWordStart c = false
  not_slash : c ≠ '/'
  not_double : c ≠ '"'
  not_single : c ≠ '\''

/-- A token in its full written form. -/
inductive Lexeme.Whole : Lexeme → Prop
  | literal {quote : Char} {inside : List Char} (hquote : quote = '"' ∨ quote = '\'')
      (h : Inside quote inside) : Whole (.literal quote inside)
  | word {c : Char} {rest : List Char} (hstart : isWordStart c = true)
      (hrest : ∀ d ∈ rest, isWordRest d = true) : Whole (.word (c :: rest))
  | sign {c : Char} (h : IsSign c) : Whole (.symbol c)

/-! ## Statements -/

/-- What may follow the word `import`. -/
inductive Modifier
  | isPublic
  | isWeak

def Modifier.word : Modifier → List Char
  | .isPublic => "public".toList
  | .isWeak => "weak".toList

/-- The word for a modifier, if there is one. -/
def Modifier.tokens : Option Modifier → List Lexeme
  | none => []
  | some modifier => [.word modifier.word]

/-- A statement at the top level: an import, or tokens without the word `import` up to a semicolon
or a closing brace. -/
inductive Statement
  | imports (modifier : Option Modifier) (quote : Char) (path : List Char)
      (hquote : quote = '"' ∨ quote = '\'')
      (hpath : ∀ c ∈ path, c ≠ '\\' ∧ c ≠ '\n' ∧ c ≠ quote)
  | other (tokens : List Lexeme) (last : Lexeme)
      (htokens : ∀ token ∈ tokens, token.Whole ∧ token ≠ .word "import".toList)
      (hlast : last.endsStatement = true)

def Statement.tokens : Statement → List Lexeme
  | .imports modifier quote path _ _ =>
    .word "import".toList :: Modifier.tokens modifier ++ [.literal quote path, .symbol ';']
  | .other tokens last _ _ => tokens ++ [last]

/-- The path that a statement imports. -/
def Statement.path? : Statement → Option String
  | .imports _ _ path _ _ => some (String.ofList path)
  | .other _ _ _ _ => none

/-! ## Layouts -/

/-- A way to lay out tokens: what stands before the first one, after each one that is not the
last, and behind the last one. -/
structure Layout where
  before : List Filler
  after : Nat → Gap
  behind : List Filler

/-- Tokens with gaps between them, the first of which has a number. -/
def spread (after : Nat → Gap) : Nat → List Lexeme → List Char
  | _, [] => []
  | _, [token] => token.text
  | n, token :: next :: rest => token.text ++ (after n).text ++ spread after (n + 1) (next :: rest)

/-- The text of some statements in a layout. -/
def Layout.text (layout : Layout) (statements : List Statement) : List Char :=
  layout.before.flatMap Filler.text ++
    spread layout.after 0 (statements.flatMap Statement.tokens) ++
    layout.behind.flatMap Filler.text

/-! ## Lexemes are read as they are written -/

/-- No character of a word is a blank. -/
theorem isBlank_of_isWordRest {c : Char} (h : isWordRest c = true) : isBlank c = false := by
  have hcode : 46 ≤ c.toNat ∧ c.toNat ≤ 122 := by
    unfold isWordRest Char.isAlphanum Char.isAlpha Char.isUpper Char.isLower Char.isDigit at h
    simp only [Bool.or_eq_true, Bool.and_eq_true, decide_eq_true_eq, beq_iff_eq, ge_iff_le,
      UInt32.le_iff_toNat_le, Char.toNat_val] at h
    rcases h with (((hupper | hlower) | hdigit) | rfl) | rfl
    · simp at hupper
      omega
    · simp at hlower
      omega
    · simp at hdigit
      omega
    · decide
    · decide
  simp only [isBlank, CodeRanges.hasChar, blankRanges, CodeRanges.has]
  rw [if_neg (by omega), if_neg (by omega), if_neg (by omega), if_neg (by omega), if_pos (by omega)]

theorem isWordRest_of_isWordStart {c : Char} (h : isWordStart c = true) : isWordRest c = true := by
  unfold isWordStart at h
  unfold isWordRest Char.isAlphanum
  rcases Bool.or_eq_true _ _ ▸ h with halpha | hline
  · simp [halpha]
  · simp [hline]

theorem firstLexeme_of_isBlank {c : Char} (h : isBlank c = true) (rest : List Char) :
    firstLexeme c rest = (.blank c, rest) := by
  have hquotes : ¬ (c = '"' ∨ c = '\'') := by
    rintro (rfl | rfl)
    · exact absurd h (by decide)
    · exact absurd h (by decide)
  have hslash : c ≠ '/' := by
    rintro rfl
    exact absurd h (by decide)
  have hword : ¬ isWordStart c = true := by
    intro hstart
    rw [isBlank_of_isWordRest (isWordRest_of_isWordStart hstart)] at h
    cases h
  unfold firstLexeme plainLexeme
  rw [if_neg hquotes, if_neg hslash, if_neg hword, if_pos h]

theorem firstLexeme_lineComment {inside rest : List Char} (h : '\n' ∉ inside)
    (hrest : ∀ c ∈ rest.head?, c = '\n') :
    firstLexeme '/' ('/' :: (inside ++ rest)) = (.lineComment inside, rest) := by
  have hkeep : ∀ c ∈ inside, (c != '\n') = true := by
    intro c hc
    rw [bne_iff_ne]
    rintro rfl
    exact h hc
  have hstop : ∀ c ∈ rest.head?, (c != '\n') = false := fun c hc => by simp [hrest c hc]
  obtain ⟨htake, hdrop⟩ := takeWhile_append_of_stop hkeep hstop
  unfold firstLexeme
  rw [if_neg (by decide), if_pos rfl]
  simp only [htake, hdrop]

/-- A block comment ends at the first end that it has. -/
theorem blockEnd_of_not_infix {inside : List Char} (h : ¬ ['*', '/'] <:+: inside)
    (rest : List Char) : blockEnd (inside ++ '*' :: '/' :: rest) = (inside, true, rest) := by
  induction inside with
  | nil => rfl
  | cons c inside ih =>
    have hinside : ¬ ['*', '/'] <:+: inside := fun hin => h (hin.trans (List.suffix_cons c _).isInfix)
    have hopen : ∀ after, c = '*' → inside ++ '*' :: '/' :: rest = '/' :: after → False := by
      rintro after rfl hafter
      cases inside with
      | nil => simp at hafter
      | cons d inside =>
        obtain rfl : d = '/' := (List.cons.inj hafter).1
        exact h ⟨[], inside, rfl⟩
    rw [List.cons_append, blockEnd.eq_3 c _ hopen, ih hinside]

theorem firstLexeme_blockComment {inside : List Char} (h : ¬ ['*', '/'] <:+: inside)
    (rest : List Char) :
    firstLexeme '/' ('*' :: (inside ++ '*' :: '/' :: rest)) = (.blockComment inside true, rest) := by
  simp [firstLexeme, blockEnd_of_not_infix h]

theorem literalEnd_cons {c : Char} (h : c ≠ '\\') (quote : Char) (rest : List Char) :
    literalEnd quote (c :: rest) =
      if c = quote then some ([], rest)
      else if c = '\n' then none
      else (literalEnd quote rest).map fun (inside, after) => (c :: inside, after) :=
  literalEnd.eq_4 _ _ _ (fun hc => absurd hc h) (fun _ _ hc => absurd hc h)

/-- A literal ends at the first quote that no backslash takes along. -/
theorem literalEnd_of_inside {quote : Char} (hquote : quote ≠ '\\') {inside : List Char}
    (h : Inside quote inside) (rest : List Char) :
    literalEnd quote (inside ++ quote :: rest) = some (inside, rest) := by
  induction h with
  | nil =>
    rw [List.nil_append, literalEnd_cons hquote, if_pos rfl]
  | escaped c _ ih =>
    rw [List.cons_append, List.cons_append, literalEnd, ih]
    rfl
  | plain hq hline hslash _ ih =>
    rw [List.cons_append, literalEnd_cons hslash, if_neg hq, if_neg hline, ih]
    rfl

theorem ne_backslash_of_quote {quote : Char} (h : quote = '"' ∨ quote = '\'') : quote ≠ '\\' := by
  rcases h with rfl | rfl
  · decide
  · decide

theorem firstLexeme_literal {quote : Char} (hquote : quote = '"' ∨ quote = '\'')
    {inside : List Char} (h : Inside quote inside) (rest : List Char) :
    firstLexeme quote (inside ++ quote :: rest) = (.literal quote inside, rest) := by
  unfold firstLexeme
  rw [if_pos hquote, literalEnd_of_inside (ne_backslash_of_quote hquote) h]

/-- A text that cannot go on with a word. -/
def StartsNew (text : List Char) : Prop := ∀ c ∈ text.head?, isWordRest c = false

theorem firstLexeme_word {c : Char} {inside rest : List Char} (hstart : isWordStart c = true)
    (hinside : ∀ d ∈ inside, isWordRest d = true) (hrest : StartsNew rest) :
    firstLexeme c (inside ++ rest) = (.word (c :: inside), rest) := by
  have hquotes : ¬ (c = '"' ∨ c = '\'') := by
    rintro (rfl | rfl)
    · exact absurd hstart (by decide)
    · exact absurd hstart (by decide)
  have hslash : c ≠ '/' := by
    rintro rfl
    exact absurd hstart (by decide)
  obtain ⟨htake, hdrop⟩ := takeWhile_append_of_stop hinside hrest
  unfold firstLexeme plainLexeme
  rw [if_neg hquotes, if_neg hslash, if_pos hstart, htake, hdrop]

/-! ## Blanks and comments are passed over -/

theorem tokens_cons (c : Char) (rest : List Char) :
    tokens (c :: rest) =
      if (firstLexeme c rest).1.isToken then (firstLexeme c rest).1 :: tokens (firstLexeme c rest).2
      else tokens (firstLexeme c rest).2 := by
  unfold tokens
  rw [Lexeme.ofText, List.filter_cons]

theorem tokens_blank {c : Char} (h : isBlank c = true) (rest : List Char) :
    tokens (c :: rest) = tokens rest := by
  rw [tokens_cons, firstLexeme_of_isBlank h]
  rfl

theorem tokens_filler (filler : Filler) (rest : List Char) :
    tokens (filler.text ++ rest) = tokens rest := by
  cases filler with
  | blank c h => exact tokens_blank h rest
  | line inside h =>
    have htext : (Filler.line inside h).text ++ rest = '/' :: '/' :: (inside ++ '\n' :: rest) := by
      simp [Filler.text]
    have hline : ∀ c ∈ ('\n' :: rest).head?, c = '\n' := fun c hc => (Option.some.inj hc).symm
    rw [htext, tokens_cons, firstLexeme_lineComment h hline]
    exact tokens_blank (by decide) rest
  | block inside h =>
    have htext : (Filler.block inside h).text ++ rest =
        '/' :: '*' :: (inside ++ '*' :: '/' :: rest) := by simp [Filler.text]
    rw [htext, tokens_cons, firstLexeme_blockComment h]
    rfl

theorem tokens_fillers (fillers : List Filler) (rest : List Char) :
    tokens (fillers.flatMap Filler.text ++ rest) = tokens rest := by
  induction fillers with
  | nil => rfl
  | cons filler fillers ih => rw [List.flatMap_cons, List.append_assoc, tokens_filler, ih]

/-! ## Tokens are read as they are written -/

theorem startsNew_filler (filler : Filler) (rest : List Char) :
    StartsNew (filler.text ++ rest) := by
  cases filler with
  | blank c h =>
    intro d hd
    obtain rfl : c = d := by simpa [Filler.text] using hd
    rw [← Bool.not_eq_true]
    intro hword
    rw [isBlank_of_isWordRest hword] at h
    cases h
  | line inside h =>
    intro d hd
    obtain rfl : '/' = d := by simpa [Filler.text] using hd
    decide
  | block inside h =>
    intro d hd
    obtain rfl : '/' = d := by simpa [Filler.text] using hd
    decide

theorem startsNew_fillers (fillers : List Filler) {rest : List Char} (h : StartsNew rest) :
    StartsNew (fillers.flatMap Filler.text ++ rest) := by
  cases fillers with
  | nil => exact h
  | cons filler fillers =>
    rw [List.flatMap_cons, List.append_assoc]
    exact startsNew_filler filler _

theorem Gap.startsNew (gap : Gap) (rest : List Char) : StartsNew (gap.text ++ rest) := by
  obtain ⟨fillers, hne⟩ := gap
  cases fillers with
  | nil => exact absurd rfl hne
  | cons filler fillers =>
    unfold Gap.text
    rw [List.flatMap_cons, List.append_assoc]
    exact startsNew_filler filler _

theorem tokens_whole {token : Lexeme} (h : token.Whole) {rest : List Char}
    (hrest : StartsNew rest) : tokens (token.text ++ rest) = token :: tokens rest := by
  cases h with
  | @literal quote inside hquote hinside =>
    have htext : (Lexeme.literal quote inside).text ++ rest = quote :: (inside ++ quote :: rest) := by
      simp [Lexeme.text]
    rw [htext, tokens_cons, firstLexeme_literal hquote hinside]
    rfl
  | @word c inside hstart hinside =>
    have htext : (Lexeme.word (c :: inside)).text ++ rest = c :: (inside ++ rest) := rfl
    rw [htext, tokens_cons, firstLexeme_word hstart hinside hrest]
    rfl
  | @sign c hsign =>
    have hfirst : firstLexeme c rest = (.symbol c, rest) := by
      unfold firstLexeme plainLexeme
      rw [if_neg (not_or.2 ⟨hsign.not_double, hsign.not_single⟩), if_neg hsign.not_slash,
        if_neg (by simp [hsign.not_word]), if_neg (by simp [hsign.not_blank])]
    have htext : (Lexeme.symbol c).text ++ rest = c :: rest := rfl
    rw [htext, tokens_cons, hfirst]
    rfl

theorem tokens_spread (after : Nat → Gap) {all : List Lexeme} (h : ∀ token ∈ all, token.Whole)
    {rest : List Char} (hrest : StartsNew rest) (n : Nat) :
    tokens (spread after n all ++ rest) = all ++ tokens rest := by
  induction n, all using spread.induct with
  | case1 n => rfl
  | case2 n token => exact tokens_whole (h token List.mem_cons_self) hrest
  | case3 n token next more ih =>
    have hmore := ih fun other ho => h other (List.mem_cons_of_mem token ho)
    rw [spread, List.append_assoc, List.append_assoc,
      tokens_whole (h token List.mem_cons_self) ((after n).startsNew _)]
    unfold Gap.text
    rw [tokens_fillers, hmore]
    rfl

/-! ## Statements give their paths -/

theorem Lexeme.endsStatement_iff {last : Lexeme} :
    last.endsStatement = true ↔ last = .symbol ';' ∨ last = .symbol '\x7d' := by
  unfold Lexeme.endsStatement
  rw [Bool.or_eq_true, decide_eq_true_eq, decide_eq_true_eq]

theorem whole_of_endsStatement {last : Lexeme} (h : last.endsStatement = true) : last.Whole := by
  rcases Lexeme.endsStatement_iff.1 h with rfl | rfl
  · exact .sign ⟨by decide, by decide, by decide, by decide, by decide⟩
  · exact .sign ⟨by decide, by decide, by decide, by decide, by decide⟩

theorem inside_of_forall {quote : Char} {path : List Char}
    (h : ∀ c ∈ path, c ≠ '\\' ∧ c ≠ '\n' ∧ c ≠ quote) : Inside quote path := by
  induction path with
  | nil => exact .nil
  | cons c path ih =>
    obtain ⟨hslash, hline, hquote⟩ := h c List.mem_cons_self
    exact .plain hquote hline hslash (ih fun d hd => h d (List.mem_cons_of_mem c hd))

theorem Modifier.of_mem_tokens {modifier : Option Modifier} {token : Lexeme}
    (h : token ∈ Modifier.tokens modifier) : token.Whole ∧ token ≠ .word "import".toList := by
  cases modifier with
  | none => exact absurd h List.not_mem_nil
  | some modifier =>
    rw [List.mem_singleton.1 h]
    cases modifier with
    | isPublic => exact ⟨.word (by decide) (List.all_eq_true.1 (by decide)), by decide⟩
    | isWeak => exact ⟨.word (by decide) (List.all_eq_true.1 (by decide)), by decide⟩

theorem Statement.tokens_whole (statement : Statement) :
    ∀ token ∈ statement.tokens, token.Whole := by
  intro token ht
  cases statement with
  | imports modifier quote path hquote hpath =>
    simp only [Statement.tokens, List.cons_append, List.mem_cons, List.mem_append,
      List.not_mem_nil, or_false] at ht
    rcases ht with rfl | hm | rfl | rfl
    · exact .word (by decide) (List.all_eq_true.1 (by decide))
    · exact (Modifier.of_mem_tokens hm).1
    · exact .literal hquote (inside_of_forall hpath)
    · exact whole_of_endsStatement (by decide)
  | other tokens last htokens hlast =>
    rcases List.mem_append.1 ht with ht | ht
    · exact (htokens token ht).1
    · rw [List.mem_singleton.1 ht]
      exact whole_of_endsStatement hlast

theorem pathsOfTokens_cons_of_ne {token : Lexeme} (h : token ≠ .word "import".toList)
    (rest : List Lexeme) (fresh : Bool) :
    pathsOfTokens fresh (token :: rest) = pathsOfTokens token.endsStatement rest := by
  rw [pathsOfTokens, if_neg]
  intro hboth
  rw [Bool.and_eq_true, decide_eq_true_eq] at hboth
  exact h hboth.2

/-- The token that ends a statement is not the word `import`, and another statement follows. -/
theorem pathsOfTokens_last {last : Lexeme} (h : last.endsStatement = true) (rest : List Lexeme)
    (fresh : Bool) : pathsOfTokens fresh (last :: rest) = pathsOfTokens true rest := by
  have hne : last ≠ .word "import".toList := by
    rintro rfl
    exact absurd h (by decide)
  rw [pathsOfTokens_cons_of_ne hne, h]

/-- Tokens without the word `import` are passed over up to the end of their statement. -/
theorem pathsOfTokens_other {all : List Lexeme} {last : Lexeme}
    (h : ∀ token ∈ all, token ≠ .word "import".toList) (hlast : last.endsStatement = true)
    (rest : List Lexeme) (fresh : Bool) :
    pathsOfTokens fresh (all ++ last :: rest) = pathsOfTokens true rest := by
  induction all generalizing fresh with
  | nil =>
    rw [List.nil_append, pathsOfTokens_last hlast]
  | cons token all ih =>
    rw [List.cons_append, pathsOfTokens_cons_of_ne (h token List.mem_cons_self)]
    exact ih (fun other ho => h other (List.mem_cons_of_mem token ho)) _

/-- After the word `import` the path follows, with or without a modifier before it. -/
theorem importedPath?_statement (modifier : Option Modifier) (quote : Char) (path : List Char)
    (rest : List Lexeme) :
    importedPath? (Modifier.tokens modifier ++ .literal quote path :: .symbol ';' :: rest) =
      some path := by
  cases modifier with
  | none => rfl
  | some modifier =>
    cases modifier with
    | isPublic => rfl
    | isWeak => rfl

theorem pathsOfTokens_statement (statement : Statement) (rest : List Lexeme) :
    (pathsOfTokens true (statement.tokens ++ rest)).map String.ofList =
      statement.path?.toList ++ (pathsOfTokens true rest).map String.ofList := by
  cases statement with
  | imports modifier quote path hquote hpath =>
    have htokens : (Statement.imports modifier quote path hquote hpath).tokens ++ rest =
        .word "import".toList ::
          (Modifier.tokens modifier ++ .literal quote path :: .symbol ';' :: rest) := by
      simp [Statement.tokens]
    -- no other import starts before the semicolon
    have hpass : pathsOfTokens false
        (Modifier.tokens modifier ++ .literal quote path :: .symbol ';' :: rest) =
        pathsOfTokens true rest := by
      rw [List.append_cons]
      refine pathsOfTokens_other (fun token ht => ?_) (by decide) rest false
      rcases List.mem_append.1 ht with ht | ht
      · exact (Modifier.of_mem_tokens ht).2
      · rw [List.mem_singleton.1 ht]
        simp
    have hnot : (Lexeme.word "import".toList).endsStatement = false := by decide
    rw [htokens, pathsOfTokens, if_pos (by decide), importedPath?_statement, hnot, hpass]
    rfl
  | other tokens last htokens hlast =>
    have hlist : (Statement.other tokens last htokens hlast).tokens ++ rest =
        tokens ++ last :: rest := by simp [Statement.tokens]
    rw [hlist, pathsOfTokens_other (fun token ht => (htokens token ht).2) hlast]
    rfl

theorem pathsOfTokens_statements (statements : List Statement) :
    (pathsOfTokens true (statements.flatMap Statement.tokens)).map String.ofList =
      statements.filterMap Statement.path? := by
  induction statements with
  | nil => rfl
  | cons statement rest ih =>
    rw [List.flatMap_cons, pathsOfTokens_statement, ih]
    cases statement with
    | imports => rfl
    | other => rfl

/-- However statements are laid out, the paths that they import are found in order, and nothing
else is taken for an import. -/
theorem statements_give_their_paths (layout : Layout) (statements : List Statement) :
    imports (String.ofList (layout.text statements)) = statements.filterMap Statement.path? := by
  have hwhole : ∀ token ∈ statements.flatMap Statement.tokens, token.Whole := by
    intro token ht
    obtain ⟨statement, _, ht⟩ := List.mem_flatMap.1 ht
    exact statement.tokens_whole token ht
  have hend : StartsNew (layout.behind.flatMap Filler.text) := by
    have hnil : StartsNew [] := fun c hc => by simp at hc
    simpa using startsNew_fillers layout.behind hnil
  have hbehind : tokens (layout.behind.flatMap Filler.text) = [] := by
    simpa [tokens, Lexeme.ofText] using tokens_fillers layout.behind []
  have htokens : tokens (layout.text statements) = statements.flatMap Statement.tokens := by
    unfold Layout.text
    rw [List.append_assoc, tokens_fillers, tokens_spread layout.after hwhole hend 0, hbehind,
      List.append_nil]
  unfold imports importedPaths
  rw [String.toList_ofList, htokens, pathsOfTokens_statements]

/-- A comment that holds a quote, and a blank. -/
def quotingGap : Gap := ⟨[.block "\"".toList (by decide), .blank ' ' (by decide)], by simp⟩

example : (⟨[], fun _ => quotingGap, []⟩ : Layout).text
    [.imports (some .isWeak) '\'' "a\"b".toList (Or.inr rfl) (by simp),
     .other [] (.symbol '\x7d') (by simp) (by decide)] =
    "import/*\"*/ weak/*\"*/ 'a\"b'/*\"*/ ;/*\"*/ \x7d".toList := by decide

end ProtoRefresh.Proto
