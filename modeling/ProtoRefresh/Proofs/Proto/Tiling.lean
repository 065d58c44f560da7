-- The lexemes of a text as a tiling of it. Put together they are the text,
-- each of them holds something, and each is what its place in the text
-- allows: a literal holds no line end and no quote of its kind unless a
-- backslash takes it along, a block comment ends at the first end there is,
-- what is passed over is white space, and a quote stands by itself only
-- where nothing closes it.
import ProtoRefresh.Proofs.Proto.Comments

namespace ProtoRefresh.Proto

open Text

variable {text rest inside after : List Char} {lexeme : Lexeme} {c quote : Char} {n : Nat}

/-! ## Escapes -/

/-- How many backslashes stand at the end of a text. -/
def endSlashes (text : List Char) : Nat := (text.reverse.takeWhile (· == '\\')).length

/-- A character is escaped if an odd number of backslashes stands right before it. -/
def IsEscaped (text : List Char) (n : Nat) : Prop := endSlashes (text.take n) % 2 = 1

instance (text : List Char) (n : Nat) : Decidable (IsEscaped text n) :=
  inferInstanceAs (Decidable (_ = _))

theorem endSlashes_cons (hc : c ≠ '\\') (text : List Char) :
    endSlashes (c :: text) = endSlashes text := by
  unfold endSlashes
  rw [List.reverse_cons, List.takeWhile_append]
  split
  · rename_i hall
    rw [List.takeWhile_cons_of_neg (by simpa using hc), List.append_nil, hall]
  · rfl

/-- Two characters of which the first is a backslash add none or two backslashes. -/
theorem endSlashes_pair (c : Char) (text : List Char) :
    endSlashes ('\\' :: c :: text) % 2 = endSlashes text % 2 := by
  by_cases hc : c = '\\'
  · subst hc
    unfold endSlashes
    rw [List.reverse_cons, List.reverse_cons, List.append_assoc, List.takeWhile_append]
    split
    · rename_i hall
      simp [hall]
    · rfl
  · -- the second character keeps the backslash before it apart
    have hfirst : endSlashes ('\\' :: c :: text) = endSlashes (c :: text) := by
      unfold endSlashes
      rw [List.reverse_cons, List.reverse_cons, List.takeWhile_append, if_neg]
      intro hall
      have hmem : c ∈ (text.reverse ++ [c]).takeWhile (· == '\\') := by
        rw [(List.takeWhile_prefix _).eq_of_length hall]
        simp
      exact hc (by simpa using List.mem_takeWhile_imp hmem)
    rw [hfirst, endSlashes_cons hc]

theorem not_isEscaped_zero (text : List Char) : ¬ IsEscaped text 0 := by
  simp [IsEscaped, endSlashes]

theorem isEscaped_cons (hc : c ≠ '\\') : IsEscaped (c :: rest) (n + 1) ↔ IsEscaped rest n := by
  unfold IsEscaped
  rw [List.take_succ_cons, endSlashes_cons hc]

theorem isEscaped_pair_one (c : Char) (rest : List Char) : IsEscaped ('\\' :: c :: rest) 1 := by
  simp [IsEscaped, endSlashes]

theorem isEscaped_pair : IsEscaped ('\\' :: c :: rest) (n + 2) ↔ IsEscaped rest n := by
  unfold IsEscaped
  rw [List.take_succ_cons, List.take_succ_cons, endSlashes_pair]

/-! ## Literals -/

/-- A quote behind another one closes it: it is not escaped, and each line end before it is. -/
structure Closes (quote : Char) (text : List Char) (n : Nat) : Prop where
  get : text[n]? = some quote
  unescaped : ¬ IsEscaped text n
  line_ends : ∀ m < n, text[m]? = some '\n' → IsEscaped text m

theorem closes_cons (hslash : c ≠ '\\') (hline : c ≠ '\n') :
    Closes quote (c :: rest) (n + 1) ↔ Closes quote rest n := by
  constructor
  · intro h
    exact ⟨h.get, (isEscaped_cons hslash).not.1 h.unescaped, fun m hm hget =>
      (isEscaped_cons hslash).1 (h.line_ends (m + 1) (by omega) hget)⟩
  · intro h
    refine ⟨h.get, (isEscaped_cons hslash).not.2 h.unescaped, fun m hm hget => ?_⟩
    match m with
    | 0 => exact absurd (Option.some.inj hget) hline
    | m + 1 => exact (isEscaped_cons hslash).2 (h.line_ends m (by omega) hget)

theorem closes_pair : Closes quote ('\\' :: c :: rest) (n + 2) ↔ Closes quote rest n := by
  constructor
  · intro h
    exact ⟨h.get, isEscaped_pair.not.1 h.unescaped, fun m hm hget =>
      isEscaped_pair.1 (h.line_ends (m + 2) (by omega) hget)⟩
  · intro h
    refine ⟨h.get, isEscaped_pair.not.2 h.unescaped, fun m hm hget => ?_⟩
    match m with
    | 0 => exact absurd (Option.some.inj hget) (by decide)
    | 1 => exact isEscaped_pair_one c rest
    | m + 2 => exact isEscaped_pair.2 (h.line_ends m (by omega) hget)

/-- What stands between two quotes is closed by the second one. -/
theorem Inside.closes (h : Inside quote inside) (after : List Char) :
    Closes quote (inside ++ quote :: after) inside.length := by
  induction h with
  | nil => exact ⟨rfl, not_isEscaped_zero _, fun m hm => absurd hm (Nat.not_lt_zero m)⟩
  | escaped c _ ih => exact closes_pair.2 ih
  | plain _ hline hslash _ ih => exact (closes_cons hslash hline).2 ih

/-- A literal is read exactly if something closes it. -/
theorem literalEnd_eq_none_iff (hquote : quote ≠ '\\') :
    literalEnd quote text = none ↔ ∀ n, ¬ Closes quote text n := by
  constructor
  · intro h n hn
    fun_induction literalEnd quote text generalizing n with
    | case1 => cases hn.get
    | case2 =>
      cases n with
      | zero => exact hquote (Option.some.inj hn.get).symm
      | succ n => cases hn.get
    | case3 c rest ih =>
      cases n with
      | zero => exact hquote (Option.some.inj hn.get).symm
      | succ n =>
        cases n with
        | zero => exact hn.unescaped (isEscaped_pair_one c rest)
        | succ n => exact ih (Option.map_eq_none_iff.1 h) n (closes_pair.1 hn)
    | case4 => cases h
    | case5 rest hend hpair hother =>
      cases n with
      | zero => exact hother (Option.some.inj hn.get)
      | succ n => exact not_isEscaped_zero _ (hn.line_ends 0 (by omega) rfl)
    | case6 c rest hend hpair hother hline ih =>
      cases n with
      | zero => exact hother (Option.some.inj hn.get)
      | succ n =>
        have hslash := ne_backslash hend hpair
        exact ih (Option.map_eq_none_iff.1 h) n ((closes_cons hslash hline).1 hn)
  · intro h
    rw [Option.eq_none_iff_forall_ne_some]
    rintro ⟨inside, after⟩ hsome
    refine h inside.length ?_
    rw [← literalEnd_eq hsome]
    exact (inside_of_literalEnd hsome).closes after

/-- A text without a line end, and without a quote of a kind, that is not escaped. -/
def AllEscaped (quote : Char) (inside : List Char) : Prop :=
  ∀ n, inside[n]? = some '\n' ∨ inside[n]? = some quote → IsEscaped inside n

theorem allEscaped_cons (hslash : c ≠ '\\') :
    AllEscaped quote (c :: rest) ↔ c ≠ quote ∧ c ≠ '\n' ∧ AllEscaped quote rest := by
  constructor
  · intro h
    refine ⟨?_, ?_, fun n hn => (isEscaped_cons hslash).1 (h (n + 1) hn)⟩
    · rintro rfl
      exact not_isEscaped_zero _ (h 0 (Or.inr rfl))
    · rintro rfl
      exact not_isEscaped_zero _ (h 0 (Or.inl rfl))
  · rintro ⟨hquote, hline, h⟩ n hn
    match n with
    | 0 =>
      rcases hn with hn | hn
      · exact absurd (Option.some.inj hn) hline
      · exact absurd (Option.some.inj hn) hquote
    | n + 1 => exact (isEscaped_cons hslash).2 (h n hn)

theorem allEscaped_pair (hquote : quote ≠ '\\') :
    AllEscaped quote ('\\' :: c :: rest) ↔ AllEscaped quote rest := by
  constructor
  · exact fun h n hn => isEscaped_pair.1 (h (n + 2) hn)
  · intro h n hn
    match n with
    | 0 =>
      rcases hn with hn | hn
      · exact absurd (Option.some.inj hn) (by decide)
      · exact absurd (Option.some.inj hn).symm hquote
    | 1 => exact isEscaped_pair_one c rest
    | n + 2 => exact isEscaped_pair.2 (h n hn)

/-- What may stand between two quotes, said by places: line ends and quotes of the kind are escaped,
and the closing quote is not. -/
theorem inside_iff (hquote : quote ≠ '\\') :
    Inside quote inside ↔ AllEscaped quote inside ∧ ¬ IsEscaped inside inside.length := by
  constructor
  · intro h
    induction h with
    | nil => exact ⟨fun n hn => by simp at hn, not_isEscaped_zero _⟩
    | escaped c _ ih => exact ⟨(allEscaped_pair hquote).2 ih.1, isEscaped_pair.not.2 ih.2⟩
    | plain hother hline hslash _ ih =>
      exact ⟨(allEscaped_cons hslash).2 ⟨hother, hline, ih.1⟩, (isEscaped_cons hslash).not.2 ih.2⟩
  · rintro ⟨hall, hend⟩
    fun_induction literalEnd quote inside with
    | case1 => exact .nil
    | case2 => exact absurd (by decide) hend
    | case3 c rest ih =>
      exact .escaped c (ih ((allEscaped_pair hquote).1 hall) (isEscaped_pair.not.1 hend))
    | case4 rest hlast hpair =>
      exact absurd rfl ((allEscaped_cons (ne_backslash hlast hpair)).1 hall).1
    | case5 rest hlast hpair hother =>
      exact absurd rfl ((allEscaped_cons (ne_backslash hlast hpair)).1 hall).2.1
    | case6 c rest hlast hpair hother hline ih =>
      have hslash := ne_backslash hlast hpair
      exact .plain hother hline hslash
        (ih ((allEscaped_cons hslash).1 hall).2.2 ((isEscaped_cons hslash).not.1 hend))

/-! ## Lexemes -/

/-- What a lexeme is, given the text behind it. -/
def Lexeme.IsCut (after : List Char) : Lexeme → Prop
  | .literal quote inside => (quote = '"' ∨ quote = '\'') ∧ AllEscaped quote inside ∧
    ¬ IsEscaped inside inside.length
  | .lineComment inside => '\n' ∉ inside ∧ ∀ c ∈ after.head?, c = '\n'
  | .blockComment inside closed => ¬ ['*', '/'] <:+: inside ∧ (closed = false → after = [])
  | .word chars => StartsNew after ∧
    ∃ c rest, chars = c :: rest ∧ isWordStart c = true ∧ ∀ d ∈ rest, isWordRest d = true
  | .symbol c => isBlank c = false ∧ isWordStart c = false ∧
    (c = '"' ∨ c = '\'' → ∀ n, ¬ Closes c after n) ∧
    (c = '/' → ∀ d ∈ after.head?, d ≠ '/' ∧ d ≠ '*')
  | .blank c => isBlank c = true

theorem isCut_quote (hquote : quote = '"' ∨ quote = '\'') (rest : List Char) :
    (firstLexeme quote rest).1.IsCut (firstLexeme quote rest).2 := by
  have hslash := ne_backslash_of_quote hquote
  unfold firstLexeme
  rw [if_pos hquote]
  cases hend : literalEnd quote rest with
  | some literal => exact ⟨hquote, (inside_iff hslash).1 (inside_of_literalEnd hend)⟩
  | none =>
    have hopen := (literalEnd_eq_none_iff hslash).1 hend
    rcases hquote with rfl | rfl
    · exact ⟨by decide, by decide, fun _ => hopen, nofun⟩
    · exact ⟨by decide, by decide, fun _ => hopen, nofun⟩

theorem isCut_slash (rest : List Char) :
    (firstLexeme '/' rest).1.IsCut (firstLexeme '/' rest).2 := by
  unfold firstLexeme
  rw [if_neg (by decide), if_pos rfl]
  split
  · refine ⟨fun hline => ?_, fun c hc => ?_⟩
    · exact absurd (List.mem_takeWhile_imp hline) (by decide)
    · simpa using not_of_mem_head?_dropWhile hc
  · exact ⟨not_infix_of_blockEnd rfl, fun hclosed =>
      blockEnd_open (Prod.ext rfl (Prod.ext hclosed rfl))⟩
  · rename_i hline hblock
    refine ⟨by decide, by decide, nofun, fun _ c hc => ?_⟩
    obtain ⟨more, rfl⟩ := List.head?_eq_some_iff.1 hc
    constructor
    · rintro rfl
      exact hline more rfl
    · rintro rfl
      exact hblock more rfl

theorem isCut_plain (hquote : ¬ (c = '"' ∨ c = '\'')) (hslash : c ≠ '/') (rest : List Char) :
    (plainLexeme c rest).1.IsCut (plainLexeme c rest).2 := by
  unfold plainLexeme
  split
  · rename_i hstart
    exact ⟨fun d hd => not_of_mem_head?_dropWhile hd,
      c, _, rfl, hstart, fun d => List.mem_takeWhile_imp⟩
  · rename_i hstart
    split
    · rename_i hblank
      exact hblank
    · rename_i hblank
      exact ⟨Bool.eq_false_iff.2 hblank, Bool.eq_false_iff.2 hstart, fun h => absurd h hquote,
        fun h => absurd h hslash⟩

theorem firstLexeme_of_plain (hquote : ¬ (c = '"' ∨ c = '\'')) (hslash : c ≠ '/')
    (rest : List Char) : firstLexeme c rest = plainLexeme c rest := by
  unfold firstLexeme
  rw [if_neg hquote, if_neg hslash]

theorem isCut_firstLexeme (c : Char) (rest : List Char) :
    (firstLexeme c rest).1.IsCut (firstLexeme c rest).2 := by
  by_cases hquote : c = '"' ∨ c = '\''
  · exact isCut_quote hquote rest
  by_cases hslash : c = '/'
  · subst hslash
    exact isCut_slash rest
  · rw [firstLexeme_of_plain hquote hslash]
    exact isCut_plain hquote hslash rest

/-! ## What is cut off is read -/

theorem blockEnd_of_open (h : ¬ ['*', '/'] <:+: text) : blockEnd text = (text, false, []) := by
  induction text with
  | nil => rfl
  | cons c rest ih =>
    have hopen : ∀ after, c = '*' → rest = '/' :: after → False := by
      rintro after rfl rfl
      exact h ⟨[], after, rfl⟩
    rw [blockEnd.eq_3 c rest hopen, ih fun hin => h (hin.trans (List.suffix_cons c rest).isInfix)]

/-- A symbol is read where it can be nothing else. -/
theorem firstLexeme_of_symbol (h : (Lexeme.symbol c).IsCut after) :
    firstLexeme c after = (.symbol c, after) := by
  obtain ⟨hblank, hstart, hquoted, hslashed⟩ := h
  by_cases hquote : c = '"' ∨ c = '\''
  · unfold firstLexeme
    rw [if_pos hquote,
      (literalEnd_eq_none_iff (ne_backslash_of_quote hquote)).2 (hquoted hquote)]
  by_cases hslash : c = '/'
  · have hnext := hslashed hslash
    subst hslash
    unfold firstLexeme
    rw [if_neg (by decide), if_pos rfl]
    split
    · exact absurd rfl (hnext _ rfl).1
    · exact absurd rfl (hnext _ rfl).2
    · rfl
  · rw [firstLexeme_of_plain hquote hslash]
    unfold plainLexeme
    rw [if_neg (Bool.eq_false_iff.1 hstart), if_neg (Bool.eq_false_iff.1 hblank)]

/-- A lexeme that its place allows is the one that is read there. -/
theorem Lexeme.IsCut.exists_firstLexeme (h : lexeme.IsCut after) :
    ∃ c rest, lexeme.text ++ after = c :: rest ∧ firstLexeme c rest = (lexeme, after) := by
  cases lexeme with
  | literal quote inside =>
    obtain ⟨hquote, hinside⟩ := h
    refine ⟨quote, inside ++ quote :: after, by simp [Lexeme.text], ?_⟩
    exact firstLexeme_literal hquote ((inside_iff (ne_backslash_of_quote hquote)).2 hinside) after
  | lineComment inside => exact ⟨_, _, rfl, firstLexeme_lineComment h.1 h.2⟩
  | blockComment inside closed =>
    obtain ⟨hinside, hend⟩ := h
    cases closed with
    | true =>
      exact ⟨_, _, by simp [Lexeme.text], firstLexeme_blockComment hinside after⟩
    | false =>
      rw [hend rfl]
      refine ⟨'/', '*' :: inside, by simp [Lexeme.text], ?_⟩
      simp [firstLexeme, blockEnd_of_open hinside]
  | word chars =>
    obtain ⟨hnew, c, rest, rfl, hstart, hrest⟩ := h
    exact ⟨_, _, rfl, firstLexeme_word hstart hrest hnew⟩
  | symbol c => exact ⟨c, after, rfl, firstLexeme_of_symbol h⟩
  | blank c => exact ⟨c, after, rfl, firstLexeme_of_isBlank h after⟩

/-! ## The tiling -/

/-- Lexemes that are a text together, each of them not empty and what its place allows. -/
structure IsTiling (text : List Char) (lexemes : List Lexeme) : Prop where
  flatMap_text : lexemes.flatMap Lexeme.text = text
  text_ne_nil : ∀ lexeme ∈ lexemes, lexeme.text ≠ []
  isCut : ∀ before lexeme behind, lexemes = before ++ lexeme :: behind →
    lexeme.IsCut (behind.flatMap Lexeme.text)

theorem isTiling_nil : IsTiling [] [] where
  flatMap_text := rfl
  text_ne_nil := fun _ h => absurd h List.not_mem_nil
  isCut := fun _ _ _ h => absurd h (by simp)

/-- A tiling starts with what its first place allows, and what is behind that is a tiling too. -/
theorem isTiling_cons {lexemes : List Lexeme} :
    IsTiling text (lexeme :: lexemes) ↔ ∃ after, text = lexeme.text ++ after ∧ lexeme.text ≠ [] ∧
      lexeme.IsCut after ∧ IsTiling after lexemes := by
  constructor
  · intro h
    refine ⟨lexemes.flatMap Lexeme.text, h.flatMap_text.symm,
      h.text_ne_nil lexeme List.mem_cons_self, h.isCut [] lexeme lexemes rfl, rfl,
      fun other ho => ?_, fun before other behind heq => ?_⟩
    · exact h.text_ne_nil other (List.mem_cons_of_mem lexeme ho)
    · exact h.isCut (lexeme :: before) other behind (congrArg (lexeme :: ·) heq)
  · rintro ⟨after, rfl, hne, hcut, h⟩
    refine ⟨by rw [List.flatMap_cons, h.flatMap_text], ?_, fun before other behind heq => ?_⟩
    · rintro other ho
      rcases List.mem_cons.1 ho with rfl | ho
      · exact hne
      · exact h.text_ne_nil other ho
    · cases before with
      | nil =>
        obtain ⟨rfl, rfl⟩ := List.cons.inj heq
        rwa [h.flatMap_text]
      | cons first before => exact h.isCut before other behind (List.cons.inj heq).2

theorem isTiling_ofText (text : List Char) : IsTiling text (Lexeme.ofText text) := by
  fun_induction Lexeme.ofText text with
  | case1 => exact isTiling_nil
  | case2 c rest ih =>
    exact isTiling_cons.2 ⟨_, (firstLexeme_text c rest).symm, firstLexeme_text_ne_nil c rest,
      isCut_firstLexeme c rest, ih⟩

theorem IsTiling.eq_ofText {lexemes : List Lexeme} (h : IsTiling text lexemes) :
    lexemes = Lexeme.ofText text := by
  induction lexemes generalizing text with
  | nil =>
    rw [← h.flatMap_text, List.flatMap_nil, Lexeme.ofText]
  | cons lexeme lexemes ih =>
    obtain ⟨after, rfl, _, hcut, hrest⟩ := isTiling_cons.1 h
    obtain ⟨c, rest, htext, hfirst⟩ := hcut.exists_firstLexeme
    rw [htext, Lexeme.ofText_cons hfirst, ih hrest]

/-- The lexemes of a text tile it, whatever it is, and they are its only tiling. -/
theorem the_lexemes_of_a_text_are_its_tiling (text : List Char) :
    IsTiling text (Lexeme.ofText text) ∧
      ∀ lexemes, IsTiling text lexemes → lexemes = Lexeme.ofText text :=
  ⟨isTiling_ofText text, fun _ h => h.eq_ofText⟩

/-- A quote behind a literal that an escaped line end does not close, another one at the end of the
text, and a block comment that never ends. -/
theorem open_quotes_and_an_open_comment_are_tiled :
    IsTiling "\"x'\\\"\"'a\\\n\" /*/".toList
        [.literal '"' "x'\\\"".toList, .symbol '\'', .word "a".toList, .symbol '\\', .blank '\n',
          .symbol '"', .blank ' ', .blockComment "/".toList false] ∧
      [.literal '"' "x'\\\"".toList, .symbol '\'', .word "a".toList, .symbol '\\', .blank '\n',
          .symbol '"', .blank ' ', .blockComment "/".toList false] =
        Lexeme.ofText "\"x'\\\"\"'a\\\n\" /*/".toList := by
  have hread : Lexeme.ofText "\"x'\\\"\"'a\\\n\" /*/".toList =
      [.literal '"' "x'\\\"".toList, .symbol '\'', .word "a".toList, .symbol '\\', .blank '\n',
        .symbol '"', .blank ' ', .blockComment "/".toList false] := by decide +kernel
  have h := hread ▸ isTiling_ofText "\"x'\\\"\"'a\\\n\" /*/".toList
  exact ⟨h, (the_lexemes_of_a_text_are_its_tiling _).2 _ h⟩

end ProtoRefresh.Proto
