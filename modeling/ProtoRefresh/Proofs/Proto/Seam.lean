-- Texts that are put together where a statement ends. A quote that is not
-- closed in the first text stops at the line end there, and no comment is
-- open any more. So the first text is read as it is by itself, and the
-- second one as if nothing stood before it.
import ProtoRefresh.Proofs.Proto.Layout

namespace ProtoRefresh.Proto

open Text

variable {text rest inside after : List Char} {token last : Lexeme}

/-! ## Literals with more text behind them -/

/-- A character that opens no escape, as the reader of literals tells it. -/
theorem ne_backslash {c : Char} (hend : c = '\\' → rest = [] → False)
    (hpair : ∀ d more, c = '\\' → rest = d :: more → False) : c ≠ '\\' := by
  intro hc
  cases rest with
  | nil => exact hend hc rfl
  | cons d more => exact hpair d more hc rfl

/-- A literal that is closed ends where it ends, whatever follows. -/
theorem literalEnd_append {quote : Char} (h : literalEnd quote text = some (inside, after))
    (more : List Char) : literalEnd quote (text ++ more) = some (inside, after ++ more) := by
  fun_induction literalEnd quote text generalizing inside after with
  | case1 => cases h
  | case2 => cases h
  | case3 c rest ih =>
    obtain ⟨⟨i, a⟩, hi, he⟩ := Option.map_eq_some_iff.1 h
    cases he
    rw [List.cons_append, List.cons_append, literalEnd, ih hi]
    rfl
  | case4 rest hend hpair =>
    cases h
    rw [List.cons_append, literalEnd_cons (ne_backslash hend hpair), if_pos rfl]
  | case5 => cases h
  | case6 c rest hend hpair hquote hline ih =>
    obtain ⟨⟨i, a⟩, hi, he⟩ := Option.map_eq_some_iff.1 h
    cases he
    rw [List.cons_append, literalEnd_cons (ne_backslash hend hpair), if_neg hquote, if_neg hline,
      ih hi]
    rfl

/-- A text that ends with a line end which no backslash takes along. -/
def EndsLine (text : List Char) : Prop :=
  text.getLast? = some '\n' ∧ text.dropLast.getLast? ≠ some '\\'

theorem EndsLine.ne_nil (h : EndsLine text) : text ≠ [] := by
  rintro rfl
  cases h.1

/-- What is left of such a text, if anything is. -/
theorem EndsLine.of_append (before : List Char) (h : EndsLine (before ++ rest)) (hne : rest ≠ []) :
    EndsLine rest := by
  obtain ⟨hend, hslash⟩ := h
  rw [List.getLast?_append_of_ne_nil _ hne] at hend
  rw [List.dropLast_append_of_ne_nil hne, List.getLast?_append] at hslash
  refine ⟨hend, fun hlast => hslash ?_⟩
  rw [hlast, Option.some_or]

/-- A quote that is not closed in such a text is not closed by what follows it either. -/
theorem literalEnd_append_none {quote : Char} (h : literalEnd quote text = none)
    (hline : EndsLine text) (more : List Char) : literalEnd quote (text ++ more) = none := by
  fun_induction literalEnd quote text with
  | case1 => exact absurd rfl hline.ne_nil
  | case2 => cases hline.1
  | case3 c rest ih =>
    have hne : rest ≠ [] := by
      rintro rfl
      exact hline.2 rfl
    rw [List.cons_append, List.cons_append, literalEnd,
      ih (Option.map_eq_none_iff.1 h) (EndsLine.of_append ['\\', c] hline hne)]
    rfl
  | case4 => cases h
  | case5 rest hend hpair hquote =>
    rw [List.cons_append, literalEnd_cons (ne_backslash hend hpair), if_neg hquote, if_pos rfl]
  | case6 c rest hend hpair hquote hother ih =>
    have hne : rest ≠ [] := by
      rintro rfl
      exact hother (Option.some.inj hline.1)
    rw [List.cons_append, literalEnd_cons (ne_backslash hend hpair), if_neg hquote, if_neg hother,
      ih (Option.map_eq_none_iff.1 h) (EndsLine.of_append [c] hline hne)]
    rfl

/-! ## Block comments with more text behind them -/

theorem blockEnd_append (h : blockEnd text = (inside, true, after)) (more : List Char) :
    blockEnd (text ++ more) = (inside, true, after ++ more) := by
  fun_induction blockEnd text generalizing inside after with
  | case1 => cases h
  | case2 rest =>
    cases h
    rfl
  | case3 c rest hopen i closed a hrest ih =>
    cases h
    have hmore : ∀ other, c = '*' → rest ++ more = '/' :: other → False := by
      intro other hc hother
      cases rest with
      | nil => cases hrest
      | cons d rest => exact hopen rest hc (congrArg (· :: rest) (List.cons.inj hother).1)
    rw [List.cons_append, blockEnd.eq_3 _ _ hmore, ih hrest]

theorem blockEnd_open (h : blockEnd text = (inside, false, after)) : after = [] := by
  fun_induction blockEnd text generalizing inside after with
  | case1 =>
    cases h
    rfl
  | case2 => cases h
  | case3 c rest _ i closed a hrest ih =>
    cases h
    exact ih hrest

/-! ## Lexemes with more text behind them -/

/-- A run of characters that ends within a text ends there whatever follows. -/
theorem takeWhile_append_of_dropWhile {keep : Char → Bool} (h : text.dropWhile keep ≠ [])
    (more : List Char) : (text ++ more).takeWhile keep = text.takeWhile keep ∧
      (text ++ more).dropWhile keep = text.dropWhile keep ++ more := by
  have hshort : (text.takeWhile keep).length ≠ text.length := by
    intro hall
    have hlength := congrArg List.length (List.takeWhile_append_dropWhile (p := keep) (l := text))
    rw [List.length_append, hall] at hlength
    exact h (List.length_eq_zero_iff.1 (by omega))
  rw [List.takeWhile_append, List.dropWhile_append, if_neg hshort, if_neg (by simpa using h)]
  exact ⟨rfl, rfl⟩

theorem plainLexeme_append {c : Char} (h : plainLexeme c rest = (token, after))
    (hne : after ≠ []) (more : List Char) :
    plainLexeme c (rest ++ more) = (token, after ++ more) := by
  unfold plainLexeme at h ⊢
  by_cases hword : isWordStart c = true
  · rw [if_pos hword] at h ⊢
    cases h
    obtain ⟨htake, hdrop⟩ := takeWhile_append_of_dropWhile hne more
    rw [htake, hdrop]
  · rw [if_neg hword] at h ⊢
    by_cases hblank : isBlank c = true
    · rw [if_pos hblank] at h ⊢
      cases h
      rfl
    · rw [if_neg hblank] at h ⊢
      cases h
      rfl

/-- A lexeme is read as it is whatever follows a line end behind it. -/
theorem firstLexeme_append {c : Char} (h : firstLexeme c rest = (token, after))
    (hline : EndsLine after) (more : List Char) :
    firstLexeme c (rest ++ more) = (token, after ++ more) := by
  have hne := hline.ne_nil
  unfold firstLexeme at h ⊢
  by_cases hquote : c = '"' ∨ c = '\''
  · rw [if_pos hquote] at h ⊢
    cases hliteral : literalEnd c rest with
    | some literal =>
      rw [hliteral] at h
      cases h
      rw [literalEnd_append hliteral]
    | none =>
      rw [hliteral] at h
      cases h
      rw [literalEnd_append_none hliteral hline]
  · rw [if_neg hquote] at h ⊢
    by_cases hslash : c = '/'
    · rw [if_pos hslash] at h ⊢
      split at h
      · rename_i rest
        cases h
        obtain ⟨htake, hdrop⟩ := takeWhile_append_of_dropWhile hne more
        simp only [List.cons_append, htake, hdrop]
      · rename_i rest
        cases hblock : blockEnd rest with
        | mk inside ended =>
          obtain ⟨closed, behind⟩ := ended
          rw [hblock] at h
          cases h
          cases closed with
          | true => simp only [List.cons_append, blockEnd_append hblock]
          | false => exact absurd (blockEnd_open hblock) hne
      · rename_i hnoline hnoblock
        cases h
        obtain ⟨d, behind, rfl⟩ := List.exists_cons_of_ne_nil hne
        split
        · rename_i heq
          exact absurd (congrArg (· :: behind) (List.cons.inj heq).1) (hnoline behind)
        · rename_i heq
          exact absurd (congrArg (· :: behind) (List.cons.inj heq).1) (hnoblock behind)
        · rfl
    · rw [if_neg hslash] at h ⊢
      exact plainLexeme_append h hne more

/-- A text that ends with a line end, which belongs to no comment and no literal, is read as it is
whatever follows it. -/
theorem Lexeme.ofText_append (lexemes : List Lexeme) :
    ∀ {text : List Char}, Lexeme.ofText text = lexemes ++ [.blank '\n'] → EndsLine text →
      ∀ more, Lexeme.ofText (text ++ more) = Lexeme.ofText text ++ Lexeme.ofText more := by
  induction lexemes with
  | nil =>
    intro text hread _ more
    obtain rfl : text = ['\n'] := by rw [← Lexeme.flatMap_text_ofText text, hread]; rfl
    rw [hread, List.cons_append, List.nil_append, Lexeme.ofText]
    rfl
  | cons token lexemes ih =>
    intro text hread hline more
    cases text with
    | nil => rw [Lexeme.ofText] at hread; cases hread
    | cons c rest =>
      have htext := firstLexeme_text c rest
      cases hfirst : firstLexeme c rest with
      | mk first after =>
        rw [Lexeme.ofText, List.cons_append, hfirst] at hread
        rw [hfirst] at htext
        have hbehind : Lexeme.ofText after = lexemes ++ [.blank '\n'] := (List.cons.inj hread).2
        have hafter : EndsLine after := by
          rw [← htext] at hline
          refine hline.of_append first.text ?_
          rintro rfl
          rw [Lexeme.ofText] at hbehind
          exact List.append_ne_nil_of_right_ne_nil _ (List.cons_ne_nil _ _) hbehind.symm
        rw [List.cons_append, Lexeme.ofText, Lexeme.ofText, firstLexeme_append hfirst hafter more,
          hfirst, ih hbehind hafter more, List.cons_append]

/-! ## Tokens in front of more tokens -/

/-- Only two tokens tell whether a path is named. -/
theorem namedPath?_cons_cons (token next : Lexeme) (rest behind : List Lexeme) :
    namedPath? (token :: next :: rest) = namedPath? (token :: next :: behind) := by
  unfold namedPath?
  split
  · rename_i heq
    cases heq
    rfl
  · rename_i hnot
    split
    · rename_i heq
      cases heq
      exact absurd rfl (hnot _ _ _)
    · rfl

/-- Whether a path is named is settled where the statement ends. -/
theorem namedPath?_append (all : List Lexeme) (hlast : last.endsStatement = true)
    (more : List Lexeme) : namedPath? (all ++ last :: more) = namedPath? (all ++ [last]) := by
  match all with
  | [] =>
    rcases Lexeme.endsStatement_iff.1 hlast with rfl | rfl
    · rfl
    · rfl
  | [token] =>
    rcases Lexeme.endsStatement_iff.1 hlast with rfl | rfl
    · cases token with
      | literal quote path => rfl
      | _ => rfl
    · cases token with
      | literal quote path => rfl
      | _ => rfl
  | token :: next :: rest => exact namedPath?_cons_cons token next _ _

theorem importedPath?_append (all : List Lexeme) (hlast : last.endsStatement = true)
    (more : List Lexeme) : importedPath? (all ++ last :: more) = importedPath? (all ++ [last]) := by
  cases all with
  | nil =>
    rcases Lexeme.endsStatement_iff.1 hlast with rfl | rfl
    · rfl
    · rfl
  | cons token rest =>
    rw [List.cons_append, List.cons_append, importedPath?, importedPath?]
    by_cases hmodifier : token = .word "public".toList ∨ token = .word "weak".toList
    · rw [if_pos hmodifier, if_pos hmodifier, namedPath?_append rest hlast]
    · rw [if_neg hmodifier, if_neg hmodifier]
      exact namedPath?_append (token :: rest) hlast more

/-- The paths of tokens add up where a statement ends. -/
theorem pathsOfTokens_append (all : List Lexeme) (hlast : last.endsStatement = true)
    (more : List Lexeme) (fresh : Bool) :
    pathsOfTokens fresh (all ++ last :: more) =
      pathsOfTokens fresh (all ++ [last]) ++ pathsOfTokens true more := by
  induction all generalizing fresh with
  | nil =>
    rw [List.nil_append, List.nil_append, pathsOfTokens_last hlast, pathsOfTokens_last hlast]
    rfl
  | cons token rest ih =>
    rw [List.cons_append, List.cons_append, pathsOfTokens, pathsOfTokens,
      importedPath?_append rest hlast, ih]
    split
    · rw [List.append_assoc]
    · rfl

/-! ## Imports -/

/-- A text whose last token ends a statement, with one line end behind it. -/
def EndsStatement (text : List Char) : Prop :=
  ∃ lexemes last, last.endsStatement = true ∧
    Lexeme.ofText text = lexemes ++ [last, .blank '\n']

theorem EndsStatement.endsLine (h : EndsStatement text) : EndsLine text := by
  obtain ⟨lexemes, last, hlast, hread⟩ := h
  have htext := Lexeme.flatMap_text_ofText text
  rw [hread, List.flatMap_append] at htext
  rw [← htext]
  rcases Lexeme.endsStatement_iff.1 hlast with rfl | rfl
  · simp [EndsLine, Lexeme.text]
  · simp [EndsLine, Lexeme.text]

/-- The imports of a text that ends with a statement and of any text behind it are those of the two
texts by themselves. -/
theorem imports_add_up_behind_a_statement {before : String} (h : EndsStatement before.toList)
    (after : String) : imports (before ++ after) = imports before ++ imports after := by
  have hline := h.endsLine
  obtain ⟨lexemes, last, hlast, hread⟩ := h
  have hkeep : [last, .blank '\n'].filter Lexeme.isToken = [last] := by
    rcases Lexeme.endsStatement_iff.1 hlast with rfl | rfl
    · rfl
    · rfl
  have htokens : tokens before.toList = lexemes.filter Lexeme.isToken ++ [last] := by
    rw [tokens, hread, List.filter_append, hkeep]
  have hsplit := Lexeme.ofText_append (lexemes ++ [last]) (by simpa using hread) hline after.toList
  have hall : tokens (before ++ after).toList =
      lexemes.filter Lexeme.isToken ++ last :: tokens after.toList := by
    unfold tokens at htokens ⊢
    rw [String.toList_append, hsplit, List.filter_append, htokens, List.append_assoc]
    rfl
  unfold imports importedPaths
  rw [hall, htokens, pathsOfTokens_append _ hlast, List.map_append]

/-- An import with two quotes behind it that are not closed. -/
def openQuotes : String := "import \"a.proto\"; option o = ' \";\n"

theorem open_quotes_end_with_their_line : EndsStatement openQuotes.toList ∧
    imports openQuotes = ["a.proto"] ∧
    imports (openQuotes ++ "import 'b.proto'; // \"") = ["a.proto", "b.proto"] := by
  have hends : EndsStatement openQuotes.toList :=
    ⟨(Lexeme.ofText openQuotes.toList).dropLast.dropLast, .symbol ';', by decide, by decide +kernel⟩
  have himports : imports openQuotes = ["a.proto"] := by decide +kernel
  have hmore : imports "import 'b.proto'; // \"" = ["b.proto"] := by decide +kernel
  refine ⟨hends, himports, ?_⟩
  rw [imports_add_up_behind_a_statement hends, himports, hmore]
  rfl

end ProtoRefresh.Proto
