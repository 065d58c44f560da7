-- Comments count as blanks. Where one of them gives way to a blank and a
-- line end, no lexeme before it reads on: a word ends at either, and a
-- quote that is not closed stops at the line end at the latest. So all
-- other lexemes stay, and with them the imports.
import Mathlib.Data.List.TakeWhile
import Mathlib.Logic.Relation
import ProtoRefresh.Proofs.Proto.Seam

namespace ProtoRefresh.Proto

open Text

variable {text rest inside after tail more : List Char} {token comment : Lexeme}

/-! ## Comments -/

def Lexeme.isComment : Lexeme → Bool
  | .lineComment _ => true
  | .blockComment _ _ => true
  | _ => false

theorem Lexeme.text_of_isComment (h : comment.isComment = true) :
    ∃ tail, comment.text = '/' :: tail := by
  cases comment with
  | lineComment inside => exact ⟨_, rfl⟩
  | blockComment inside closed => exact ⟨_, rfl⟩
  | _ => cases h

/-- One comment of a text gives way to a blank and a line end. -/
inductive BlanksComment : List Char → List Char → Prop
  | intro {text : List Char} {before after : List Lexeme} {comment : Lexeme}
      (h : Lexeme.ofText text = before ++ comment :: after) (hcomment : comment.isComment = true) :
      BlanksComment text
        (before.flatMap Lexeme.text ++ ' ' :: '\n' :: after.flatMap Lexeme.text)

/-- A lexeme, or a blank and a line end for a comment. -/
def Lexeme.uncommented (lexeme : Lexeme) : List Lexeme :=
  if lexeme.isComment then [.blank ' ', .blank '\n'] else [lexeme]

/-- A text with a blank and a line end for each of its comments. -/
def withoutComments (source : String) : String :=
  String.ofList (((Lexeme.ofText source.toList).flatMap Lexeme.uncommented).flatMap Lexeme.text)

/-! ## Lexemes before a comment -/

/-- What is read as a literal has no quote of its kind inside that no backslash takes along. -/
theorem inside_of_literalEnd {quote : Char} (h : literalEnd quote text = some (inside, after)) :
    Inside quote inside := by
  fun_induction literalEnd quote text generalizing inside after with
  | case1 => cases h
  | case2 => cases h
  | case3 c rest ih =>
    obtain ⟨⟨i, a⟩, hi, he⟩ := Option.map_eq_some_iff.1 h
    cases he
    exact .escaped c (ih hi)
  | case4 => cases h; exact .nil
  | case5 => cases h
  | case6 c rest hend hpair hquote hline ih =>
    obtain ⟨⟨i, a⟩, hi, he⟩ := Option.map_eq_some_iff.1 h
    cases he
    exact .plain hquote hline (ne_backslash hend hpair) (ih hi)

/-- A quote that is not closed before a place is not closed behind it either, once a blank and a
line end follow there. -/
theorem literalEnd_blank_none {quote : Char} (hquote : quote = '"' ∨ quote = '\'')
    (h : literalEnd quote (text ++ tail) = none) (more : List Char) :
    literalEnd quote (text ++ ' ' :: '\n' :: more) = none := by
  obtain ⟨hblank, hend⟩ : ' ' ≠ quote ∧ '\n' ≠ quote := by
    rcases hquote with rfl | rfl
    · decide
    · decide
  have hline : literalEnd quote ('\n' :: more) = none := by
    rw [literalEnd_cons (by decide), if_neg hend, if_pos rfl]
  fun_induction literalEnd quote text with
  | case1 =>
    rw [List.nil_append, literalEnd_cons (by decide), if_neg hblank, if_neg (by decide), hline]
    rfl
  | case2 =>
    rw [List.cons_append, List.nil_append, literalEnd, hline]
    rfl
  | case3 c rest ih =>
    rw [List.cons_append, List.cons_append, literalEnd] at h
    rw [List.cons_append, List.cons_append, literalEnd, ih (Option.map_eq_none_iff.1 h)]
    rfl
  | case4 rest hlast hpair =>
    rw [List.cons_append, literalEnd_cons (ne_backslash hlast hpair), if_pos rfl] at h
    cases h
  | case5 rest hlast hpair hother =>
    rw [List.cons_append, literalEnd_cons (ne_backslash hlast hpair), if_neg hother, if_pos rfl]
  | case6 c rest hlast hpair hother hrest ih =>
    have hslash := ne_backslash hlast hpair
    rw [List.cons_append, literalEnd_cons hslash, if_neg hother, if_neg hrest] at h
    rw [List.cons_append, literalEnd_cons hslash, if_neg hother, if_neg hrest,
      ih (Option.map_eq_none_iff.1 h)]
    rfl

/-- What is read as a block comment has no end of a comment inside. -/
theorem not_infix_of_blockEnd {closed : Bool} (h : blockEnd text = (inside, closed, after)) :
    ¬ ['*', '/'] <:+: inside := by
  fun_induction blockEnd text generalizing inside closed after with
  | case1 =>
    cases h
    simp
  | case2 rest =>
    cases h
    simp
  | case3 c rest hopen i closed a hrest ih =>
    cases h
    have htext := blockEnd_eq rest
    rw [hrest] at htext
    rw [List.infix_cons_iff]
    rintro (⟨behind, hstart⟩ | hinside)
    · obtain ⟨rfl, hslash⟩ := List.cons.inj hstart
      refine hopen (behind ++ (if closed = true then ['*', '/'] else []) ++ a) rfl ?_
      rw [← htext, ← hslash]
      simp
    · exact ih hrest hinside

/-- A run of characters stops where it stopped before a slash, if it stops at the blank as well as at
the slash. -/
theorem takeWhile_blank {keep : Char → Bool} (hkeep : keep '/' = false → keep ' ' = false)
    (h : (rest ++ '/' :: tail).dropWhile keep = after ++ '/' :: tail) (more : List Char) :
    (rest ++ ' ' :: more).takeWhile keep = (rest ++ '/' :: tail).takeWhile keep ∧
      (rest ++ ' ' :: more).dropWhile keep = after ++ ' ' :: more := by
  by_cases hall : rest.dropWhile keep = []
  · -- the whole run is kept, so it stops at the slash and nothing is before that
    have hrun := List.dropWhile_eq_nil_iff.1 hall
    rw [List.dropWhile_append_of_pos hrun] at h
    have hstop : keep '/' = false := by
      rw [← Bool.not_eq_true]
      intro hslash
      have hlength := congrArg List.length h
      have hle := (List.dropWhile_sublist keep (l := tail)).length_le
      rw [List.dropWhile_cons_of_pos hslash, List.length_append, List.length_cons] at hlength
      omega
    have hblank := hkeep hstop
    rw [List.dropWhile_cons_of_neg (by simp [hstop])] at h
    obtain rfl : after = [] := List.self_eq_append_left.1 h
    rw [List.takeWhile_append_of_pos hrun, List.takeWhile_append_of_pos hrun,
      List.dropWhile_append_of_pos hrun, List.takeWhile_cons_of_neg (by simp [hblank]),
      List.takeWhile_cons_of_neg (by simp [hstop]), List.dropWhile_cons_of_neg (by simp [hblank])]
    exact ⟨rfl, rfl⟩
  · obtain ⟨htake, hdrop⟩ := takeWhile_append_of_dropWhile hall ('/' :: tail)
    obtain ⟨htake', hdrop'⟩ := takeWhile_append_of_dropWhile hall (' ' :: more)
    rw [hdrop] at h
    rw [htake, htake', hdrop', List.append_cancel_right h]
    exact ⟨rfl, rfl⟩

theorem plainLexeme_blank {c : Char}
    (h : plainLexeme c (rest ++ '/' :: tail) = (token, after ++ '/' :: tail)) (more : List Char) :
    plainLexeme c (rest ++ ' ' :: more) = (token, after ++ ' ' :: more) := by
  unfold plainLexeme at h ⊢
  by_cases hword : isWordStart c = true
  · rw [if_pos hword] at h ⊢
    obtain ⟨htoken, hafter⟩ := Prod.mk.inj h
    obtain ⟨htake, hdrop⟩ := takeWhile_blank (fun _ => by decide) hafter more
    rw [htake, hdrop, htoken]
  · rw [if_neg hword] at h ⊢
    by_cases hblank : isBlank c = true
    · rw [if_pos hblank] at h ⊢
      obtain ⟨htoken, hafter⟩ := Prod.mk.inj h
      rw [htoken, List.append_cancel_right hafter]
    · rw [if_neg hblank] at h ⊢
      obtain ⟨htoken, hafter⟩ := Prod.mk.inj h
      rw [htoken, List.append_cancel_right hafter]

theorem blockEnd_blank {closed : Bool} (h : blockEnd (rest ++ tail) = (inside, closed, after ++ tail))
    (hne : tail ≠ []) (more : List Char) :
    blockEnd (rest ++ more) = (inside, closed, after ++ more) := by
  cases closed with
  | false => exact absurd (blockEnd_open h) (List.append_ne_nil_of_right_ne_nil after hne)
  | true =>
    have htext := blockEnd_eq (rest ++ tail)
    rw [h, ← List.append_assoc] at htext
    rw [← List.append_cancel_right htext]
    simpa using blockEnd_of_not_infix (not_infix_of_blockEnd h) (after ++ more)

/-- A lexeme that ends before a slash, which it is not part of, is read as it is where a blank and a
line end come in place of the slash and what follows it. -/
theorem firstLexeme_blank {c : Char}
    (h : firstLexeme c (rest ++ '/' :: tail) = (token, after ++ '/' :: tail)) (more : List Char) :
    firstLexeme c (rest ++ ' ' :: '\n' :: more) = (token, after ++ ' ' :: '\n' :: more) := by
  unfold firstLexeme at h ⊢
  by_cases hquote : c = '"' ∨ c = '\''
  · rw [if_pos hquote] at h ⊢
    cases hliteral : literalEnd c (rest ++ '/' :: tail) with
    | some literal =>
      rw [hliteral] at h
      obtain ⟨inside, behind⟩ := literal
      cases h
      have hrest : inside ++ c :: after = rest := by
        have htext := literalEnd_eq hliteral
        rw [← List.cons_append, ← List.append_assoc] at htext
        exact List.append_cancel_right htext
      rw [← hrest, List.append_assoc, List.cons_append,
        literalEnd_of_inside (ne_backslash_of_quote hquote) (inside_of_literalEnd hliteral)]
    | none =>
      rw [hliteral] at h
      obtain ⟨htoken, hafter⟩ := Prod.mk.inj h
      rw [literalEnd_blank_none hquote hliteral, htoken, List.append_cancel_right hafter]
  · rw [if_neg hquote] at h ⊢
    by_cases hslash : c = '/'
    · rw [if_pos hslash] at h ⊢
      cases rest with
      | nil =>
        obtain ⟨_, hafter⟩ := Prod.mk.inj h
        have hlength := congrArg List.length hafter
        have hle := (List.dropWhile_sublist (· != '\n') (l := tail)).length_le
        rw [List.length_append, List.length_cons] at hlength
        omega
      | cons d rest =>
        simp only [List.cons_append] at h ⊢
        split at h
        · rename_i heq
          obtain ⟨rfl, rfl⟩ := List.cons.inj heq
          obtain ⟨htoken, hafter⟩ := Prod.mk.inj h
          obtain ⟨htake, hdrop⟩ := takeWhile_blank (fun hno => absurd hno (by decide)) hafter
            ('\n' :: more)
          simp only [htake, hdrop, htoken]
        · rename_i heq
          obtain ⟨rfl, rfl⟩ := List.cons.inj heq
          cases hblock : blockEnd (rest ++ '/' :: tail) with
          | mk inside ended =>
            obtain ⟨closed, behind⟩ := ended
            rw [hblock] at h
            cases h
            simp only [blockEnd_blank hblock (List.cons_ne_nil _ _)]
        · rename_i hnoline hnoblock
          obtain ⟨htoken, hafter⟩ := Prod.mk.inj h
          rw [← List.cons_append] at hafter
          rw [← htoken, ← List.append_cancel_right hafter]
          split
          · rename_i heq
            exact absurd (congrArg (· :: (rest ++ '/' :: tail)) (List.cons.inj heq).1) (hnoline _)
          · rename_i heq
            exact absurd (congrArg (· :: (rest ++ '/' :: tail)) (List.cons.inj heq).1) (hnoblock _)
          · rfl
    · rw [if_neg hslash] at h ⊢
      exact plainLexeme_blank h ('\n' :: more)

/-! ## One comment -/

theorem Lexeme.ofText_cons {c : Char} (h : firstLexeme c rest = (token, after)) :
    Lexeme.ofText (c :: rest) = token :: Lexeme.ofText after := by
  rw [Lexeme.ofText, h]

theorem Lexeme.exists_of_ofText_cons {lexemes : List Lexeme}
    (h : Lexeme.ofText text = token :: lexemes) :
    ∃ c rest after, text = c :: rest ∧ firstLexeme c rest = (token, after) ∧
      Lexeme.ofText after = lexemes := by
  cases text with
  | nil =>
    rw [Lexeme.ofText] at h
    cases h
  | cons c rest =>
    rw [Lexeme.ofText] at h
    obtain ⟨hfirst, hrest⟩ := List.cons.inj h
    exact ⟨c, rest, _, rfl, Prod.ext hfirst rfl, hrest⟩

/-- Where a comment gives way, all other lexemes stay. -/
theorem Lexeme.ofText_blank {behind : List Lexeme} (hcomment : comment.isComment = true)
    (before : List Lexeme) :
    ∀ {text : List Char}, Lexeme.ofText text = before ++ comment :: behind →
      Lexeme.ofText (before.flatMap Lexeme.text ++ ' ' :: '\n' :: behind.flatMap Lexeme.text) =
        before ++ .blank ' ' :: .blank '\n' :: behind := by
  induction before with
  | nil =>
    intro text hread
    obtain ⟨c, rest, after, rfl, _, rfl⟩ := Lexeme.exists_of_ofText_cons hread
    have hblank : firstLexeme ' ' ('\n' :: after) = (.blank ' ', '\n' :: after) := rfl
    have hline : firstLexeme '\n' after = (.blank '\n', after) := rfl
    rw [Lexeme.flatMap_text_ofText, List.flatMap_nil, List.nil_append, List.nil_append,
      Lexeme.ofText_cons hblank, Lexeme.ofText_cons hline]
  | cons token before ih =>
    intro text hread
    obtain ⟨tail, hslash⟩ := Lexeme.text_of_isComment hcomment
    rw [List.cons_append] at hread
    obtain ⟨c, rest, after, rfl, hfirst, hafter⟩ := Lexeme.exists_of_ofText_cons hread
    have htext := firstLexeme_text c rest
    have hne := firstLexeme_text_ne_nil c rest
    rw [hfirst] at htext hne
    obtain ⟨d, inside, htoken⟩ := List.exists_cons_of_ne_nil hne
    rw [htoken, List.cons_append] at htext
    obtain ⟨hd, hrest⟩ := List.cons.inj htext
    -- the comment starts with a slash behind the first lexeme
    have hbehind : after =
        before.flatMap Lexeme.text ++ '/' :: (tail ++ behind.flatMap Lexeme.text) := by
      rw [← Lexeme.flatMap_text_ofText after, hafter, List.flatMap_append, List.flatMap_cons, hslash,
        List.cons_append]
    rw [← hrest, hbehind, ← List.append_assoc] at hfirst
    have hnext := firstLexeme_blank hfirst (behind.flatMap Lexeme.text)
    rw [List.flatMap_cons, htoken, hd, List.cons_append, List.cons_append, Lexeme.ofText_cons hnext,
      ih hafter, List.cons_append]

/-! ## All comments -/

/-- Comments of a text may give way one after the other, until none is left. -/
theorem blanks_comments (lexemes : List Lexeme) :
    ∀ (before : List Lexeme) {text : List Char}, Lexeme.ofText text = before ++ lexemes →
      ∃ other, Relation.ReflTransGen BlanksComment text other ∧
        Lexeme.ofText other = before ++ lexemes.flatMap Lexeme.uncommented := by
  induction lexemes with
  | nil => exact fun before text h => ⟨text, .refl, h⟩
  | cons lexeme lexemes ih =>
    intro before text h
    by_cases hcomment : lexeme.isComment = true
    · have hread := Lexeme.ofText_blank hcomment before h
      obtain ⟨other, hsteps, hother⟩ :=
        ih (before ++ [.blank ' ', .blank '\n']) (by simpa using hread)
      refine ⟨other, .head (.intro h hcomment) hsteps, ?_⟩
      rw [hother, List.flatMap_cons, Lexeme.uncommented, if_pos hcomment]
      simp
    · obtain ⟨other, hsteps, hother⟩ := ih (before ++ [lexeme]) (by simpa using h)
      refine ⟨other, hsteps, ?_⟩
      rw [hother, List.flatMap_cons, Lexeme.uncommented, if_neg hcomment]
      simp

/-! ## Imports -/

theorem BlanksComment.tokens_eq {other : List Char} (h : BlanksComment text other) :
    tokens other = tokens text := by
  obtain ⟨hread, hcomment⟩ := h
  rename_i before behind comment
  have hno : comment.isToken = false := by
    cases comment with
    | lineComment inside => rfl
    | blockComment inside closed => rfl
    | _ => cases hcomment
  unfold tokens
  rw [Lexeme.ofText_blank hcomment before hread, hread, List.filter_append, List.filter_append,
    List.filter_cons_of_neg (by decide), List.filter_cons_of_neg (by decide),
    List.filter_cons_of_neg (by simp [hno])]

theorem tokens_eq_of_blanks {other : List Char}
    (h : Relation.ReflTransGen BlanksComment text other) : tokens other = tokens text := by
  induction h with
  | refl => rfl
  | tail _ hstep ih => rw [hstep.tokens_eq, ih]

theorem imports_eq_of_tokens {source other : String}
    (h : tokens other.toList = tokens source.toList) : imports other = imports source := by
  unfold imports importedPaths
  rw [h]

theorem Lexeme.isComment_of_mem_uncommented {lexeme other : Lexeme}
    (h : other ∈ lexeme.uncommented) : other.isComment = false := by
  unfold Lexeme.uncommented at h
  split at h
  · rcases List.mem_cons.1 h with rfl | h
    · rfl
    · rw [List.mem_singleton.1 h]
      rfl
  · rename_i hno
    rw [List.mem_singleton.1 h]
    exact Bool.eq_false_iff.2 hno

/-- Each comment may give way to a blank and a line end, one after the other or all of them, and the
imports are the same. So texts that differ in their comments only have the same imports. -/
theorem comments_have_no_part_in_imports (source : String) :
    (∀ other : String, Relation.ReflTransGen BlanksComment source.toList other.toList →
      imports other = imports source) ∧
    Relation.ReflTransGen BlanksComment source.toList (withoutComments source).toList ∧
    (∀ lexeme ∈ Lexeme.ofText (withoutComments source).toList, lexeme.isComment = false) ∧
    ∀ other, withoutComments other = withoutComments source → imports other = imports source := by
  have hblanks : ∀ source : String,
      Relation.ReflTransGen BlanksComment source.toList (withoutComments source).toList ∧
      Lexeme.ofText (withoutComments source).toList =
        (Lexeme.ofText source.toList).flatMap Lexeme.uncommented := by
    intro source
    obtain ⟨text, hsteps, hread⟩ := blanks_comments (Lexeme.ofText source.toList) [] rfl
    have htext : (withoutComments source).toList = text := by
      rw [withoutComments, String.toList_ofList, ← Lexeme.flatMap_text_ofText text, hread,
        List.nil_append]
    rw [htext]
    exact ⟨hsteps, hread⟩
  have hsame : ∀ source, imports (withoutComments source) = imports source :=
    fun source => imports_eq_of_tokens (tokens_eq_of_blanks (hblanks source).1)
  refine ⟨fun other h => imports_eq_of_tokens (tokens_eq_of_blanks h), (hblanks source).1,
    fun lexeme hlexeme => ?_, fun other h => ?_⟩
  · rw [(hblanks source).2] at hlexeme
    obtain ⟨_, _, hlexeme⟩ := List.mem_flatMap.1 hlexeme
    exact Lexeme.isComment_of_mem_uncommented hlexeme
  · rw [← hsame other, h, hsame source]

/-- Comments with imports and quotes in them, the first one behind a quote and a backslash. -/
def commentedSource : String :=
  "option o = ' ;\\// \" import \"x.proto\";\n;import 'a.proto'/* \" */;/*/ import 'y.proto';"

theorem comments_behind_an_open_quote_are_blanked :
    withoutComments commentedSource = "option o = ' ;\\ \n\n;import 'a.proto' \n; \n" ∧
      imports "option o = ' ;\\ \n\n;import 'a.proto' \n; \n" = ["a.proto"] := by
  have hwithout :
      withoutComments commentedSource = "option o = ' ;\\ \n\n;import 'a.proto' \n; \n" := by
    decide +kernel
  have himports : imports commentedSource = ["a.proto"] := by decide +kernel
  obtain ⟨hsame, hblanks, _⟩ := comments_have_no_part_in_imports commentedSource
  rw [hwithout] at hblanks
  exact ⟨hwithout, (hsame _ hblanks).trans himports⟩

end ProtoRefresh.Proto
