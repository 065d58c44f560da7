-- Texts with tags that can always be shown. In an escaped text no tag is
-- left: an odd number of backslashes stands before each one, and the added
-- backslashes make no new tag. So an escaped text can be shown whatever it
-- says, and so can a tag with its closing tag around plain text.
import Mathlib.Data.List.TakeWhile
import ProtoRefresh.Console.Markup
import ProtoRefresh.Proofs.Host.Outcome

namespace ProtoRefresh.Console

open Text

variable {c : Char} {text rest inside after tail : List Char} {n : Nat} {opened : List OpenTag}
  {pieces : List Piece}

/-! ## Tags at the start of a text -/

/-- Whether a character can stand inside a tag. -/
def isInside (c : Char) : Bool := c != ']' && c != '['

/-- The inside of a tag: it starts as tags start, and has no bracket. -/
structure IsTag (inside : List Char) : Prop where
  start : ∃ c rest, inside = c :: rest ∧ startsTag c = true
  noBracket : ∀ c ∈ inside, isInside c = true

theorem isInside_of_startsTag (h : startsTag c = true) : isInside c = true := by
  unfold isInside
  rw [Bool.and_eq_true, bne_iff_ne, bne_iff_ne]
  constructor
  · rintro rfl
    exact absurd h (by decide)
  · rintro rfl
    exact absurd h (by decide)

theorem readTag?_cons (c : Char) (rest : List Char) : readTag? (c :: rest) =
    if startsTag c && ((c :: rest).dropWhile isInside).head? = some ']' then
      some ((c :: rest).takeWhile isInside, ((c :: rest).dropWhile isInside).tail)
    else none := by
  have hdrop : ((c :: rest).dropWhile isInside) =
      (c :: rest).drop ((c :: rest).takeWhile isInside).length :=
    calc (c :: rest).dropWhile isInside
        = ((c :: rest).takeWhile isInside ++ (c :: rest).dropWhile isInside).drop
            ((c :: rest).takeWhile isInside).length := List.drop_left.symm
      _ = _ := by rw [List.takeWhile_append_dropWhile]
  rw [hdrop, List.tail_drop]
  rfl

/-- What is read as a tag is a tag up to its closing bracket. -/
theorem readTag?_eq_some_iff :
    readTag? text = some (inside, after) ↔ IsTag inside ∧ text = inside ++ ']' :: after := by
  constructor
  · intro h
    cases text with
    | nil => cases h
    | cons c rest =>
      rw [readTag?_cons] at h
      split at h
      · rename_i hif
        obtain ⟨hstart, hclose⟩ := Bool.and_eq_true_iff.1 hif
        obtain ⟨rfl, rfl⟩ := Prod.mk.inj (Option.some.inj h)
        obtain ⟨more, hmore⟩ := List.head?_eq_some_iff.1 (of_decide_eq_true hclose)
        refine ⟨⟨⟨c, rest.takeWhile isInside, ?_, hstart⟩, fun _ => List.mem_takeWhile_imp⟩, ?_⟩
        · exact List.takeWhile_cons_of_pos (isInside_of_startsTag hstart)
        · rw [hmore, List.tail_cons, ← hmore, List.takeWhile_append_dropWhile]
      · cases h
  · rintro ⟨⟨⟨c, rest, rfl, hstart⟩, hinside⟩, rfl⟩
    have htake : (c :: rest ++ ']' :: after).takeWhile isInside = c :: rest := by
      rw [List.takeWhile_append_of_pos hinside, List.takeWhile_cons_of_neg (by decide),
        List.append_nil]
    have hdrop : (c :: rest ++ ']' :: after).dropWhile isInside = ']' :: after := by
      rw [List.dropWhile_append_of_pos hinside, List.dropWhile_cons_of_neg (by decide)]
    rw [List.cons_append] at htake hdrop ⊢
    rw [readTag?_cons, htake, hdrop, hstart]
    rfl

theorem markAt?_backslash (rest : List Char) :
    markAt? ('\\' :: rest) =
      (markAt? rest).map fun (n, inside, after) => (n + 1, inside, after) := by
  unfold markAt?
  simp only [List.takeWhile_cons, beq_self_eq_true, if_true, List.length_cons, List.drop_succ_cons]
  split
  · rename_i inner _
    cases readTag? inner with
    | none => rfl
    | some found => rfl
  · rfl

theorem markAt?_bracket (rest : List Char) :
    markAt? ('[' :: rest) = (readTag? rest).map fun (inside, after) => (0, inside, after) := rfl

theorem markAt?_other (hslash : c ≠ '\\') (hbracket : c ≠ '[') : markAt? (c :: rest) = none := by
  unfold markAt?
  simp [hslash, hbracket]

/-- A tag at the start of a text stands there behind its backslashes. -/
theorem markAt?_eq_some_iff : markAt? text = some (n, inside, after) ↔
    IsTag inside ∧ text = List.replicate n '\\' ++ '[' :: (inside ++ ']' :: after) := by
  induction text generalizing n with
  | nil =>
    refine iff_of_false nofun ?_
    rintro ⟨_, heq⟩
    simp at heq
  | cons c rest ih =>
    by_cases hslash : c = '\\'
    · subst hslash
      rw [markAt?_backslash]
      cases n with
      | zero => simp
      | succ n =>
        simp only [Option.map_eq_some_iff, List.replicate_succ, List.cons_append, List.cons.injEq,
          true_and, ← ih]
        constructor
        · rintro ⟨⟨_, _, _⟩, hfound, heq⟩
          cases heq
          exact hfound
        · intro hfound
          exact ⟨_, hfound, rfl⟩
    · by_cases hbracket : c = '['
      · subst hbracket
        rw [markAt?_bracket]
        cases n with
        | zero => simp [readTag?_eq_some_iff]
        | succ n => simp [List.replicate_succ]
      · rw [markAt?_other hslash hbracket]
        cases n with
        | zero => simp [hbracket]
        | succ n => simp [List.replicate_succ, hslash]

/-! ## Escaped texts -/

/-- What may follow an escaped text. -/
def IsTail (tail : List Char) : Prop := tail = [] ∨ tail = ['\\']

theorem dropWhile_of_tag (hinside : ∀ c ∈ inside, isInside c = true) (c : Char)
    (hc : isInside c = false) (rest : List Char) :
    (inside ++ c :: rest).dropWhile isInside = c :: rest := by
  rw [List.dropWhile_append_of_pos hinside, List.dropWhile_cons_of_neg (by simp [hc])]

theorem escapeTags_of_none (h : markAt? (c :: rest) = none) :
    escapeTags (c :: rest) = c :: escapeTags rest := by
  rw [escapeTags]
  split
  · rename_i hsome
    cases h.symm.trans hsome
  · rfl

/-- The brackets that close something in an escaped text do so in the text itself. -/
theorem exists_of_escapeTags_append (htail : IsTail tail)
    (hinside : ∀ c ∈ inside, isInside c = true)
    (h : escapeTags text ++ tail = inside ++ ']' :: after) :
    ∃ more, text = inside ++ ']' :: more := by
  fun_induction escapeTags text generalizing inside with
  | case1 =>
    have hclose : ']' ∈ tail := by
      rw [List.nil_append] at h
      rw [h]
      simp
    rcases htail with rfl | rfl
    · cases hclose
    · exact absurd hclose (by decide)
  | case2 c rest n tag more hmark _ ih =>
    -- the first bracket there is the one that opens the tag
    have hslashes : ∀ c ∈ List.replicate (2 * n + 1) '\\', isInside c = true := by
      intro c hc
      rw [List.eq_of_mem_replicate hc]
      rfl
    have hopen := congrArg (List.dropWhile isInside) h
    rw [dropWhile_of_tag hinside ']' rfl] at hopen
    simp only [List.append_assoc, List.cons_append] at hopen
    rw [dropWhile_of_tag hslashes '[' rfl] at hopen
    cases hopen
  | case3 c rest hmark ih =>
    cases inside with
    | nil => exact ⟨rest, by rw [(List.cons.inj h).1]; rfl⟩
    | cons d inside =>
      obtain ⟨hfirst, hrest⟩ := List.cons.inj h
      obtain ⟨more, rfl⟩ := ih (fun c hc => hinside c (List.mem_cons_of_mem _ hc)) hrest
      subst hfirst
      exact ⟨more, rfl⟩

/-- Where no tag starts, none starts in the escaped text. -/
theorem markAt?_escapeTags (htail : IsTail tail) (h : markAt? text = none) :
    markAt? (escapeTags text ++ tail) = none := by
  fun_induction escapeTags text with
  | case1 =>
    rcases htail with rfl | rfl
    · rfl
    · rfl
  | case2 c rest n tag more hmark _ ih =>
    rw [h] at hmark
    cases hmark
  | case3 c rest hmark ih =>
    rw [List.cons_append]
    by_cases hslash : c = '\\'
    · subst hslash
      rw [markAt?_backslash, Option.map_eq_none_iff] at hmark ⊢
      exact ih hmark
    · by_cases hbracket : c = '['
      · subst hbracket
        rw [markAt?_bracket, Option.map_eq_none_iff] at hmark ⊢
        rw [Option.eq_none_iff_forall_ne_some] at hmark ⊢
        rintro ⟨inside, after⟩ hread
        obtain ⟨htag, heq⟩ := readTag?_eq_some_iff.1 hread
        obtain ⟨more, rfl⟩ := exists_of_escapeTags_append htail htag.noBracket heq
        exact hmark _ (readTag?_eq_some_iff.2 ⟨htag, rfl⟩)
      · exact markAt?_other hslash hbracket

/-! ## Pieces that are plain -/

theorem readPieces_of_tag (h : markAt? text = some (n, inside, after)) :
    readPieces text = .plain [] :: .plain (List.replicate (n / 2) '\\') :: .plain [] ::
      (if n % 2 = 1 then .plain ('[' :: inside ++ [']']) else .tag inside) :: .plain [] ::
      readPieces after := by
  cases text with
  | nil => cases h
  | cons c rest =>
    rw [readPieces]
    split
    · rename_i hfound
      cases h.symm.trans hfound
      rfl
    · rename_i hnone
      cases h.symm.trans hnone

theorem readPieces_of_none (h : markAt? (c :: rest) = none) :
    readPieces (c :: rest) = pushPlain c (readPieces rest) := by
  rw [readPieces]
  split
  · rename_i hsome
    cases h.symm.trans hsome
  · rfl

def Piece.IsPlain : Piece → Prop
  | .plain _ => True
  | .tag _ => False

theorem isPlain_pushPlain (h : ∀ piece ∈ pieces, piece.IsPlain) :
    ∀ piece ∈ pushPlain c pieces, piece.IsPlain := by
  unfold pushPlain
  split
  · simpa [Piece.IsPlain] using h
  · simpa [Piece.IsPlain] using h

/-- An escaped text has no tags. -/
theorem isPlain_readPieces_escapeTags (htail : IsTail tail) :
    ∀ piece ∈ readPieces (escapeTags text ++ tail), piece.IsPlain := by
  fun_induction escapeTags text with
  | case1 =>
    rcases htail with rfl | rfl
    · rw [List.nil_append, readPieces]
      simp
    · rw [List.nil_append, readPieces_of_none rfl, readPieces]
      exact isPlain_pushPlain (by simp)
  | case2 c rest n tag more hmark _ ih =>
    obtain ⟨htag, _⟩ := markAt?_eq_some_iff.1 hmark
    have hescaped : markAt? (List.replicate (2 * n + 1) '\\' ++ '[' :: tag ++ ']' ::
        escapeTags more ++ tail) = some (2 * n + 1, tag, escapeTags more ++ tail) :=
      markAt?_eq_some_iff.2 ⟨htag, by simp⟩
    rw [readPieces_of_tag hescaped, if_pos (by omega)]
    simpa [Piece.IsPlain] using ih
  | case3 c rest hmark ih =>
    have hnone := markAt?_escapeTags htail hmark
    rw [escapeTags_of_none hmark, List.cons_append] at hnone
    rw [List.cons_append, readPieces_of_none hnone]
    exact isPlain_pushPlain ih

/-! ## Pieces that can be shown -/

/-- Pieces can be shown after some open tags. -/
def Shows (opened : List OpenTag) (pieces : List Piece) : Prop :=
  ∃ shown, showPieces opened pieces = .ok shown

theorem shows_nil (opened : List OpenTag) : Shows opened [] := ⟨[], rfl⟩

theorem shows_plain_cons : Shows opened (.plain text :: pieces) ↔ Shows opened pieces := by
  unfold Shows
  rw [showPieces]
  cases showPieces opened pieces with
  | error failure => exact iff_of_false nofun nofun
  | ok shown => exact iff_of_true ⟨_, rfl⟩ ⟨_, rfl⟩

theorem shows_tag_cons {next : List OpenTag} (h : stepTag opened text = .ok next) :
    Shows opened (.tag text :: pieces) ↔ Shows next pieces := by
  unfold Shows
  rw [showPieces, h]
  rfl

theorem shows_pushPlain : Shows opened (pushPlain c pieces) ↔ Shows opened pieces := by
  unfold pushPlain
  split
  · rw [shows_plain_cons, shows_plain_cons]
  · exact shows_plain_cons

theorem shows_of_isPlain (h : ∀ piece ∈ pieces, piece.IsPlain) : Shows opened pieces := by
  induction pieces with
  | nil => exact shows_nil opened
  | cons piece pieces ih =>
    have hpiece := h piece List.mem_cons_self
    cases piece with
    | plain text =>
      exact shows_plain_cons.2 (ih fun other ho => h other (List.mem_cons_of_mem _ ho))
    | tag text => exact hpiece.elim

/-- A text without the characters that mark a tag. -/
def Unmarked (text : List Char) : Prop := ∀ c ∈ text, c ≠ '\\' ∧ c ≠ '['

instance (text : List Char) : Decidable (Unmarked text) :=
  decidable_of_iff ((text.all fun c => c != '\\' && c != '[') = true) (by simp [Unmarked])

/-- Plain text can stand before what can be shown. -/
theorem shows_append (htext : Unmarked text) :
    Shows opened (readPieces (text ++ rest)) ↔ Shows opened (readPieces rest) := by
  induction text with
  | nil => rfl
  | cons c text ih =>
    obtain ⟨hslash, hbracket⟩ := htext c List.mem_cons_self
    rw [List.cons_append, readPieces_of_none (markAt?_other hslash hbracket), shows_pushPlain]
    exact ih fun d hd => htext d (List.mem_cons_of_mem c hd)

/-- A tag can stand before what can be shown once it is open. -/
theorem shows_tag_append {next : List OpenTag} (htag : IsTag inside)
    (hstep : stepTag opened inside = .ok next) :
    Shows opened (readPieces ('[' :: (inside ++ ']' :: rest))) ↔ Shows next (readPieces rest) := by
  have hmark : markAt? ('[' :: (inside ++ ']' :: rest)) = some (0, inside, rest) :=
    markAt?_eq_some_iff.2 ⟨htag, rfl⟩
  rw [readPieces_of_tag hmark, shows_plain_cons, shows_plain_cons, shows_plain_cons,
    if_neg (by decide), shows_tag_cons hstep, shows_plain_cons]

/-- A name of a style in small letters. -/
structure IsStyle (name : List Char) : Prop where
  ne_nil : name ≠ []
  letters : ∀ c ∈ name, 'a' ≤ c ∧ c ≤ 'z'

instance (name : List Char) : Decidable (IsStyle name) :=
  decidable_of_iff (name ≠ [] ∧ (name.all fun c => 'a' ≤ c && c ≤ 'z') = true)
    ⟨fun h => ⟨h.1, by simpa using h.2⟩, fun h => ⟨h.ne_nil, by simpa using h.letters⟩⟩

theorem IsStyle.isTag {name : List Char} (h : IsStyle name) : IsTag name := by
  have hstarts : ∀ c ∈ name, startsTag c = true := by
    intro c hc
    simp [startsTag, h.letters c hc]
  refine ⟨?_, fun c hc => isInside_of_startsTag (hstarts c hc)⟩
  cases name with
  | nil => exact absurd rfl h.ne_nil
  | cons c rest => exact ⟨c, rest, rfl, hstarts c List.mem_cons_self⟩

theorem splitTag_of_noEquals (h : '=' ∉ text) : splitTag text = (text, none) := by
  have htake : text.takeWhile (· != '=') = text := by
    rw [List.takeWhile_eq_self_iff]
    intro c hc
    rw [bne_iff_ne]
    rintro rfl
    exact h hc
  unfold splitTag
  rw [htake]
  simp

theorem IsStyle.notMem {name : List Char} (h : IsStyle name) (hc : ¬ ('a' ≤ c ∧ c ≤ 'z')) :
    c ∉ name := fun hmem => hc (h.letters c hmem)

theorem stepTag_open {name : List Char} (h : IsStyle name) :
    stepTag opened name = .ok (⟨styleName name, none⟩ :: opened) := by
  unfold stepTag
  rw [splitTag_of_noEquals (h.notMem (by decide))]
  dsimp only
  split
  · exact absurd List.mem_cons_self (h.notMem (by decide))
  · rfl

theorem isBlank_of_letter (h : 'a' ≤ c ∧ c ≤ 'z') : isBlank c = false := by
  have hlow : 97 ≤ c.toNat := h.1
  have hhigh : c.toNat ≤ 122 := h.2
  unfold isBlank
  simp [blankRanges, CodeRanges.hasChar, CodeRanges.has]
  omega

theorem trimStart_of_noBlank (h : ∀ c ∈ text, isBlank c = false) : trimStart text = text := by
  cases text with
  | nil => rfl
  | cons c rest => exact List.dropWhile_cons_of_neg (by simp [h c List.mem_cons_self])

theorem IsStyle.trim_eq {name : List Char} (h : IsStyle name) : trim name = name := by
  have hblank : ∀ c ∈ name, isBlank c = false := fun c hc => isBlank_of_letter (h.letters c hc)
  unfold trim trimEnd
  rw [trimStart_of_noBlank hblank, trimStart_of_noBlank, List.reverse_reverse]
  exact fun c hc => hblank c (List.mem_reverse.1 hc)

theorem stepTag_close {name : List Char} (h : IsStyle name) :
    stepTag (⟨styleName name, none⟩ :: opened) ('/' :: name) = .ok opened := by
  have hnoEquals : '=' ∉ '/' :: name := by
    simp [h.notMem (by decide : ¬ ('a' ≤ '=' ∧ '=' ≤ 'z'))]
  have hplace : (if name.isEmpty = true then 0
      else (⟨styleName name, none⟩ :: opened).findIdx fun tag => tag.name == styleName name) =
        0 := by
    simp [List.findIdx_cons]
  unfold stepTag
  rw [splitTag_of_noEquals hnoEquals]
  simp only [h.trim_eq, hplace, List.getElem?_cons_zero, Option.map_none, Option.getD_none,
    Bool.not_true, Bool.and_false, Bool.false_eq_true, if_false]
  rfl

/-- Plain text between a tag and its closing tag can stand before what can be shown. -/
theorem shows_styled {name : List Char} (hname : IsStyle name) (htext : Unmarked text) :
    Shows opened (readPieces
        ('[' :: (name ++ ']' :: (text ++ '[' :: ('/' :: name ++ ']' :: rest))))) ↔
      Shows opened (readPieces rest) := by
  have hclosing : IsTag ('/' :: name) :=
    ⟨⟨'/', name, rfl, rfl⟩, by simpa using ⟨rfl, hname.isTag.noBracket⟩⟩
  rw [shows_tag_append hname.isTag (stepTag_open hname), shows_append htext,
    shows_tag_append hclosing (stepTag_close hname)]

/-! ## Texts that can be shown -/

theorem showMarkup_of_shows (h : Shows [] (readPieces text)) :
    ∃ shown, showMarkup text = .ok shown := by
  obtain ⟨shown, hshown⟩ := h
  unfold showMarkup
  split
  · exact ⟨_, rfl⟩
  · rw [hshown]
    exact ⟨_, rfl⟩

/-- An escaped text can be shown, also behind others that can. -/
theorem shows_escapeMarkup (text : List Char) : Shows opened (readPieces (escapeMarkup text)) := by
  have htail : ∃ tail, IsTail tail ∧ escapeMarkup text = escapeTags text ++ tail := by
    unfold escapeMarkup
    dsimp only
    split
    · exact ⟨[], Or.inl rfl, (List.append_nil _).symm⟩
    · exact ⟨['\\'], Or.inr rfl, rfl⟩
    · exact ⟨[], Or.inl rfl, (List.append_nil _).symm⟩
  obtain ⟨tail, htail, heq⟩ := htail
  rw [heq]
  exact shows_of_isPlain (isPlain_readPieces_escapeTags htail)

theorem stepTag_eq_error {failure : Failure} (h : stepTag opened text = .error failure) :
    failure = .markup := by
  unfold stepTag at h
  dsimp only at h
  split at h
  · split at h
    · cases h
      rfl
    · split at h
      · cases h
        rfl
      · cases h
  · cases h

theorem showPieces_eq_error {failure : Failure} (h : showPieces opened pieces = .error failure) :
    failure = .markup := by
  induction pieces generalizing opened with
  | nil => cases h
  | cons piece pieces ih =>
    cases piece with
    | plain text =>
      rw [showPieces] at h
      rcases except_bind_eq_error.1 h with hrest | ⟨_, _, hlast⟩
      · exact ih hrest
      · cases hlast
    | tag text =>
      rw [showPieces] at h
      rcases except_bind_eq_error.1 h with hstep | ⟨_, _, hrest⟩
      · exact stepTag_eq_error hstep
      · exact ih hrest

/-- A text cannot be shown only where it closes what is not open. -/
theorem showMarkup_eq_error {failure : Failure} (h : showMarkup text = .error failure) :
    failure = .markup := by
  unfold showMarkup at h
  split at h
  · cases h
  · rcases except_bind_eq_error.1 h with hpieces | ⟨_, _, hlast⟩
    · exact showPieces_eq_error hpieces
    · cases hlast

end ProtoRefresh.Console
