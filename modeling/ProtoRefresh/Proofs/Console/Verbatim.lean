-- Texts that are shown as they are. Tags and escapes only take characters
-- away, and an emoji takes the colons of its code away. So a text is shown
-- verbatim exactly if it has no tag, no backslash before a bracket, no code
-- of an emoji and no control character.
import Mathlib.Data.List.Infix
import ProtoRefresh.Proofs.Console.Escaped
import ProtoRefresh.Proofs.Text.Pieces

namespace ProtoRefresh.Console

open Text

variable {c : Char} {text rest shown name behind after : List Char} {opened : List OpenTag}
  {pieces : List Piece}

/-! ## Marks -/

/-- A text in which no tag stands, and no backslash before a bracket. -/
structure HasNoMark (text : List Char) : Prop where
  no_tag : ∀ inside, IsTag inside → ¬ '[' :: (inside ++ [']']) <:+: text
  no_escape : ¬ ['\\', '['] <:+: text

theorem hasNoMark_nil : HasNoMark [] :=
  ⟨fun _ _ h => absurd (List.infix_nil.1 h) nofun, fun h => absurd (List.infix_nil.1 h) nofun⟩

theorem HasNoMark.of_cons (h : HasNoMark (c :: text)) : HasNoMark text :=
  ⟨fun inside htag hin => h.no_tag inside htag (List.infix_cons hin),
    fun hin => h.no_escape (List.infix_cons hin)⟩

theorem hasNoMark_of_noBracket (h : '[' ∉ text) : HasNoMark text :=
  ⟨fun _ _ hin => h (hin.subset List.mem_cons_self),
    fun hin => h (hin.subset (List.mem_cons_of_mem _ List.mem_cons_self))⟩

/-- Without a tag none starts at the start. -/
theorem HasNoMark.markAt?_eq_none (h : HasNoMark text) : markAt? text = none := by
  rw [Option.eq_none_iff_forall_ne_some]
  rintro ⟨n, inside, after⟩ hmark
  obtain ⟨htag, rfl⟩ := markAt?_eq_some_iff.1 hmark
  exact h.no_tag inside htag ⟨List.replicate n '\\', after, by simp⟩

/-- A mark in a text stands at its start or behind its first letter. -/
theorem hasNoMark_cons (hmark : markAt? (c :: text) = none)
    (hescape : ¬ (c = '\\' ∧ text.head? = some '[')) (h : HasNoMark text) :
    HasNoMark (c :: text) := by
  constructor
  · intro inside htag hin
    rcases List.infix_cons_iff.1 hin with ⟨after, hstart⟩ | hrest
    · have hfound : markAt? (c :: text) = some (0, inside, after) :=
        markAt?_eq_some_iff.2 ⟨htag, by rw [← hstart]; simp⟩
      cases hmark.symm.trans hfound
    · exact h.no_tag inside htag hrest
  · intro hin
    rcases List.infix_cons_iff.1 hin with ⟨after, hstart⟩ | hrest
    · obtain ⟨rfl, rfl⟩ := List.cons.inj hstart
      exact hescape ⟨rfl, rfl⟩
    · exact h.no_escape hrest

/-! ## Escapes -/

theorem dropEscapes_cons (c : Char) (text : List Char) : dropEscapes (c :: text) =
    if c = '\\' ∧ text.head? = some '[' then dropEscapes text else c :: dropEscapes text := by
  split
  · rename_i hescape
    obtain ⟨rfl, hhead⟩ := hescape
    obtain ⟨rest, rfl⟩ := List.head?_eq_some_iff.1 hhead
    rw [dropEscapes.eq_1, dropEscapes.eq_2 '[' rest (by simp)]
  · rename_i hno
    rw [dropEscapes.eq_2 c text]
    rintro rest rfl rfl
    exact hno ⟨rfl, rfl⟩

theorem dropEscapes_sublist (text : List Char) : (dropEscapes text).Sublist text := by
  induction text with
  | nil => exact List.Sublist.refl []
  | cons c rest ih =>
    rw [dropEscapes_cons]
    split
    · exact ih.cons c
    · exact ih.cons_cons c

theorem HasNoMark.dropEscapes_eq (h : HasNoMark text) : dropEscapes text = text := by
  induction text with
  | nil => rfl
  | cons c rest ih =>
    rw [dropEscapes_cons, if_neg, ih h.of_cons]
    rintro ⟨rfl, hhead⟩
    obtain ⟨behind, rfl⟩ := List.head?_eq_some_iff.1 hhead
    exact h.no_escape ⟨[], behind, rfl⟩

/-! ## What is left without tags -/

/-- Pieces without their tags and escapes, with the codes of emoji. -/
def bareText : List Piece → List Char
  | [] => []
  | .plain text :: pieces => dropEscapes text ++ bareText pieces
  | .tag _ :: pieces => bareText pieces

/-- The first piece is plain and starts with a bracket. -/
def StartsBracket (pieces : List Piece) : Prop :=
  ∃ text more, pieces = .plain ('[' :: text) :: more

theorem startsBracket_of_none (h : markAt? ('[' :: rest) = none) :
    StartsBracket (readPieces ('[' :: rest)) := by
  rw [readPieces_of_none h]
  unfold pushPlain
  split
  · exact ⟨_, _, rfl⟩
  · exact ⟨_, _, rfl⟩

/-- A character before some pieces is left before what is left of them, unless it escapes their
first bracket. -/
theorem bareText_pushPlain (c : Char) (pieces : List Piece) :
    bareText (pushPlain c pieces) = c :: bareText pieces ∧ ¬ (c = '\\' ∧ StartsBracket pieces) ∨
      bareText (pushPlain c pieces) = bareText pieces := by
  unfold pushPlain
  split
  · rw [bareText, bareText, dropEscapes_cons]
    split
    · exact Or.inr rfl
    · rename_i hno
      refine Or.inl ⟨rfl, ?_⟩
      rintro ⟨rfl, _, _, heq⟩
      cases heq
      exact hno ⟨rfl, rfl⟩
  · rename_i hplain
    refine Or.inl ⟨by simp [bareText, dropEscapes], ?_⟩
    rintro ⟨_, text, rest, rfl⟩
    exact hplain _ _ rfl

/-- Of a tag less is left than what stands there. -/
theorem bareText_of_tag {n : Nat} {inside : List Char}
    (h : markAt? text = some (n, inside, after)) :
    ∃ start mark, bareText (readPieces text) = start ++ bareText (readPieces after) ∧
      text = mark ++ after ∧ start.Sublist mark ∧ start.length < mark.length := by
  obtain ⟨_, htext⟩ := markAt?_eq_some_iff.1 h
  have hslashes := (dropEscapes_sublist (List.replicate (n / 2) '\\')).trans
    (List.replicate_sublist_replicate '\\' |>.2 (Nat.div_le_self n 2))
  have hfewer := (dropEscapes_sublist (List.replicate (n / 2) '\\')).length_le
  have htag := dropEscapes_sublist ('[' :: inside ++ [']'])
  have hshorter := htag.length_le
  rw [List.length_replicate] at hfewer
  rw [readPieces_of_tag h]
  refine ⟨dropEscapes (List.replicate (n / 2) '\\') ++
    if n % 2 = 1 then dropEscapes ('[' :: inside ++ [']']) else [],
    List.replicate n '\\' ++ ('[' :: inside ++ [']']), ?_, by simp [htext], ?_, ?_⟩
  · split
    · simp [bareText, dropEscapes]
    · simp [bareText, dropEscapes]
  · split
    · exact hslashes.append htag
    · exact hslashes.append (List.nil_sublist _)
  · rw [List.length_append, List.length_append, List.length_replicate]
    split
    · omega
    · simp
      omega

/-- What is left of a text stands in it, and it is the text only without marks. -/
theorem bareText_sublist (text : List Char) : (bareText (readPieces text)).Sublist text ∧
    (bareText (readPieces text) = text → HasNoMark text) := by
  induction text using readPieces.induct with
  | case1 =>
    rw [readPieces]
    exact ⟨List.Sublist.refl [], fun _ => hasNoMark_nil⟩
  | case2 c rest n inside after hmark hshorter ih =>
    obtain ⟨start, mark, hbare, htext, hstart, hlength⟩ := bareText_of_tag hmark
    rw [hbare, htext]
    refine ⟨hstart.append ih.1, fun heq => ?_⟩
    have hle := ih.1.length_le
    have hlengths := congrArg List.length heq
    rw [List.length_append, List.length_append] at hlengths
    omega
  | case3 c rest hmark ih =>
    obtain ⟨hsub, hno⟩ := ih
    rw [readPieces_of_none hmark]
    rcases bareText_pushPlain c (readPieces rest) with ⟨heq, hescape⟩ | heq
    · rw [heq]
      refine ⟨hsub.cons_cons c, fun hall => ?_⟩
      refine hasNoMark_cons hmark ?_ (hno (List.cons.inj hall).2)
      -- an escaped bracket would start the pieces of the rest
      rintro ⟨rfl, hhead⟩
      obtain ⟨behind, rfl⟩ := List.head?_eq_some_iff.1 hhead
      rw [markAt?_backslash, Option.map_eq_none_iff] at hmark
      exact hescape ⟨rfl, startsBracket_of_none hmark⟩
    · rw [heq]
      refine ⟨hsub.cons c, fun hall => ?_⟩
      have hle := hsub.length_le
      rw [hall, List.length_cons] at hle
      omega

/-- A text without marks is one plain piece, if there is anything of it. -/
theorem HasNoMark.readPieces_eq (h : HasNoMark text) :
    readPieces text = if text = [] then [] else [.plain text] := by
  induction text with
  | nil => rw [readPieces, if_pos rfl]
  | cons c rest ih =>
    rw [readPieces_of_none h.markAt?_eq_none, ih h.of_cons, if_neg (List.cons_ne_nil c rest)]
    split
    · rename_i hrest
      rw [hrest]
      rfl
    · rfl

/-! ## Emoji -/

theorem mem_of_findEmoji {pieces : List (List Char)} {emoji : List Char}
    (h : findEmoji name pieces = some emoji) : emoji ∈ pieces := by
  fun_induction findEmoji name pieces with
  | case1 emoji rest =>
    cases h
    exact List.mem_cons_of_mem _ List.mem_cons_self
  | case2 other emoji rest hother ih =>
    exact List.mem_cons_of_mem _ (List.mem_cons_of_mem _ (ih h))
  | case3 => cases h

/-- No emoji has a colon. -/
theorem noColon_of_emoji {emoji : List Char} (h : emoji? name = some emoji) : ':' ∉ emoji := by
  obtain ⟨line, _, hfound⟩ := List.exists_of_findSome?_eq_some h
  exact not_mem_of_mem_splitOn (mem_of_findEmoji hfound)

theorem codeEnd?_eq_some (h : codeEnd? text = some (behind, after)) :
    ':' ∉ behind ∧ after <:+ text := by
  obtain ⟨⟨ending, other⟩, hmem, h⟩ := List.exists_of_findSome?_eq_some h
  have hends : ∀ pair ∈ codeEnds, ':' ∉ pair.2 := by decide
  have hother := hends _ hmem
  dsimp only at h hother
  split at h
  · cases h
    exact ⟨hother, List.drop_suffix _ _⟩
  · cases h

theorem readCode?_eq_some (h : readCode? text = some (name, behind, after)) :
    ':' ∉ behind ∧ after <:+ text := by
  induction text generalizing name with
  | nil => cases h
  | cons c rest ih =>
    rw [readCode?] at h
    split at h
    · rename_i hend
      cases h
      exact codeEnd?_eq_some hend
    · split at h
      · cases h
      · obtain ⟨⟨inner, _, _⟩, hread, heq⟩ := Option.map_eq_some_iff.1 h
        cases heq
        obtain ⟨hbehind, hafter⟩ := ih hread
        exact ⟨hbehind, hafter.trans (List.suffix_cons c rest)⟩

/-- Emoji leave no more colons than there were, and as many only where they replace nothing. -/
theorem count_replaceEmoji (text : List Char) :
    (replaceEmoji text).count ':' ≤ text.count ':' ∧
      ((replaceEmoji text).count ':' = text.count ':' → replaceEmoji text = text) := by
  fun_induction replaceEmoji text with
  | case1 => exact ⟨Nat.le_refl _, fun _ => rfl⟩
  | case2 rest name behind after hread hshorter code ih =>
    obtain ⟨hbehind, inside, rfl⟩ := readCode?_eq_some hread
    have hcode : code = ':' :: inside := by
      simp [code]
    obtain ⟨hle, heq⟩ := ih
    rw [List.count_append, List.count_cons_self, List.count_append]
    cases hemoji : emoji? name with
    | none =>
      rw [Option.map_none, Option.getD_none, hcode, List.count_cons_self]
      refine ⟨by omega, fun hcount => ?_⟩
      rw [heq (by omega), List.cons_append]
    | some emoji =>
      -- the first colon of the code is gone
      have hnone : (emoji ++ behind).count ':' = 0 := by
        rw [List.count_append, List.count_eq_zero.2 (noColon_of_emoji hemoji),
          List.count_eq_zero.2 hbehind]
      rw [Option.map_some, Option.getD_some, hnone]
      exact ⟨by omega, fun hcount => by omega⟩
  | case3 rest hread ih =>
    rw [List.count_cons_self, List.count_cons_self]
    exact ⟨Nat.succ_le_succ ih.1, fun hcount => by rw [ih.2 (Nat.succ_injective hcount)]⟩
  | case4 c rest hc ih =>
    rw [List.count_cons_of_ne hc, List.count_cons_of_ne hc]
    exact ⟨ih.1, fun hcount => by rw [ih.2 hcount]⟩

/-! ## What is shown -/

/-- A text without marks and control characters, and without the code of an emoji. -/
structure IsPlain (text : List Char) : Prop extends HasNoMark text where
  no_control : ∀ c ∈ text, isStripped c = false
  no_emoji : replaceEmoji text = text

/-- What is shown has no more colons than what is left of its pieces, and as many only without
emoji. -/
theorem count_shown (h : showPieces opened pieces = .ok shown) :
    shown.count ':' ≤ (bareText pieces).count ':' ∧
      (shown.count ':' = (bareText pieces).count ':' → shown = bareText pieces) := by
  induction pieces generalizing opened shown with
  | nil =>
    cases h
    exact ⟨Nat.le_refl _, fun _ => rfl⟩
  | cons piece pieces ih =>
    cases piece with
    | plain text =>
      rw [showPieces] at h
      obtain ⟨more, hmore, h⟩ := except_bind_eq_ok.1 h
      cases h
      obtain ⟨hle, heq⟩ := ih hmore
      obtain ⟨hfirst, hsame⟩ := count_replaceEmoji (dropEscapes text)
      rw [bareText, List.count_append, List.count_append]
      refine ⟨Nat.add_le_add hfirst hle, fun hcount => ?_⟩
      rw [hsame (by omega), heq (by omega)]
    | tag text =>
      rw [showPieces] at h
      obtain ⟨next, _, h⟩ := except_bind_eq_ok.1 h
      exact ih h

theorem HasNoMark.showPieces_eq (h : HasNoMark text) :
    showPieces [] (readPieces text) = .ok (replaceEmoji text) := by
  rw [h.readPieces_eq]
  split
  · rename_i hnil
    rw [hnil, replaceEmoji]
    rfl
  · rw [showPieces, h.dropEscapes_eq]
    exact congrArg Except.ok (List.append_nil _)

theorem count_filter_isStripped (text : List Char) :
    (text.filter (!isStripped ·)).count ':' = text.count ':' :=
  List.count_filter (by decide)

/-- What is shown verbatim has no marks, and no emoji in it. -/
theorem hasNoMark_of_shown (h : showPieces opened (readPieces text) = .ok shown)
    (hkept : shown.filter (!isStripped ·) = text) : HasNoMark text ∧ shown = text := by
  obtain ⟨hsub, hmarks⟩ := bareText_sublist text
  obtain ⟨hcount, hsame⟩ := count_shown h
  have hcolons : shown.count ':' = (bareText (readPieces text)).count ':' := by
    have hless := hsub.count_le ':'
    have hkeeps := count_filter_isStripped shown
    rw [hkept] at hkeeps
    omega
  have hbare := hsame hcolons
  have hlength : text.length ≤ (bareText (readPieces text)).length := by
    rw [← hbare]
    conv_lhs => rw [← hkept]
    exact List.length_filter_le _ _
  have hall := hsub.eq_of_length_le hlength
  exact ⟨hmarks hall, hbare.trans hall⟩

/-- A text is shown verbatim exactly if it is plain. -/
theorem showMarkup_eq_self_iff : showMarkup text = .ok text ↔ IsPlain text := by
  have hfiltered : ∀ other : List Char, other.filter (!isStripped ·) = text →
      ∀ c ∈ text, isStripped c = false := by
    rintro other rfl c hc
    simpa using (List.mem_filter.1 hc).2
  unfold showMarkup
  constructor
  · intro h
    split at h
    · rename_i hbracket
      have hkept := Except.ok.inj h
      obtain ⟨hcount, hsame⟩ := count_replaceEmoji text
      have hkeeps := count_filter_isStripped (replaceEmoji text)
      rw [hkept] at hkeeps
      exact ⟨hasNoMark_of_noBracket (by simpa using hbracket), hfiltered _ hkept,
        hsame hkeeps.symm⟩
    · obtain ⟨shown, hshown, h⟩ := except_bind_eq_ok.1 h
      have hkept := Except.ok.inj h
      obtain ⟨hmarks, rfl⟩ := hasNoMark_of_shown hshown hkept
      have hemoji := Except.ok.inj (hmarks.showPieces_eq.symm.trans hshown)
      exact ⟨hmarks, hfiltered _ hkept, hemoji⟩
  · intro h
    have hkept : text.filter (!isStripped ·) = text :=
      List.filter_eq_self.2 fun c hc => by rw [h.no_control c hc]; rfl
    split
    · rw [h.no_emoji]
      exact congrArg Except.ok hkept
    · rw [h.toHasNoMark.showPieces_eq, h.no_emoji]
      exact congrArg Except.ok hkept

instance (text : List Char) : Decidable (IsPlain text) :=
  decidable_of_iff (showMarkup text = .ok text) showMarkup_eq_self_iff

end ProtoRefresh.Console
