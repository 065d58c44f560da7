-- The normal form of lines. Cutting a text gives lines in normal form, and
-- lines in normal form are what cutting their text gives, so lines that
-- are rewritten one by one are the lines of the rewritten text.
import Mathlib.Data.List.Infix
import ProtoRefresh.Rewrite.Line

namespace ProtoRefresh.Rewrite

open Text

/-! ## The normal form -/

/-- A line that can be told from what follows it: no newline is in its body, and a carriage return
at the end of the body is not taken for a part of the ending. -/
structure Line.Sound (line : Line) : Prop where
  no_newline : .char '\n' ∉ line.body
  no_return : line.ending = .newline → line.body.getLast? ≠ some (.char '\r')

/-- Lines as they are cut from a text: only the last one may have no ending, and it holds
something then. -/
def Line.Normal : List Line → Prop
  | [] => True
  | line :: rest =>
    line.Sound ∧ (line.ending = .none → line.body ≠ [] ∧ rest = []) ∧ Line.Normal rest

namespace Line

theorem Normal.sound {lines : List Line} (h : Normal lines) : ∀ line ∈ lines, line.Sound := by
  induction lines with
  | nil => exact fun line hl => absurd hl List.not_mem_nil
  | cons first rest ih =>
    intro line hl
    rcases List.mem_cons.1 hl with rfl | hl
    · exact h.1
    · exact ih h.2.2 line hl

/-! ## Cutting gives the normal form -/

theorem sound_push {c : CodePoint} {line : Line} (hc : c ≠ '\n')
    (hr : c = '\r' → line.body = [] → line.ending ≠ .newline) (h : line.Sound) :
    Sound ⟨c :: line.body, line.ending⟩ := by
  constructor
  · simp [h.no_newline, hc.symm]
  · intro he
    have hlast := h.no_return he
    cases hb : line.body with
    | nil =>
      intro hl
      exact hr (by simpa using hl) hb he
    | cons d body => simpa [hb] using hlast

/-- A line that is empty up to its newline starts with it. -/
theorem ofText_newline_head {text : List CodePoint} {ending : Ending} {rest : List Line}
    (h : ofText text = ⟨[], ending⟩ :: rest) (he : ending = .newline) :
    ∃ after, text = .char '\n' :: after := by
  fun_cases ofText text with
  | case1 => simp [ofText] at h
  | case2 after => exact ⟨after, rfl⟩
  | case3 after =>
    subst he
    simp [ofText] at h
  | case4 c after h1 h2 =>
    rw [ofText.eq_4 c after h1 h2] at h
    cases ho : ofText after <;> simp [ho, push] at h

theorem normal_ofText (text : List CodePoint) : Normal (ofText text) := by
  fun_induction ofText text with
  | case1 => trivial
  | case2 rest ih => exact ⟨⟨by simp, by simp⟩, by simp, ih⟩
  | case3 rest ih => exact ⟨⟨by simp, by simp⟩, by simp, ih⟩
  | case4 c rest h1 h2 ih =>
    have hc : c ≠ '\n' := fun h => h1 h
    cases ho : ofText rest with
    | nil => exact ⟨⟨by simpa using hc.symm, by simp⟩, by simp, trivial⟩
    | cons line lines =>
      rw [ho] at ih
      obtain ⟨hs, hn, hrest⟩ := ih
      refine ⟨sound_push hc ?_ hs, fun he => ⟨by simp, (hn he).2⟩, hrest⟩
      intro hcr hb he
      obtain ⟨body, ending⟩ := line
      subst hb
      obtain ⟨after, hafter⟩ := ofText_newline_head ho he
      exact h2 after hcr hafter

/-! ## The normal form is what cutting gives -/

/-- A sound line with an ending is cut off as it is. -/
theorem ofText_line {line : Line} (h : line.Sound) (he : line.ending ≠ .none)
    (text : List CodePoint) :
    ofText (line.text ++ text) = line :: ofText text := by
  obtain ⟨body, ending⟩ := line
  induction body with
  | nil =>
    cases ending with
    | newline => simp [Line.text, Ending.text, ofText]
    | carriageReturn => simp [Line.text, Ending.text, ofText]
    | none => simp at he
  | cons c body ih =>
    have hc : c ≠ '\n' := fun h' => h.no_newline (by simp [h'])
    have hs : Sound ⟨body, ending⟩ := by
      refine ⟨fun hn => h.no_newline (List.mem_cons_of_mem c hn), fun hen hl => ?_⟩
      apply h.no_return hen
      cases body with
      | nil => simp at hl
      | cons d body => simpa using hl
    have hr : ∀ rest, c = '\r' →
        (⟨body, ending⟩ : Line).text ++ text = .char '\n' :: rest → False := by
      intro rest hcr hrest
      cases body with
      | nil =>
        cases ending with
        | newline => exact h.no_return rfl (by simp [hcr])
        | carriageReturn => simp [Line.text, Ending.text] at hrest
        | none => simp at he
      | cons d body =>
        simp only [Line.text, List.cons_append, List.cons.injEq] at hrest
        exact hs.no_newline (by simp [hrest.1])
    have hcons : (⟨c :: body, ending⟩ : Line).text ++ text =
        c :: ((⟨body, ending⟩ : Line).text ++ text) := by simp [Line.text]
    rw [hcons, ofText.eq_4 _ _ (fun h' => hc h') hr, ih hs he]
    simp [push]

/-- What has no newline is one line. -/
theorem ofText_unended {body : List CodePoint} (hb : body ≠ []) (hn : .char '\n' ∉ body) :
    ofText body = [⟨body, .none⟩] := by
  induction body with
  | nil => simp at hb
  | cons c body ih =>
    simp only [List.mem_cons, not_or] at hn
    have hr : ∀ rest, c = '\r' → body = .char '\n' :: rest → False := by
      intro rest _ hrest
      exact hn.2 (by simp [hrest])
    rw [ofText.eq_4 _ _ (fun h => hn.1 h.symm) hr]
    cases body with
    | nil => simp [ofText, push]
    | cons d body =>
      rw [ih (by simp) hn.2]
      simp [push]

/-- Lines in normal form are the lines of their text. -/
theorem ofText_join {lines : List Line} (h : Normal lines) : ofText (join lines) = lines := by
  induction lines with
  | nil => simp [join, ofText]
  | cons line rest ih =>
    obtain ⟨hs, hn, hrest⟩ := h
    have hj : join (line :: rest) = line.text ++ join rest := by simp [join]
    by_cases he : line.ending = .none
    · obtain ⟨hb, rfl⟩ := hn he
      have ht : join [line] = line.body := by simp [join, Line.text, he, Ending.text]
      rw [ht, ofText_unended hb hs.no_newline, ← he]
    · rw [hj, ofText_line hs he, ih hrest]

/-! ## Lines changed one by one -/

/-- Lines of which some go and some get a new body are in normal form where the new bodies are
bodies of lines. -/
theorem Normal.filterMap {lines : List Line} {f : List CodePoint → Option (List CodePoint)}
    (h : Normal lines)
    (hf : ∀ line : Line, line.Sound → ∀ body, f line.body = some body →
      Sound ⟨body, line.ending⟩ ∧ (line.body ≠ [] → body ≠ [])) :
    Normal (lines.filterMap fun line => (f line.body).map fun body => ⟨body, line.ending⟩) := by
  induction lines with
  | nil => trivial
  | cons line rest ih =>
    obtain ⟨hs, hn, hrest⟩ := h
    cases hb : f line.body with
    | none => simpa [hb] using ih hrest
    | some body =>
      have hline := hf line hs body hb
      simp only [List.filterMap_cons, hb, Option.map_some]
      refine ⟨hline.1, fun he => ?_, ih hrest⟩
      obtain ⟨hne, rfl⟩ := hn he
      exact ⟨hline.2 hne, rfl⟩

/-- A line of which the end has been replaced, by something without line ends, ends where it has
ended before. -/
theorem Sound.cut {line : Line} (h : line.Sound) (n : Nat) {piece : List CodePoint}
    (hne : piece ≠ [])
    (hreturn : .char '\r' ∉ piece) (hnewline : .char '\n' ∉ piece) :
    Sound ⟨line.body.take n ++ piece, line.ending⟩ := by
  constructor
  · rw [List.mem_append, not_or]
    exact ⟨fun hn => h.no_newline (List.mem_of_mem_take hn), hnewline⟩
  · intro _ hlast
    rw [List.getLast?_append_of_ne_nil _ hne] at hlast
    exact hreturn (List.mem_of_getLast? hlast)

/-! ## Texts within lines -/

/-- A text without a character of a longer one lies on one side of it. -/
theorem infix_of_append_cons {part before after : List CodePoint} {c : CodePoint} (hc : c ∉ part)
    (h : part <:+: before ++ c :: after) : part <:+: before ∨ part <:+: after := by
  induction before with
  | nil =>
    rcases List.infix_cons_iff.1 h with hp | hi
    · cases part with
      | nil => exact Or.inl List.nil_infix
      | cons d part =>
        have hd := (List.cons_prefix_cons.1 hp).1
        exact absurd (by simp [hd]) hc
    · exact Or.inr hi
  | cons d before ih =>
    rcases List.infix_cons_iff.1 h with hp | hi
    · left
      have hlen : part.length ≤ (d :: before).length := by
        by_contra hlt
        have hget : (part)[(d :: before).length]? = some c := by
          have := List.prefix_iff_getElem?.1 hp (d :: before).length (by omega)
          rw [List.getElem?_eq_getElem (by omega)]
          simpa using this.symm
        exact hc (List.mem_of_getElem? hget)
      exact (List.prefix_of_prefix_length_le hp (List.prefix_append _ _) hlen).isInfix
    · rcases ih hi with hb | ha
      · exact Or.inl (hb.trans (List.suffix_cons d before).isInfix)
      · exact Or.inr ha

/-- A text without line ends lies within the body of one line. -/
theorem infix_body_of_infix_join {part : List CodePoint} {lines : List Line} (hne : part ≠ [])
    (hnewline : .char '\n' ∉ part) (hreturn : .char '\r' ∉ part) (hn : Normal lines)
    (h : part <:+: join lines) : ∃ line ∈ lines, part <:+: line.body := by
  induction lines with
  | nil => exact absurd (List.infix_nil.1 h) hne
  | cons line rest ih =>
    obtain ⟨_, hend, hrest⟩ := hn
    have hcut : part <:+: line.body ∨ part <:+: join rest := by
      have hj : join (line :: rest) = line.body ++ (line.ending.text ++ join rest) := by
        simp [join, Line.text]
      rw [hj] at h
      cases he : line.ending with
      | newline =>
        rw [he] at h
        exact infix_of_append_cons hnewline h
      | carriageReturn =>
        rw [he] at h
        rcases infix_of_append_cons hreturn h with hb | ha
        · exact Or.inl hb
        · rcases @infix_of_append_cons part [] _ _ hnewline ha with hb | ha
          · exact absurd (List.infix_nil.1 hb) hne
          · exact Or.inr ha
      | none =>
        rw [he, (hend he).2] at h
        left
        simpa [join, Ending.text] using h
    rcases hcut with hb | hr
    · exact ⟨line, List.mem_cons_self, hb⟩
    · obtain ⟨found, hf, hi⟩ := ih hrest hr
      exact ⟨found, List.mem_cons_of_mem _ hf, hi⟩

end Line

end ProtoRefresh.Rewrite
