-- Lines as pairs of texts, a body and what ends it. Which lists of pairs
-- are in normal form can be seen from the pairs alone, and cutting is a
-- bijection onto them: what has been cut is glued together to the same
-- text, and pairs in normal form are what cutting their text gives.
import ProtoRefresh.Proofs.Rewrite.Lines

namespace ProtoRefresh.Rewrite

open Text

/-! ## Pairs -/

/-- The body of a line with the text that ends it. -/
def Line.pair (line : Line) : List CodePoint × List CodePoint := (line.body, line.ending.text)

/-- The bodies in a text, each with what ends it. -/
def cutLines (text : List CodePoint) : List (List CodePoint × List CodePoint) :=
  (Line.ofText text).map Line.pair

/-- The text of bodies and what ends them. -/
def glueLines (pairs : List (List CodePoint × List CodePoint)) : List CodePoint :=
  pairs.flatMap fun pair => pair.1 ++ pair.2

/-- Pairs as they are cut from a text: only the last one may have no ending, and a carriage return
before a newline belongs to the ending. -/
structure IsNormal (pairs : List (List CodePoint × List CodePoint)) : Prop where
  is_ending : ∀ pair ∈ pairs,
    pair.2 = [.char '\n'] ∨ pair.2 = [.char '\r', .char '\n'] ∨ pair.2 = []
  no_newline : ∀ pair ∈ pairs, .char '\n' ∉ pair.1
  no_return : ∀ pair ∈ pairs, pair.2 = [.char '\n'] → pair.1.getLast? ≠ some (.char '\r')
  ended : ∀ pair ∈ pairs.dropLast, pair.2 ≠ []
  ne_nil : ∀ pair ∈ pairs, pair.2 = [] → pair.1 ≠ []

instance (pairs : List (List CodePoint × List CodePoint)) : Decidable (IsNormal pairs) :=
  decidable_of_iff
    ((∀ pair ∈ pairs, pair.2 = [.char '\n'] ∨ pair.2 = [.char '\r', .char '\n'] ∨ pair.2 = []) ∧
      (∀ pair ∈ pairs, .char '\n' ∉ pair.1) ∧
      (∀ pair ∈ pairs, pair.2 = [.char '\n'] → pair.1.getLast? ≠ some (.char '\r')) ∧
      (∀ pair ∈ pairs.dropLast, pair.2 ≠ []) ∧ ∀ pair ∈ pairs, pair.2 = [] → pair.1 ≠ [])
    ⟨fun ⟨h1, h2, h3, h4, h5⟩ => ⟨h1, h2, h3, h4, h5⟩,
      fun h => ⟨h.is_ending, h.no_newline, h.no_return, h.ended, h.ne_nil⟩⟩

variable {lines : List Line} {pairs : List (List CodePoint × List CodePoint)}

theorem glueLines_map_pair (lines : List Line) :
    glueLines (lines.map Line.pair) = Line.join lines := List.flatMap_map ..

/-! ## Lines give pairs in normal form -/

theorem Ending.text_eq_newline_iff {ending : Ending} :
    ending.text = [.char '\n'] ↔ ending = .newline := by
  cases ending <;> simp [Ending.text]

theorem Ending.text_eq_nil_iff {ending : Ending} : ending.text = [] ↔ ending = .none := by
  cases ending <;> simp [Ending.text]

/-- A line without an ending holds something. -/
theorem Line.Normal.body_ne_nil (h : Normal lines) :
    ∀ line ∈ lines, line.ending = .none → line.body ≠ [] := by
  induction lines with
  | nil => exact fun line hl => absurd hl List.not_mem_nil
  | cons first rest ih =>
    obtain ⟨_, hopen, hrest⟩ := h
    intro line hl
    rcases List.mem_cons.1 hl with rfl | hl
    · exact fun he => (hopen he).1
    · exact ih hrest line hl

/-- A line before the last one has an ending. -/
theorem Line.Normal.ended (h : Normal lines) : ∀ line ∈ lines.dropLast, line.ending ≠ .none := by
  induction lines with
  | nil => exact fun line hl => absurd hl List.not_mem_nil
  | cons first rest ih =>
    obtain ⟨_, hopen, hrest⟩ := h
    intro line hl
    cases rest with
    | nil => exact absurd hl List.not_mem_nil
    | cons next rest =>
      rcases List.mem_cons.1 hl with rfl | hl
      · exact fun he => absurd (hopen he).2 (List.cons_ne_nil _ _)
      · exact ih hrest line hl

theorem isNormal_map_pair (h : Line.Normal lines) : IsNormal (lines.map Line.pair) where
  is_ending := by
    simp only [List.forall_mem_map, Line.pair]
    intro line _
    cases line.ending <;> simp [Ending.text]
  no_newline := by
    simp only [List.forall_mem_map, Line.pair]
    exact fun line hl => (h.sound line hl).no_newline
  no_return := by
    simp only [List.forall_mem_map, Line.pair, Ending.text_eq_newline_iff]
    exact fun line hl => (h.sound line hl).no_return
  ended := by
    rw [← List.map_dropLast]
    simp only [List.forall_mem_map, Line.pair, ne_eq, Ending.text_eq_nil_iff]
    exact h.ended
  ne_nil := by
    simp only [List.forall_mem_map, Line.pair, Ending.text_eq_nil_iff]
    exact h.body_ne_nil

/-! ## Pairs in normal form are lines -/

theorem IsNormal.tail {pair : List CodePoint × List CodePoint} (h : IsNormal (pair :: pairs)) :
    IsNormal pairs where
  is_ending := fun other ho => h.is_ending other (List.mem_cons_of_mem pair ho)
  no_newline := fun other ho => h.no_newline other (List.mem_cons_of_mem pair ho)
  no_return := fun other ho => h.no_return other (List.mem_cons_of_mem pair ho)
  ended := by
    intro other ho
    have hne : pairs ≠ [] := by
      rintro rfl
      exact absurd ho List.not_mem_nil
    apply h.ended other
    rw [List.dropLast_cons_of_ne_nil hne]
    exact List.mem_cons_of_mem pair ho
  ne_nil := fun other ho => h.ne_nil other (List.mem_cons_of_mem pair ho)

/-- The first of some pairs is a line, by its ending. -/
theorem IsNormal.exists_line {pair : List CodePoint × List CodePoint}
    (h : IsNormal (pair :: pairs)) :
    ∃ line : Line, line.pair = pair ∧ line.Sound ∧
      (line.ending = .none → line.body ≠ [] ∧ pairs = []) := by
  have hpair := List.mem_cons_self (a := pair) (l := pairs)
  obtain ⟨ending, hending⟩ : ∃ ending : Ending, ending.text = pair.2 := by
    rcases h.is_ending pair hpair with he | he | he
    · exact ⟨.newline, he.symm⟩
    · exact ⟨.carriageReturn, he.symm⟩
    · exact ⟨.none, he.symm⟩
  refine ⟨⟨pair.1, ending⟩, Prod.ext rfl hending, ⟨h.no_newline pair hpair, fun he => ?_⟩,
    fun he => ?_⟩
  · exact h.no_return pair hpair (hending ▸ Ending.text_eq_newline_iff.2 he)
  · have hnone : pair.2 = [] := hending ▸ Ending.text_eq_nil_iff.2 he
    refine ⟨h.ne_nil pair hpair hnone, ?_⟩
    by_contra hne
    refine h.ended pair ?_ hnone
    rw [List.dropLast_cons_of_ne_nil hne]
    exact List.mem_cons_self

theorem IsNormal.exists_lines (h : IsNormal pairs) :
    ∃ lines : List Line, Line.Normal lines ∧ lines.map Line.pair = pairs := by
  induction pairs with
  | nil => exact ⟨[], trivial, rfl⟩
  | cons pair pairs ih =>
    obtain ⟨line, hpair, hsound, hopen⟩ := h.exists_line
    obtain ⟨lines, hnormal, hlines⟩ := ih h.tail
    refine ⟨line :: lines, ⟨hsound, fun he => ⟨(hopen he).1, ?_⟩, hnormal⟩, by
      rw [List.map_cons, hpair, hlines]⟩
    rw [(hopen he).2] at hlines
    exact List.map_eq_nil_iff.1 hlines

/-! ## The bijection -/

/-- Cutting and gluing are inverse to each other, between the texts and the pairs in normal form. -/
theorem cutting_is_a_bijection_onto_the_normal_forms :
    (∀ text, glueLines (cutLines text) = text ∧ IsNormal (cutLines text)) ∧
      ∀ pairs, IsNormal pairs → cutLines (glueLines pairs) = pairs := by
  constructor
  · intro text
    refine ⟨?_, isNormal_map_pair (Line.normal_ofText text)⟩
    rw [cutLines, glueLines_map_pair, Line.join_ofText]
  · intro pairs h
    obtain ⟨lines, hnormal, rfl⟩ := h.exists_lines
    rw [cutLines, glueLines_map_pair, Line.ofText_join hnormal]

/-- A body that ends in a carriage return before another one, an empty line and a text that goes on
behind the last newline. -/
theorem returns_before_newlines_are_told_apart :
    IsNormal [(points "a\r", points "\r\n"), ([], points "\n"), (points "\u2028b\r", [])] ∧
      cutLines (points "a\r\r\n\n\u2028b\r") =
        [(points "a\r", points "\r\n"), ([], points "\n"), (points "\u2028b\r", [])] := by
  have h : IsNormal
      [(points "a\r", points "\r\n"), ([], points "\n"), (points "\u2028b\r", [])] := by decide
  exact ⟨h, cutting_is_a_bijection_onto_the_normal_forms.2 _ h⟩

/-- A carriage return before the newline belongs to the ending. -/
example : ¬ IsNormal [(points "a\r", points "\n")] ∧
    cutLines (points "a\r\n") = [(points "a", points "\r\n")] := by decide

end ProtoRefresh.Rewrite
