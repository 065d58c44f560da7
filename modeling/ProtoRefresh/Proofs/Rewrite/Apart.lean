-- Lines that are rewritten each by itself. A text that is cut behind a
-- newline is cut between two lines, so the rules see the same lines in its
-- two parts as in the whole. The cut may stand nowhere else: a carriage
-- return at the end of the first part would join a newline that starts the
-- second one.
import ProtoRefresh.Proofs.Rewrite.Passes

namespace ProtoRefresh.Rewrite

open Text

/-! ## Where a text may be cut -/

/-- A text that ends where a line ends. -/
def EndsLine (text : List CodePoint) : Prop := text = [] ∨ text.getLast? = some (.char '\n')

instance (text : List CodePoint) : Decidable (EndsLine text) :=
  inferInstanceAs (Decidable (text = [] ∨ text.getLast? = some (.char '\n')))

theorem EndsLine.of_append {first second : List CodePoint} (h : EndsLine (first ++ second)) :
    EndsLine second := by
  cases second with
  | nil => exact Or.inl rfl
  | cons c second =>
    rcases h with hnil | hlast
    · simp at hnil
    · rw [List.getLast?_append_of_ne_nil _ (by simp)] at hlast
      exact Or.inr hlast

namespace Line

theorem join_append (first second : List Line) :
    join (first ++ second) = join first ++ join second := List.flatMap_append

/-- Where a text ends with a line, all its lines have an ending. -/
theorem ended_of_endsLine {lines : List Line} (hn : Normal lines) (h : EndsLine (join lines)) :
    ∀ line ∈ lines, line.ending ≠ .none := by
  induction lines with
  | nil => exact fun line hl => absurd hl List.not_mem_nil
  | cons line rest ih =>
    obtain ⟨hs, hopen, hrest⟩ := hn
    intro other ho
    rcases List.mem_cons.1 ho with rfl | ho
    · intro he
      obtain ⟨hb, rfl⟩ := hopen he
      have hbody : join [other] = other.body := by simp [join, Line.text, he, Ending.text]
      rw [hbody] at h
      rcases h with hnil | hlast
      · exact hb hnil
      · exact hs.no_newline (List.mem_of_getLast? hlast)
    · have hj : join (line :: rest) = line.text ++ join rest := by simp [join]
      rw [hj] at h
      exact ih hrest h.of_append other ho

/-- Lines with an ending are cut off one after the other. -/
theorem ofText_join_append {lines : List Line} (hn : Normal lines)
    (hended : ∀ line ∈ lines, line.ending ≠ .none) (text : List CodePoint) :
    ofText (join lines ++ text) = lines ++ ofText text := by
  induction lines with
  | nil => rfl
  | cons line rest ih =>
    obtain ⟨hs, _, hrest⟩ := hn
    have hj : join (line :: rest) ++ text = line.text ++ (join rest ++ text) := by simp [join]
    rw [hj, ofText_line hs (hended line List.mem_cons_self),
      ih hrest fun other ho => hended other (List.mem_cons_of_mem line ho), List.cons_append]

/-- The lines of a text that is cut behind a line are the lines of its parts. -/
theorem ofText_append {first : List CodePoint} (h : EndsLine first) (second : List CodePoint) :
    ofText (first ++ second) = ofText first ++ ofText second := by
  have hended : ∀ line ∈ ofText first, line.ending ≠ .none :=
    ended_of_endsLine (normal_ofText first) (by rwa [join_ofText])
  calc ofText (first ++ second)
    _ = ofText (join (ofText first) ++ second) := by rw [join_ofText]
    _ = ofText first ++ ofText second := ofText_join_append (normal_ofText first) hended second

theorem Normal.of_append {first second : List Line} (h : Normal (first ++ second)) :
    Normal first ∧ Normal second := by
  induction first with
  | nil => exact ⟨trivial, h⟩
  | cons line rest ih =>
    obtain ⟨hs, hopen, hrest⟩ := h
    refine ⟨⟨hs, fun he => ⟨(hopen he).1, ?_⟩, (ih hrest).1⟩, (ih hrest).2⟩
    exact (List.append_eq_nil_iff.1 (hopen he).2).1

end Line

/-! ## The parts of a rewritten text -/

theorem rewriteText_append (rules : List Rule) {first : List CodePoint} (h : EndsLine first)
    (second : List CodePoint) :
    rewriteText rules (first ++ second) =
      rewriteText rules first ++ rewriteText rules second := by
  unfold rewriteText
  rw [Line.ofText_append h, List.filterMap_append, Line.join_append]

/-- Lines in normal form are what is rewritten of their text. -/
theorem rewriteText_join (rules : List Rule) {lines : List Line} (h : Line.Normal lines) :
    rewriteText rules (Line.join lines) = Line.join (lines.filterMap (Line.rewritten rules)) := by
  unfold rewriteText
  rw [Line.ofText_join h]
  rfl

theorem rewriteLine_of_unmatched {rules : List Rule} {line : List CodePoint}
    (h : ∀ rule ∈ rules, rule.firstMatch line = none) : rewriteLine rules line = some line := by
  induction rules with
  | nil => rfl
  | cons rule rest ih =>
    have hfirst : rule.apply line = some line := by
      unfold Rule.apply
      rw [h rule List.mem_cons_self]
    have hrest := ih fun other ho => h other (List.mem_cons_of_mem rule ho)
    unfold rewriteLine at hrest ⊢
    rw [List.foldlM_cons, hfirst]
    exact hrest

/-- Behind the end of a line the text is rewritten as if nothing were before it. So each line adds
to the rewritten text what it is rewritten to by itself, which is the line with its ending where no
rule matches it. -/
theorem lines_are_rewritten_each_by_itself (rules : List Rule) {first : List CodePoint}
    (h : EndsLine first) (second : List CodePoint) :
    rewriteText rules (first ++ second) = rewriteText rules first ++ rewriteText rules second ∧
    ∀ text before line after, Line.ofText text = before ++ line :: after →
      rewriteText rules text = rewriteText rules (Line.join before) ++
        rewriteText rules line.text ++ rewriteText rules (Line.join after) ∧
      ((∀ rule ∈ rules, rule.firstMatch line.body = none) →
        rewriteText rules line.text = line.text) := by
  refine ⟨rewriteText_append rules h second, ?_⟩
  intro text before line after hlines
  have hnormal : Line.Normal (before ++ ([line] ++ after)) := hlines ▸ Line.normal_ofText text
  obtain ⟨hbefore, hbehind⟩ := hnormal.of_append
  obtain ⟨hline, hafter⟩ := hbehind.of_append
  have hone : Line.join [line] = line.text := by simp [Line.join]
  have htext : text = Line.join (before ++ ([line] ++ after)) := by
    rw [← Line.join_ofText text, hlines]
    rfl
  constructor
  · rw [htext, rewriteText_join rules hnormal, rewriteText_join rules hbefore, ← hone,
      rewriteText_join rules hline, rewriteText_join rules hafter, List.filterMap_append,
      List.filterMap_append, Line.join_append, Line.join_append, List.append_assoc]
  · intro hunmatched
    have hkept : line.rewritten rules = some line := by
      unfold Line.rewritten
      rw [rewriteLine_of_unmatched hunmatched]
      rfl
    rw [← hone, rewriteText_join rules hline, List.filterMap_cons_some hkept,
      List.filterMap_nil]

/-- A text of which the first part ends with a carriage return and a newline and the second one
starts with them. -/
theorem the_lines_of_both_parts_are_rewritten_apart :
    EndsLine (points "// @@protoc_insertion_point\r\na\r\n") ∧
      rewriteText serdeRules (points "// @@protoc_insertion_point\r\na\r\n" ++ points "\r\nb\n") =
        rewriteText serdeRules (points "// @@protoc_insertion_point\r\na\r\n") ++
          rewriteText serdeRules (points "\r\nb\n") ∧
      rewriteText serdeRules (points "// @@protoc_insertion_point\r\na\r\n") = points "a\r\n" := by
  have h : EndsLine (points "// @@protoc_insertion_point\r\na\r\n") := by decide
  exact ⟨h, (lines_are_rewritten_each_by_itself serdeRules h _).1, by decide +kernel⟩

/-- A carriage return at the end of the first part is none of its line in the whole text. -/
example :
    rewriteText [Rule.literal "\r" none] (points "a\r" ++ points "\nb") = points "a\r\nb" ∧
      rewriteText [Rule.literal "\r" none] (points "a\r") = [] := by decide +kernel

end ProtoRefresh.Rewrite
