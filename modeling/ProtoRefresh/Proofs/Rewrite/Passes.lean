-- Rules in one pass over a text, or in two passes. As long as the rules of
-- the first pass put nothing into a line that could be taken for its end,
-- the lines that they leave are the lines of the text that they leave, so
-- a second pass starts on each line where one pass would go on.
import ProtoRefresh.Proofs.Rewrite.Lines
import ProtoRefresh.Rewrite.Marker

namespace ProtoRefresh.Rewrite

open Text

/-! ## Rules that stay in their line -/

/-- What a rule puts into a line is a piece of a line: it is not empty and holds no line end. -/
def Rule.StaysInLine (rule : Rule) : Prop :=
  ∀ piece ∈ rule.replacement, piece ≠ [] ∧ .char '\r' ∉ piece ∧ .char '\n' ∉ piece

instance (rule : Rule) : Decidable rule.StaysInLine :=
  inferInstanceAs (Decidable (∀ piece ∈ rule.replacement,
    piece ≠ [] ∧ .char '\r' ∉ piece ∧ .char '\n' ∉ piece))

/-- One rule leaves a line that ends where the old one has ended. -/
theorem Rule.StaysInLine.sound {rule : Rule} (h : rule.StaysInLine) {line : Line}
    (hs : line.Sound) {body : List CodePoint} (hbody : rule.apply line.body = some body) :
    Line.Sound ⟨body, line.ending⟩ ∧ (line.body ≠ [] → body ≠ []) := by
  unfold Rule.apply at hbody
  split at hbody
  · obtain rfl := Option.some.inj hbody
    exact ⟨hs, id⟩
  · rename_i start _
    obtain ⟨piece, hpiece, rfl⟩ := Option.map_eq_some_iff.1 hbody
    obtain ⟨hne, hreturn, hnewline⟩ := h piece hpiece
    exact ⟨hs.cut start hne hreturn hnewline, fun _ => by simp [hne]⟩

/-- What each rule keeps of a line is kept by all of them in order. -/
theorem rewriteLine_keeps {rules : List Rule} {Kept : List CodePoint → Prop}
    (h : ∀ rule ∈ rules, ∀ line body, Kept line → rule.apply line = some body → Kept body)
    {line body : List CodePoint} (hline : Kept line) (hbody : rewriteLine rules line = some body) :
    Kept body := by
  induction rules generalizing line with
  | nil =>
    obtain rfl := Option.some.inj hbody
    exact hline
  | cons rule rest ih =>
    unfold rewriteLine at hbody
    rw [List.foldlM_cons] at hbody
    obtain ⟨middle, hfirst, hrest⟩ := Option.bind_eq_some_iff.1 hbody
    have hmiddle : Kept middle := h rule List.mem_cons_self line middle hline hfirst
    exact ih (fun other ho => h other (List.mem_cons_of_mem rule ho)) hmiddle hrest

/-- All rules in order leave a line that ends where the old one has ended. -/
theorem sound_rewriteLine {rules : List Rule} (h : ∀ rule ∈ rules, rule.StaysInLine)
    {line : Line} (hs : line.Sound) {body : List CodePoint}
    (hbody : rewriteLine rules line.body = some body) :
    Line.Sound ⟨body, line.ending⟩ ∧ (line.body ≠ [] → body ≠ []) := by
  have hkeeps : ∀ rule ∈ rules, ∀ old new : List CodePoint,
      (Line.Sound ⟨old, line.ending⟩ ∧ (line.body ≠ [] → old ≠ [])) → rule.apply old = some new →
        Line.Sound ⟨new, line.ending⟩ ∧ (line.body ≠ [] → new ≠ []) := by
    rintro rule hr old new ⟨hold, hsome⟩ hnew
    obtain ⟨hsound, hne⟩ := (h rule hr).sound hold hnew
    exact ⟨hsound, fun hbody => hne (hsome hbody)⟩
  exact rewriteLine_keeps hkeeps ⟨hs, id⟩ hbody

/-! ## Passes -/

/-- The line after all rules, with the ending that it has had. -/
def Line.rewritten (rules : List Rule) (line : Line) : Option Line :=
  (rewriteLine rules line.body).map fun body => ⟨body, line.ending⟩

/-- A line goes through some rules and then through others. -/
theorem Line.rewritten_append (first second : List Rule) (line : Line) :
    line.rewritten (first ++ second) = (line.rewritten first).bind (Line.rewritten second) := by
  unfold rewritten rewriteLine
  rw [List.foldlM_append]
  cases List.foldlM (fun line rule => rule.apply line) line.body first with
  | none => rfl
  | some body => rfl

/-- The lines of a rewritten text are the rewritten lines of the text. -/
theorem ofText_rewriteText {rules : List Rule} (h : ∀ rule ∈ rules, rule.StaysInLine)
    (text : List CodePoint) :
    Line.ofText (rewriteText rules text) = (Line.ofText text).filterMap (Line.rewritten rules) :=
  Line.ofText_join <| (Line.normal_ofText text).filterMap fun _ hs _ hbody =>
    sound_rewriteLine h hs hbody

/-- Rules that are run over each line in one pass give the text that they give in two passes. -/
theorem one_pass_is_two_passes (text : List CodePoint) {first : List Rule} (second : List Rule)
    (h : ∀ rule ∈ first, rule.StaysInLine) :
    rewriteText (first ++ second) text = rewriteText second (rewriteText first text) := calc
  rewriteText (first ++ second) text
    = Line.join ((Line.ofText text).filterMap (Line.rewritten (first ++ second))) := rfl
  _ = Line.join (((Line.ofText text).filterMap (Line.rewritten first)).filterMap
        (Line.rewritten second)) := by
      rw [List.filterMap_filterMap]
      congr 2
      funext line
      exact line.rewritten_append first second
  _ = Line.join ((Line.ofText (rewriteText first text)).filterMap (Line.rewritten second)) := by
      rw [ofText_rewriteText h]

/-- The rules for the markers, and then one that hides what they have put in. The last line goes in
the first pass, and the line before it has a carriage return to its end. -/
theorem markers_go_in_a_pass_of_their_own :
    (∀ rule ∈ serdeRules, rule.StaysInLine) ∧
      rewriteText (serdeRules ++ [Rule.literal "[cfg" (some "\n")])
          (points "a // @@protoc_insertion_point(message:a)\r\n\r\r\n// @@protoc_insertion_point") =
        rewriteText [Rule.literal "[cfg" (some "\n")] (rewriteText serdeRules
          (points "a // @@protoc_insertion_point(message:a)\r\n\r\r\n// @@protoc_insertion_point")) ∧
      rewriteText (serdeRules ++ [Rule.literal "[cfg" (some "\n")])
          (points "a // @@protoc_insertion_point(message:a)\r\n\r\r\n// @@protoc_insertion_point") =
        points "a #\n\r\n\r\r\n" := by
  have h : ∀ rule ∈ serdeRules, rule.StaysInLine := by decide
  exact ⟨h, one_pass_is_two_passes _ _ h, by decide +kernel⟩

end ProtoRefresh.Rewrite
