-- Texts with the line ends of one system or of the other. The rules see
-- the body of a line only, which is the same whether a newline alone ends
-- the line or a carriage return with it, and a kept line keeps its ending.
-- So converting the line ends and rewriting can change places.
import ProtoRefresh.Proofs.Rewrite.Passes

namespace ProtoRefresh.Rewrite

open Text

/-! ## Conversion -/

/-- A text with a carriage return before each newline. -/
def addReturns (text : List CodePoint) : List CodePoint :=
  text.flatMap fun c => if c = .char '\n' then [.char '\r', .char '\n'] else [c]

theorem addReturns_append (first second : List CodePoint) :
    addReturns (first ++ second) = addReturns first ++ addReturns second := List.flatMap_append

theorem addReturns_of_no_newline {text : List CodePoint} (h : .char '\n' ∉ text) :
    addReturns text = text := by
  induction text with
  | nil => rfl
  | cons c text ih =>
    simp only [List.mem_cons, not_or] at h
    have hrest : (text.flatMap fun c =>
        if c = .char '\n' then [.char '\r', .char '\n'] else [c]) = text := ih h.2
    rw [addReturns, List.flatMap_cons, if_neg (Ne.symm h.1), hrest, List.singleton_append]

namespace Line

/-- A line with a carriage return before the newline that ends it. -/
def withReturn (line : Line) : Line :=
  ⟨line.body, if line.ending = .newline then .carriageReturn else line.ending⟩

/-- A line that at most a newline alone ends. -/
structure Bare (line : Line) : Prop where
  no_newline : .char '\n' ∉ line.body
  no_return : line.ending ≠ .carriageReturn

theorem Bare.addReturns_text {line : Line} (h : line.Bare) :
    addReturns line.text = line.withReturn.text := by
  obtain ⟨body, ending⟩ := line
  rw [Line.text, addReturns_append, addReturns_of_no_newline h.no_newline]
  cases ending with
  | newline => rfl
  | carriageReturn => exact absurd rfl h.no_return
  | none => rfl

theorem addReturns_join {lines : List Line} (h : ∀ line ∈ lines, line.Bare) :
    addReturns (join lines) = join (lines.map withReturn) := by
  induction lines with
  | nil => rfl
  | cons line rest ih =>
    have hline := (h line List.mem_cons_self).addReturns_text
    have hrest := ih fun other ho => h other (List.mem_cons_of_mem line ho)
    unfold join at hrest ⊢
    rw [List.flatMap_cons, addReturns_append, hline, hrest, List.map_cons, List.flatMap_cons]

/-! ## The lines of a converted text -/

theorem bare_of_no_return {text : List CodePoint} (h : .char '\r' ∉ text) :
    ∀ line ∈ ofText text, line.Bare := by
  intro line hl
  refine ⟨((normal_ofText text).sound line hl).no_newline, fun he => h ?_⟩
  rw [← join_ofText text]
  exact List.mem_flatMap.2 ⟨line, hl, by simp [Line.text, he, Ending.text]⟩

theorem Sound.withReturn {line : Line} (h : line.Sound) : line.withReturn.Sound := by
  refine ⟨h.no_newline, fun he => ?_⟩
  unfold Line.withReturn at he
  split at he
  · cases he
  · contradiction

theorem Normal.map_withReturn {lines : List Line} (h : Normal lines) :
    Normal (lines.map withReturn) := by
  induction lines with
  | nil => trivial
  | cons line rest ih =>
    obtain ⟨hs, hopen, hrest⟩ := h
    refine ⟨hs.withReturn, fun he => ?_, ih hrest⟩
    have hnone : line.ending = .none := by
      unfold Line.withReturn at he
      split at he
      · cases he
      · exact he
    obtain ⟨hb, rfl⟩ := hopen hnone
    exact ⟨hb, rfl⟩

/-- The lines of a converted text are the converted lines of the text. -/
theorem ofText_addReturns {text : List CodePoint} (h : .char '\r' ∉ text) :
    ofText (addReturns text) = (ofText text).map withReturn := by
  calc ofText (addReturns text)
    _ = ofText (addReturns (join (ofText text))) := by rw [join_ofText]
    _ = ofText (join ((ofText text).map withReturn)) := by rw [addReturns_join (bare_of_no_return h)]
    _ = (ofText text).map withReturn := ofText_join (normal_ofText text).map_withReturn

/-! ## Rewritten lines -/

/-- A line is rewritten alike with either ending. -/
theorem rewritten_withReturn (rules : List Rule) (line : Line) :
    line.withReturn.rewritten rules = (line.rewritten rules).map withReturn := by
  unfold rewritten
  rw [Option.map_map]
  rfl

end Line

/-- A rule puts no newline into a line. -/
def Rule.KeepsNewlinesOut (rule : Rule) : Prop := ∀ piece ∈ rule.replacement, .char '\n' ∉ piece

instance (rule : Rule) : Decidable rule.KeepsNewlinesOut :=
  inferInstanceAs (Decidable (∀ piece ∈ rule.replacement, .char '\n' ∉ piece))

theorem Rule.KeepsNewlinesOut.apply {rule : Rule} (h : rule.KeepsNewlinesOut)
    {line body : List CodePoint} (hline : .char '\n' ∉ line) (hbody : rule.apply line = some body) :
    .char '\n' ∉ body := by
  unfold Rule.apply at hbody
  split at hbody
  · obtain rfl := Option.some.inj hbody
    exact hline
  · rename_i start _
    obtain ⟨piece, hpiece, rfl⟩ := Option.map_eq_some_iff.1 hbody
    rw [List.mem_append, not_or]
    exact ⟨fun hn => hline (List.mem_of_mem_take hn), h piece hpiece⟩

theorem Line.Bare.rewritten {rules : List Rule} (h : ∀ rule ∈ rules, rule.KeepsNewlinesOut)
    {line new : Line} (hline : line.Bare) (hnew : line.rewritten rules = some new) : new.Bare := by
  obtain ⟨body, hbody, rfl⟩ := Option.map_eq_some_iff.1 hnew
  have hkeeps : ∀ rule ∈ rules, ∀ old new : List CodePoint, .char '\n' ∉ old →
      rule.apply old = some new → .char '\n' ∉ new :=
    fun rule hr _ _ hold hnew => (h rule hr).apply hold hnew
  exact ⟨rewriteLine_keeps hkeeps hline.no_newline hbody, hline.no_return⟩

/-- A text whose lines end with newlines alone may be converted before it is rewritten or
afterwards, as long as no rule puts a newline into a line. -/
theorem line_ends_may_be_converted_before_or_after {rules : List Rule} {text : List CodePoint}
    (hreturn : .char '\r' ∉ text) (h : ∀ rule ∈ rules, rule.KeepsNewlinesOut) :
    rewriteText rules (addReturns text) = addReturns (rewriteText rules text) := by
  have hlines : ∀ line ∈ (Line.ofText text).filterMap (Line.rewritten rules), line.Bare := by
    intro line hl
    obtain ⟨old, hold, hnew⟩ := List.mem_filterMap.1 hl
    exact (Line.bare_of_no_return hreturn old hold).rewritten h hnew
  calc rewriteText rules (addReturns text)
    _ = Line.join ((Line.ofText (addReturns text)).filterMap (Line.rewritten rules)) := rfl
    _ = Line.join (((Line.ofText text).map Line.withReturn).filterMap (Line.rewritten rules)) := by
        rw [Line.ofText_addReturns hreturn]
    _ = Line.join (((Line.ofText text).filterMap (Line.rewritten rules)).map Line.withReturn) := by
        rw [List.filterMap_map, List.map_filterMap]
        congr 2
        funext line
        exact line.rewritten_withReturn rules
    _ = addReturns (rewriteText rules text) := (Line.addReturns_join hlines).symm

/-- A line that is cut, one that goes and one without an end; the rules put a carriage return into
the first of them. -/
theorem marked_lines_are_converted_before_or_after :
    .char '\r' ∉ points "a // @@protoc_insertion_point(message:a)\n@@protoc_insertion_point\nb" ∧
      (∀ rule ∈ serdeRules ++ [Rule.literal "[cfg" (some "\r")], rule.KeepsNewlinesOut) ∧
      rewriteText (serdeRules ++ [Rule.literal "[cfg" (some "\r")]) (addReturns
          (points "a // @@protoc_insertion_point(message:a)\n@@protoc_insertion_point\nb")) =
        addReturns (rewriteText (serdeRules ++ [Rule.literal "[cfg" (some "\r")])
          (points "a // @@protoc_insertion_point(message:a)\n@@protoc_insertion_point\nb")) ∧
      rewriteText (serdeRules ++ [Rule.literal "[cfg" (some "\r")]) (addReturns
          (points "a // @@protoc_insertion_point(message:a)\n@@protoc_insertion_point\nb")) =
        points "a #\r\r\nb" := by
  have hreturn : .char '\r' ∉
      points "a // @@protoc_insertion_point(message:a)\n@@protoc_insertion_point\nb" := by decide
  have h : ∀ rule ∈ serdeRules ++ [Rule.literal "[cfg" (some "\r")], rule.KeepsNewlinesOut := by
    decide
  exact ⟨hreturn, h, line_ends_may_be_converted_before_or_after hreturn h, by decide +kernel⟩

end ProtoRefresh.Rewrite
