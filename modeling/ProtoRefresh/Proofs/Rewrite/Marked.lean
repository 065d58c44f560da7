-- Which texts the rules for the markers change. No marker is left in a
-- rewritten text, and a text without one stays as it is, so the texts that
-- change are those with a marker.
import ProtoRefresh.Plan.Crate
import ProtoRefresh.Proofs.Pattern.Literal
import ProtoRefresh.Proofs.Rewrite.Leftmost

namespace ProtoRefresh

namespace Rewrite

open Text

/-- A text that holds the word of the markers. -/
def Marked (text : List CodePoint) : Prop := points insertionPoint <:+: text

instance (text : List CodePoint) : Decidable (Marked text) := inferInstanceAs (Decidable (_ <:+: _))

/-- The rules leave no marker. -/
theorem not_marked_rewriteText (text : List CodePoint) :
    ¬ Marked (rewriteText serdeRules text) := not_infix_rewriteText_serdeRules text

/-- The rules keep a text without markers. -/
theorem rewriteText_of_not_marked {text : List CodePoint} (h : ¬ Marked text) :
    rewriteText serdeRules text = text := by
  have hlines : ∀ line ∈ Line.ofText text, leftmostRule line.body = some line.body := by
    intro line hl
    have hnone : find? (points insertionPoint) line.body = none := by
      rw [find?_eq_none_iff point_ne_nil]
      intro hpoint
      obtain ⟨before, after, hsplit⟩ := List.append_of_mem hl
      have hbody : line.body <:+: text := by
        rw [← Line.join_ofText text, hsplit]
        exact ⟨Line.join before, line.ending.text ++ Line.join after,
          by simp [Line.join, Line.text]⟩
      exact h (hpoint.trans hbody)
    rw [leftmostRule, hnone]
  have hkept : (Line.ofText text).filterMap (fun line =>
      (leftmostRule line.body).map fun body => (⟨body, line.ending⟩ : Line)) =
        (Line.ofText text).filterMap some := by
    refine List.filterMap_congr fun line hl => ?_
    rw [hlines line hl]
    rfl
  rw [rewriteText_serdeRules, hkept, List.filterMap_some, Line.join_ofText]

/-- The rules change a text exactly if it has a marker. -/
theorem rewriteText_ne_iff {text : List CodePoint} :
    rewriteText serdeRules text ≠ text ↔ Marked text := by
  constructor
  · intro hne
    by_contra hno
    exact hne (rewriteText_of_not_marked hno)
  · intro hmarked heq
    exact not_marked_rewriteText text (heq.symm ▸ hmarked)

end Rewrite

/-- The plan for the crate has the rules for the markers. -/
theorem Plan.rules_ofCrate (root : Path) : (ofCrate root).rules = .ok Rewrite.serdeRules := by
  have hrules : ∀ markers : List (String × Option String),
      (markers.map fun marker => (⟨Text.ofChars (Pattern.escape marker.1.toList),
        marker.2.map Text.points⟩ : Rewrite.Substitution)).mapM
          (fun substitution => substitution.rule) =
        .ok (markers.map fun marker => Rewrite.Rule.literal marker.1 marker.2) := by
    intro markers
    induction markers with
    | nil => rfl
    | cons marker rest ih =>
      rw [List.map_cons, List.mapM_cons, ih, Rewrite.rule_escape]
      rfl
  exact hrules Rewrite.serdeMarkers

end ProtoRefresh
