-- Patterns that stand for a text. The pattern that an escaped text spells
-- accepts that text and nothing else, so a rule with it looks for the text
-- as it is.
import ProtoRefresh.Pattern.Matcher
import ProtoRefresh.Pattern.Reader
import ProtoRefresh.Rewrite.Rule

namespace ProtoRefresh.Pattern

open Text

/-! ## Reading an escaped text -/

/-- The token that an escaped character spells. -/
def Token.escaping (c : Char) : Token := if escape.isSpecial c then .escaped c else .plain c

/-- The pattern of one code point after the other. -/
def Node.literal (text : List CodePoint) : Node :=
  Node.ofList (text.map fun c => .one (CharSet.single c))

theorem Token.ofText_escape (text : List Char) :
    Token.ofText (ofChars (escape text)) = some (text.map Token.escaping) := by
  induction text with
  | nil => rfl
  | cons c rest ih =>
    unfold escape ofChars at ih ⊢
    rw [List.flatMap_cons, List.map_append, List.map_cons, Token.escaping]
    split
    · simp [Token.ofText, ih]
    · rename_i hplain
      have hc : c ≠ '\\' := by
        rintro rfl
        exact hplain (by decide)
      simp [Token.ofText, hc, ih]

/-- A special character after a backslash is read as itself. -/
theorem run_readEscape {c : Char} (h : escape.isSpecial c = true) (s : Reading) :
    (readEscape {} c).run s = .ok (({} : Flags).setOf [.one c.toNat] false, s) := by
  have hmem : c ∈ "()[]\x7b\x7d?*+-|^$\\.&~# \t\n\r\x0b\x0c".toList := by
    simpa [escape.isSpecial] using h
  simp only [String.reduceToList, List.mem_cons, List.not_mem_nil, or_false] at hmem
  rcases hmem with rfl | rfl | rfl | rfl | rfl | rfl | rfl | rfl | rfl | rfl | rfl | rfl | rfl | rfl |
    rfl | rfl | rfl | rfl | rfl | rfl | rfl | rfl | rfl | rfl <;> rfl

/-- The characters that open something in a pattern are special. -/
theorem ne_of_not_isSpecial {c : Char} (h : escape.isSpecial c ≠ true) :
    c ≠ '|' ∧ c ≠ ')' ∧ c ≠ '[' ∧ c ≠ '?' ∧ c ≠ '*' ∧ c ≠ '+' ∧ c ≠ '\x7b' ∧ c ≠ '.' ∧ c ≠ '^' ∧
      c ≠ '$' ∧ c ≠ '(' := by
  refine ⟨?_, ?_, ?_, ?_, ?_, ?_, ?_, ?_, ?_, ?_, ?_⟩ <;>
  · rintro rfl
    exact h (by decide)

/-- An escaped character is read as the pattern of that character. -/
theorem run_readSequence_escaping (c : Char) (fuel : Nat) (atStart top : Bool)
    (pieces : List Piece) (s : Reading) (rest : List Token) :
    (readSequence (fuel + 1) {} atStart top pieces).run { s with input := Token.escaping c :: rest } =
      (readSequence fuel {} atStart top (⟨.one (CharSet.single (.char c)), .item⟩ :: pieces)).run
        { s with input := rest } := by
  unfold Token.escaping
  split
  · rename_i hspecial
    have hread := run_readEscape hspecial { s with input := rest }
    simp only [readSequence, Read.peek, Read.take, StateT.run_bind, StateT.run_get, List.head?_cons,
      pure_bind, StateT.run_pure, StateT.run_set, List.tail_cons, hread]
    rfl
  · rename_i hplain
    obtain ⟨hbar, hclose, hset, hmaybe, hstar, hplus, hbrace, hdot, hstart, hend, hopen⟩ :=
      ne_of_not_isSpecial hplain
    simp [readSequence, Read.peek, Read.take, hset, hmaybe, hstar, hplus, hbrace, hdot, hstart, hend,
      hopen]
    rfl

theorem run_readSequence_escape (text : List Char) :
    ∀ (fuel : Nat) (atStart top : Bool) (pieces : List Piece) (s : Reading), text.length < fuel →
      (readSequence fuel {} atStart top pieces).run { s with input := text.map Token.escaping } =
        .ok (sequenceOf
          ((text.map fun c => ⟨.one (CharSet.single (.char c)), .item⟩).reverse ++ pieces),
          { s with input := [] }) := by
  induction text with
  | nil =>
    intro fuel atStart top pieces s hfuel
    obtain ⟨fuel, rfl⟩ := Nat.exists_eq_succ_of_ne_zero (Nat.ne_zero_of_lt hfuel)
    rfl
  | cons c rest ih =>
    intro fuel atStart top pieces s hfuel
    obtain ⟨fuel, rfl⟩ := Nat.exists_eq_succ_of_ne_zero (Nat.ne_zero_of_lt hfuel)
    rw [List.map_cons, run_readSequence_escaping, ih _ _ _ _ _ (Nat.lt_of_succ_lt_succ hfuel)]
    simp

/-- An escaped text spells the pattern of its characters. -/
theorem Node.ofText_escape (text : List Char) :
    Node.ofText (ofChars (escape text)) = .ok (Node.literal (ofChars text)) := by
  unfold Node.ofText
  rw [Token.ofText_escape]
  have hread := run_readSequence_escape text (4 * text.length + 3) true true []
    { input := text.map Token.escaping } (by omega)
  rw [List.append_nil] at hread
  have hall : (readAlternatives (4 * text.length + 4) {} true true).run
      { input := text.map Token.escaping } =
        .ok (sequenceOf (text.map fun c => ⟨.one (CharSet.single (.char c)), .item⟩).reverse,
          { input := [] }) := by
    simp only [readAlternatives, StateT.run_bind, Bool.and_self, hread]
    rfl
  simp only [List.length_map, hall]
  rw [sequenceOf, List.reverse_reverse, List.map_map, Node.literal, ofChars, List.map_map]
  rfl

/-! ## Matching a text -/

theorem Node.matcher_ofList_cons (line : List CodePoint) (node : Node) (rest : List Node)
    (place : Place)
    (next : Place → Option Place) :
    (Node.ofList (node :: rest)).matcher line place next =
      node.matcher line place fun p => (Node.ofList rest).matcher line p next := by
  cases rest with
  | nil => rfl
  | cons other rest => rfl

/-- The pattern of a text accepts where the text comes next, and nowhere else. -/
theorem Node.matcher_literal (line text : List CodePoint) :
    ∀ (place : Place) (next : Place → Option Place), (Node.literal text).matcher line place next =
      if text <+: place.rest then next (place.skip text.length) else none := by
  unfold literal
  induction text with
  | nil =>
    intro place next
    rw [if_pos List.nil_prefix]
    rfl
  | cons c text ih =>
    rintro ⟨before, rest, index, starts, ends⟩ next
    rw [List.map_cons, matcher_ofList_cons]
    cases rest with
    | nil =>
      rw [if_neg (by simp)]
      rfl
    | cons d rest =>
      have hone : ∀ follow : Place → Option Place,
          (Node.one (CharSet.single c)).matcher line ⟨before, d :: rest, index, starts, ends⟩ follow =
            if d = c then follow ⟨d :: before, rest, index + 1, starts, ends⟩ else none := by
        intro follow
        simp [Node.matcher, CharSet.has_single, Place.skip]
      rw [hone]
      by_cases hc : d = c
      · subst hc
        simp [ih, Place.skip, List.cons_prefix_cons]
      · rw [if_neg hc, if_neg]
        exact fun h => hc (List.cons_prefix_cons.1 h).1.symm

/-- The first match of the pattern of a text is the first occurrence of the text. -/
theorem Node.firstMatch_literal (text : List CodePoint) :
    (Node.literal text).firstMatch = Rewrite.find? text := by
  have haccepts : ∀ (line before rest : List CodePoint) (index : Nat),
      (Node.literal text).acceptsAt line ⟨before, rest, index, [], []⟩ = text.isPrefixOf rest := by
    intro line before rest index
    rw [Node.acceptsAt, matcher_literal, Bool.eq_iff_iff, List.isPrefixOf_iff_prefix]
    split
    · rename_i h
      exact iff_of_true rfl h
    · rename_i h
      exact iff_of_false nofun h
  have hsearch : ∀ (line rest before : List CodePoint) (index : Nat),
      Node.searchFrom ((Node.literal text).acceptsAt line) before rest index =
        Rewrite.findFrom text rest index := by
    intro line rest
    induction rest with
    | nil =>
      intro before index
      rw [Node.searchFrom, haccepts, Rewrite.findFrom]
      cases text <;> rfl
    | cons c rest ih =>
      intro before index
      rw [Node.searchFrom, haccepts, Rewrite.findFrom]
      split
      · rfl
      · exact ih _ _
  exact funext fun line => hsearch line line [] 0

end ProtoRefresh.Pattern

/-! ## Rules for a text -/

namespace ProtoRefresh.Rewrite

open Text

/-- A substitution for an escaped text is the rule for lines that hold the text. -/
theorem rule_escape (marker : String) (replacement : Option String) :
    (⟨ofChars (Pattern.escape marker.toList), replacement.map points⟩ : Substitution).rule =
      .ok (Rule.literal marker replacement) := by
  unfold Substitution.rule Rule.literal
  rw [Pattern.Node.ofText_escape, points, ← Pattern.Node.firstMatch_literal]
  rfl

end ProtoRefresh.Rewrite
