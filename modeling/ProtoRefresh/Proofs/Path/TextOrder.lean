-- The order of texts and of the paths that they spell. Texts that are
-- spelled alike have the same pieces but for some names; where each of them
-- ends with a name, their order is that of the texts of their paths.
import Mathlib.Data.List.Forall2
import ProtoRefresh.Proofs.Path.Spelling

namespace ProtoRefresh.Path

/-! ## Spelled alike -/

/-- Two pieces are equal, or both of them are parts of their paths. -/
def PieceAlike (piece other : List Char) : Prop :=
  piece = other ∨ isPart piece = true ∧ isPart other = true

/-- Two texts are spelled alike: their pieces are, one after the other. -/
def Alike (text other : List Char) : Prop :=
  List.Forall₂ PieceAlike (splitSlash text) (splitSlash other)

/-- The last piece of a text is a part of its path. -/
def EndsInPart (text : List Char) : Prop :=
  ∀ piece, (splitSlash text).getLast? = some piece → isPart piece = true

theorem Alike.refl (text : List Char) : Alike text text :=
  List.forall₂_same.2 fun _ _ => Or.inl rfl

theorem Alike.slash {text other rest more : List Char} (h : Alike text other)
    (hrest : Alike rest more) : Alike (text ++ '/' :: rest) (other ++ '/' :: more) := by
  unfold Alike
  rw [splitSlash_slash, splitSlash_slash]
  exact List.rel_append h hrest

theorem PieceAlike.alike {piece other : List Char} (h : PieceAlike piece other)
    (hpiece : '/' ∉ piece) (hother : '/' ∉ other) : Alike piece other := by
  unfold Alike
  rw [splitSlash_of_notMem hpiece, splitSlash_of_notMem hother]
  exact .cons h .nil

/-! ## Pieces in order -/

theorem lt_of_append_lt {front rest more : List Char} (h : front ++ rest < front ++ more) :
    rest < more := by
  induction front with
  | nil => exact h
  | cons c front ih => exact ih (List.cons_lt_cons_self.1 h)

/-- Two different pieces decide the order, whatever comes after them. -/
theorem append_slash_lt_iff {piece other : List Char} (hne : piece ≠ other) (hpiece : '/' ∉ piece)
    (hother : '/' ∉ other) (rest more rest' more' : List Char) :
    piece ++ '/' :: rest < other ++ '/' :: more ↔
      piece ++ '/' :: rest' < other ++ '/' :: more' := by
  induction piece generalizing other with
  | nil =>
    cases other with
    | nil => exact absurd rfl hne
    | cons d other =>
      have hd : '/' ≠ d := List.ne_of_not_mem_cons hother
      simp [List.cons_lt_cons_iff, hd]
  | cons c piece ih =>
    have hc : c ≠ '/' := (List.ne_of_not_mem_cons hpiece).symm
    cases other with
    | nil => simp [List.cons_lt_cons_iff, hc]
    | cons d other =>
      simp only [List.cons_append, List.cons_lt_cons_iff]
      refine or_congr_right (and_congr_right fun hcd => ih ?_ ?_ ?_)
      · rintro rfl
        exact hne (by rw [hcd])
      · exact List.not_mem_of_not_mem_cons hpiece
      · exact List.not_mem_of_not_mem_cons hother

/-- Pieces of a text that ends with a part. -/
structure Pieces (pieces : List (List Char)) : Prop where
  noSlash : ∀ piece ∈ pieces, '/' ∉ piece
  last : ∀ piece, pieces.getLast? = some piece → isPart piece = true

theorem Pieces.tail {piece next : List Char} {rest : List (List Char)}
    (h : Pieces (piece :: next :: rest)) : Pieces (next :: rest) where
  noSlash := fun other ho => h.noSlash other (List.mem_cons_of_mem _ ho)
  last := fun other ho => h.last other (by rw [List.getLast?_cons_cons, ho])

theorem Pieces.filter_ne_nil {piece : List Char} {rest : List (List Char)}
    (h : Pieces (piece :: rest)) : (piece :: rest).filter isPart ≠ [] := by
  have hlast := List.getLast?_eq_some_getLast (List.cons_ne_nil piece rest)
  exact List.ne_nil_of_mem (List.mem_filter.2 ⟨List.getLast_mem _, h.last _ hlast⟩)

theorem Pieces.of_endsInPart {text : List Char} (h : EndsInPart text) :
    Pieces (splitSlash text) :=
  ⟨slash_notMem_piece text, h⟩

/-- Leaving out the pieces that are no parts keeps the order. -/
theorem filter_lt_of_lt {pieces others : List (List Char)}
    (h : List.Forall₂ PieceAlike pieces others) (hpieces : Pieces pieces) (hothers : Pieces others)
    (hlt : ['/'].intercalate pieces < ['/'].intercalate others) :
    ['/'].intercalate (pieces.filter isPart) < ['/'].intercalate (others.filter isPart) := by
  induction h with
  | nil => exact absurd hlt (List.lt_irrefl _)
  | @cons piece other rest more halike hrest ih =>
    cases hrest with
    | nil =>
      rwa [List.filter_cons_of_pos (hpieces.last piece rfl),
        List.filter_cons_of_pos (hothers.last other rfl)]
    | @cons next last rest more hnext hrest =>
      rw [List.intercalate_cons_cons, List.intercalate_cons_cons, List.append_assoc,
        List.append_assoc] at hlt
      by_cases heq : piece = other
      · subst heq
        have hfiltered := ih hpieces.tail hothers.tail (lt_of_append_lt (lt_of_append_lt hlt))
        by_cases hpart : isPart piece = true
        · rw [List.filter_cons_of_pos hpart, List.filter_cons_of_pos hpart,
            List.intercalate_cons_of_ne_nil hpieces.tail.filter_ne_nil,
            List.intercalate_cons_of_ne_nil hothers.tail.filter_ne_nil]
          exact List.append_left_lt hfiltered
        · rwa [List.filter_cons_of_neg hpart, List.filter_cons_of_neg hpart]
      · obtain ⟨hpart, hother⟩ := halike.resolve_left heq
        rw [List.filter_cons_of_pos hpart, List.filter_cons_of_pos hother,
          List.intercalate_cons_of_ne_nil hpieces.tail.filter_ne_nil,
          List.intercalate_cons_of_ne_nil hothers.tail.filter_ne_nil, List.append_assoc,
          List.append_assoc]
        exact (append_slash_lt_iff heq (hpieces.noSlash _ List.mem_cons_self)
          (hothers.noSlash _ List.mem_cons_self) _ _ _ _).1 hlt

theorem takeWhile_slash_of_isPart {piece : List Char} (hpart : isPart piece = true)
    (hslash : '/' ∉ piece) (rest : List Char) : (piece ++ rest).takeWhile (· == '/') = [] := by
  cases piece with
  | nil => cases hpart
  | cons c piece =>
    exact takeWhile_slash_eq_nil fun h => List.ne_of_not_mem_cons hslash (Option.some.inj h).symm

/-- Pieces alike have equally many slashes before them. -/
theorem takeWhile_slash_eq {pieces others : List (List Char)}
    (h : List.Forall₂ PieceAlike pieces others) (hpieces : Pieces pieces)
    (hothers : Pieces others) :
    (['/'].intercalate pieces).takeWhile (· == '/') =
      (['/'].intercalate others).takeWhile (· == '/') := by
  induction h with
  | nil => rfl
  | @cons piece other rest more halike hrest ih =>
    have hslash := hpieces.noSlash piece List.mem_cons_self
    have hslash' := hothers.noSlash other List.mem_cons_self
    cases hrest with
    | nil =>
      rw [List.intercalate_singleton, List.intercalate_singleton, ← List.append_nil piece,
        ← List.append_nil other, takeWhile_slash_of_isPart (hpieces.last piece rfl) hslash,
        takeWhile_slash_of_isPart (hothers.last other rfl) hslash']
    | @cons next last rest more hnext hrest =>
      rw [List.intercalate_cons_cons, List.intercalate_cons_cons]
      by_cases heq : piece = other
      · rw [heq, List.takeWhile_append, ih hpieces.tail hothers.tail, ← List.takeWhile_append]
      · obtain ⟨hpart, hother⟩ := halike.resolve_left heq
        rw [List.append_assoc, List.append_assoc, takeWhile_slash_of_isPart hpart hslash,
          takeWhile_slash_of_isPart hother hslash']

/-! ## Texts in order -/

theorem toList_text_ofText {s : String} (h : EndsInPart s.toList) : (ofText s).text.toList =
    List.replicate (leadingSlashes s.toList) '/' ++
      ['/'].intercalate ((splitSlash s.toList).filter isPart) := by
  have hpieces := Pieces.of_endsInPart h
  have hne : (splitSlash s.toList).filter isPart ≠ [] := by
    cases hsplit : splitSlash s.toList with
    | nil => exact absurd hsplit (splitSlash_ne_nil _)
    | cons piece rest =>
      rw [hsplit] at hpieces
      exact hpieces.filter_ne_nil
  rw [toList_text]
  · unfold ofText ofChars
    simp [List.map_map]
  · intro hhere
    have hparts := congrArg parts hhere
    unfold ofText ofChars at hparts
    exact hne (List.map_eq_nil_iff.1 hparts)

/-- Of texts that are spelled alike, the one that comes first spells the path that comes first. -/
theorem text_lt_of_lt {s t : String} (h : Alike s.toList t.toList) (hs : EndsInPart s.toList)
    (ht : EndsInPart t.toList) (hlt : s < t) : (ofText s).text < (ofText t).text := by
  have hpieces := Pieces.of_endsInPart hs
  have hothers := Pieces.of_endsInPart ht
  have hslashes := takeWhile_slash_eq h hpieces hothers
  have hfiltered := filter_lt_of_lt h hpieces hothers (by
    rwa [intercalate_splitSlash, intercalate_splitSlash])
  rw [intercalate_splitSlash, intercalate_splitSlash] at hslashes
  have hleading : leadingSlashes s.toList = leadingSlashes t.toList := by
    unfold leadingSlashes
    rw [hslashes]
  change (ofText s).text.toList < (ofText t).text.toList
  rw [toList_text_ofText hs, toList_text_ofText ht, hleading]
  exact List.append_left_lt hfiltered

end ProtoRefresh.Path
