-- The paths that texts spell. Their parts are what stands between slashes,
-- so each of them is a proper name or a double dot; and the text of a path
-- spells that path.
import ProtoRefresh.Proofs.FileTree.Changes

namespace ProtoRefresh.Path

/-! ## Pieces between slashes -/

theorem splitSlash_ne_nil (text : List Char) : splitSlash text ≠ [] := by
  fun_induction splitSlash text with
  | case1 => simp
  | case2 rest ih => simp
  | case3 c rest hc hnil ih => simp
  | case4 c rest hc piece pieces hrest ih => simp

theorem slash_notMem_piece (text : List Char) : ∀ piece ∈ splitSlash text, '/' ∉ piece := by
  fun_induction splitSlash text with
  | case1 => simp
  | case2 rest ih => simpa using ih
  | case3 c rest hc hnil ih => exact absurd hnil (splitSlash_ne_nil rest)
  | case4 c rest hc piece pieces hrest ih =>
    rw [hrest] at ih
    intro other ho
    rcases List.mem_cons.1 ho with rfl | ho
    · intro hmem
      rcases List.mem_cons.1 hmem with heq | hmem
      · exact hc heq.symm
      · exact ih piece List.mem_cons_self hmem
    · exact ih other (List.mem_cons_of_mem _ ho)

theorem splitSlash_of_notMem {text : List Char} (h : '/' ∉ text) : splitSlash text = [text] := by
  fun_induction splitSlash text with
  | case1 => rfl
  | case2 rest ih => simp at h
  | case3 c rest hc hnil ih => exact absurd hnil (splitSlash_ne_nil rest)
  | case4 c rest hc piece pieces hrest ih =>
    have hone := ih (List.not_mem_of_not_mem_cons h)
    rw [hrest] at hone
    obtain ⟨rfl, rfl⟩ := List.cons.inj hone
    rfl

/-- The pieces of two texts with a slash between them. -/
theorem splitSlash_slash (text rest : List Char) :
    splitSlash (text ++ '/' :: rest) = splitSlash text ++ splitSlash rest := by
  fun_induction splitSlash text with
  | case1 => rfl
  | case2 text ih => rw [List.cons_append, splitSlash, ih, List.cons_append]
  | case3 c text hc hnil ih => exact absurd hnil (splitSlash_ne_nil text)
  | case4 c text hc piece pieces htext ih =>
    rw [htext] at ih
    rw [List.cons_append, splitSlash.eq_3 _ _ hc, ih]
    rfl

theorem splitSlash_append {piece : List Char} (h : '/' ∉ piece) (rest : List Char) :
    splitSlash (piece ++ '/' :: rest) = piece :: splitSlash rest := by
  rw [splitSlash_slash, splitSlash_of_notMem h, List.singleton_append]

/-- A text is its pieces with slashes between them. -/
theorem intercalate_splitSlash (text : List Char) : ['/'].intercalate (splitSlash text) = text := by
  fun_induction splitSlash text with
  | case1 => rfl
  | case2 text ih =>
    rw [List.intercalate_cons_of_ne_nil (splitSlash_ne_nil text), ih]
    rfl
  | case3 c text hc hnil ih => exact absurd hnil (splitSlash_ne_nil text)
  | case4 c text hc piece pieces htext ih =>
    rw [htext] at ih
    rw [← ih]
    cases pieces with
    | nil => rfl
    | cons next pieces => rw [List.intercalate_cons_cons, List.intercalate_cons_cons]; rfl

/-- Pieces with slashes between them are the pieces of that text. -/
theorem splitSlash_intercalate {pieces : List (List Char)} (hne : pieces ≠ [])
    (h : ∀ piece ∈ pieces, '/' ∉ piece) : splitSlash (['/'].intercalate pieces) = pieces := by
  induction pieces with
  | nil => exact absurd rfl hne
  | cons piece rest ih =>
    have hpiece := h piece List.mem_cons_self
    cases rest with
    | nil => simpa [List.intercalate] using splitSlash_of_notMem hpiece
    | cons next rest =>
      have hrest := ih (List.cons_ne_nil _ _) fun other ho => h other (List.mem_cons_of_mem piece ho)
      have hjoin : ['/'].intercalate (piece :: next :: rest) =
          piece ++ '/' :: ['/'].intercalate (next :: rest) := by
        simp [List.intercalate]
      rw [hjoin, splitSlash_append hpiece, hrest]

theorem splitSlash_replicate (n : Nat) (text : List Char) :
    splitSlash (List.replicate n '/' ++ text) = List.replicate n [] ++ splitSlash text := by
  induction n with
  | zero => rfl
  | succ n ih =>
    rw [List.replicate_succ, List.cons_append, splitSlash, ih]
    rfl

theorem takeWhile_slash_eq_nil {text : List Char} (h : text.head? ≠ some '/') :
    text.takeWhile (· == '/') = [] := by
  cases text with
  | nil => rfl
  | cons c rest =>
    have hc : ¬ (c == '/') = true := by
      rw [beq_iff_eq]
      rintro rfl
      exact h rfl
    exact List.takeWhile_cons_of_neg hc

/-- A text that starts with a slash has an empty piece first. -/
theorem head_ne_slash {text : List Char} (h : [] ∉ splitSlash text) : text.head? ≠ some '/' := by
  intro hslash
  cases text with
  | nil => cases hslash
  | cons c rest =>
    obtain rfl := Option.some.inj hslash
    rw [splitSlash] at h
    exact h List.mem_cons_self

/-! ## Paths from texts -/

theorem here_proper : here.Proper := ⟨Nat.zero_le 2, fun _ hpart => absurd hpart List.not_mem_nil⟩

theorem leadingSlashes_le (text : List Char) : leadingSlashes text ≤ 2 := by
  unfold leadingSlashes
  dsimp only
  split
  · assumption
  · decide

theorem ofChars_proper (text : List Char) : (ofChars text).Proper := by
  refine ⟨leadingSlashes_le text, fun part hpart => ?_⟩
  obtain ⟨piece, hpiece, rfl⟩ := List.mem_map.1 hpart
  obtain ⟨hmem, hisPart⟩ := List.mem_filter.1 hpiece
  have hslash := slash_notMem_piece _ piece hmem
  rw [isPart, Bool.and_eq_true, Bool.not_eq_true', List.isEmpty_eq_false_iff, bne_iff_ne] at hisPart
  by_cases hback : String.ofList piece = ".."
  · exact Or.inl hback
  · refine Or.inr ⟨?_, ?_, hback, by rwa [String.toList_ofList]⟩
    · intro he
      exact hisPart.1 (by simpa using congrArg String.toList he)
    · intro he
      exact hisPart.2 (by simpa using congrArg String.toList he)

theorem ofText_proper (s : String) : (ofText s).Proper := ofChars_proper s.toList

theorem isPart_of_proper {part : String} (h : part = ".." ∨ IsName part) :
    isPart part.toList = true ∧ '/' ∉ part.toList := by
  rcases h with rfl | ⟨hne, hdot, _, hslash⟩
  · exact ⟨by decide, by decide⟩
  · refine ⟨?_, hslash⟩
    rw [isPart, Bool.and_eq_true, Bool.not_eq_true', List.isEmpty_eq_false_iff, bne_iff_ne]
    constructor
    · intro he
      exact hne (by simpa using he)
    · intro he
      exact hdot (by rw [← String.ofList_toList (s := part), he])

theorem leadingSlashes_replicate {n : Nat} (hn : n ≤ 2) {text : List Char}
    (h : text.head? ≠ some '/') : leadingSlashes (List.replicate n '/' ++ text) = n := by
  have hslashes : ((List.replicate n '/' ++ text).takeWhile (· == '/')).length = n := by
    rw [List.takeWhile_append_of_pos (by simp), takeWhile_slash_eq_nil h]
    simp
  unfold leadingSlashes
  rw [hslashes]
  exact if_pos hn

theorem toList_pushn (s : String) (c : Char) (n : Nat) :
    (s.pushn c n).toList = s.toList ++ List.replicate n c := by
  unfold String.pushn
  induction n with
  | zero => exact (List.append_nil _).symm
  | succ n ih =>
    rw [Nat.repeat, String.toList_push, ih, List.replicate_succ', List.append_assoc]

/-- The text of a path with parts or slashes. -/
theorem toList_text {p : Path} (h : p ≠ here) : p.text.toList =
    List.replicate p.slashes '/' ++ ['/'].intercalate (p.parts.map String.toList) := by
  obtain ⟨slashes, parts⟩ := p
  have hnot : (slashes = 0 && parts.isEmpty) = false := by
    rw [Bool.and_eq_false_iff, Bool.eq_false_iff, Bool.eq_false_iff, ← not_and_or]
    rintro ⟨hslashes, hparts⟩
    rw [of_decide_eq_true hslashes, List.isEmpty_iff.1 hparts] at h
    exact h rfl
  simp [text, hnot, String.toList_intercalate, toList_pushn]

/-- The text of a path spells that path. -/
theorem ofText_text {p : Path} (h : p.Proper) : ofText p.text = p := by
  by_cases hhere : p = here
  · rw [hhere]
    rfl
  have hparts : ∀ piece ∈ p.parts.map String.toList, isPart piece = true ∧ '/' ∉ piece := by
    rw [List.forall_mem_map]
    exact fun other ho => isPart_of_proper (h.part other ho)
  have hpieces : (splitSlash (['/'].intercalate (p.parts.map String.toList))).filter isPart =
      p.parts.map String.toList ∧
      (['/'].intercalate (p.parts.map String.toList)).head? ≠ some '/' := by
    by_cases hnil : p.parts.map String.toList = []
    · rw [hnil]
      exact ⟨rfl, nofun⟩
    · have hsplit := splitSlash_intercalate hnil fun piece hp => (hparts piece hp).2
      refine ⟨?_, head_ne_slash ?_⟩
      · rw [hsplit, List.filter_eq_self.2 fun piece hp => (hparts piece hp).1]
      · rw [hsplit]
        intro hempty
        cases (hparts [] hempty).1
  unfold ofText ofChars
  rw [toList_text hhere, leadingSlashes_replicate h.slashes hpieces.2, splitSlash_replicate,
    List.filter_append, hpieces.1, List.filter_eq_nil_iff.2, List.nil_append, List.map_map]
  · simp
  · intro piece hpiece
    rw [List.eq_of_mem_replicate hpiece]
    decide

theorem ofText_of_isName {name : String} (h : IsName name) : ofText name = ⟨0, [name]⟩ := by
  have htext : (⟨0, [name]⟩ : Path).text = name := by
    rw [← String.toList_inj]
    simp [text]
    rfl
  have hproper : (⟨0, [name]⟩ : Path).Proper := by
    refine ⟨Nat.zero_le 2, fun part hpart => ?_⟩
    rw [List.mem_singleton.1 hpart]
    exact Or.inr h
  have hspells := ofText_text hproper
  rwa [htext] at hspells

theorem joinText_of_isName (p : Path) {name : String} (h : IsName name) :
    p.joinText name = p.child name := by
  unfold joinText
  rw [ofText_of_isName h]
  rfl

theorem Proper.join {p q : Path} (hp : p.Proper) (hq : q.Proper) : (p.join q).Proper := by
  unfold Path.join
  split
  · exact hq
  · refine ⟨hp.slashes, fun part hpart => ?_⟩
    rcases List.mem_append.1 hpart with hpart | hpart
    · exact hp.part part hpart
    · exact hq.part part hpart

theorem Proper.joinText {p : Path} (hp : p.Proper) (s : String) : (p.joinText s).Proper :=
  hp.join (ofText_proper s)

theorem here_join (p : Path) : here.join p = p := by
  unfold Path.join isAbsolute
  split
  · rfl
  · rename_i hrelative
    obtain ⟨slashes, parts⟩ := p
    obtain rfl : slashes = 0 := by simpa using hrelative
    rfl

theorem join_here (p : Path) : p.join here = p := by
  change (⟨p.slashes, p.parts ++ []⟩ : Path) = p
  rw [List.append_nil]

theorem isAbsolute_ofChars (text : List Char) :
    (ofChars text).isAbsolute = true ↔ text.head? = some '/' := by
  cases text with
  | nil => simp [ofChars, isAbsolute, leadingSlashes]
  | cons c rest =>
    by_cases hc : c = '/'
    · subst hc
      simp only [ofChars, isAbsolute, leadingSlashes, List.head?_cons, iff_true]
      rw [List.takeWhile_cons_of_pos rfl, List.length_cons, bne_iff_ne]
      split
      · exact Nat.succ_ne_zero _
      · exact Nat.one_ne_zero
    · simp [ofChars, isAbsolute, leadingSlashes, hc]

end ProtoRefresh.Path
