-- Texts that fit. A text without line ends and tabs that is no wider than
-- its column stands there as it is, on one line that is filled up with
-- spaces. So where all cells fit, each row of a table is one line with its
-- cells side by side.
import Mathlib.Data.List.SplitBy
import Mathlib.Data.List.TakeWhile
import ProtoRefresh.Console.Table

namespace ProtoRefresh.Console

open Text

variable {text line : List Char} {limit : Nat} {overflow : Overflow}

/-! ## Widths -/

@[simp] theorem width_spaces (n : Nat) : width (spaces n) = n := by
  induction n with
  | zero => rfl
  | succ n ih =>
    have hspace : charWidth ' ' = 1 := by decide
    have hcons : width (spaces (n + 1)) = charWidth ' ' + width (spaces n) := rfl
    rw [hcons, ih, hspace, Nat.add_comm]

theorem width_le_of_prefix {start text : List Char} (h : start <+: text) :
    width start ≤ width text := by
  obtain ⟨rest, rfl⟩ := h
  rw [width_append]
  omega

theorem le_totalWidth {w : Nat} {widths : List Nat} (h : w ∈ widths) : w ≤ totalWidth widths := by
  induction widths with
  | nil => exact absurd h List.not_mem_nil
  | cons first rest ih =>
    rw [totalWidth]
    rcases List.mem_cons.1 h with rfl | h
    · omega
    · have := ih h
      omega

/-- The greatest of some widths, or a width that is given. -/
theorem le_foldl_max (widths : List Nat) (start : Nat) :
    start ≤ widths.foldl max start ∧ ∀ w ∈ widths, w ≤ widths.foldl max start := by
  induction widths generalizing start with
  | nil => exact ⟨Nat.le_refl start, fun w hw => absurd hw List.not_mem_nil⟩
  | cons first rest ih =>
    obtain ⟨hstart, hrest⟩ := ih (max start first)
    rw [List.foldl_cons]
    refine ⟨Nat.le_trans (Nat.le_max_left start first) hstart, fun w hw => ?_⟩
    rcases List.mem_cons.1 hw with rfl | hw
    · exact Nat.le_trans (Nat.le_max_right start w) hstart
    · exact hrest w hw

/-- A text with spaces behind it up to a width. -/
def fillUp (limit : Nat) (text : List Char) : List Char := text ++ spaces (limit - width text)

theorem width_fillUp (h : width text ≤ limit) : width (fillUp limit text) = limit := by
  rw [fillUp, width_append, width_spaces]
  omega

/-! ## Words -/

theorem isPrefix_trimEnd (text : List Char) : trimEnd text <+: text := by
  unfold trimEnd trimStart
  rw [← List.reverse_suffix, List.reverse_reverse]
  exact List.dropWhile_suffix _

/-- A text that has a letter, if it has anything. -/
def HasLetter (text : List Char) : Prop := text = [] ∨ ∃ c ∈ text, isBlank c = false

/-- What is left behind some white space starts with a letter, if anything is left. -/
theorem dropWhile_isBlank_cases (text : List Char) :
    text.dropWhile isBlank = [] ∨
      ∃ c rest, text.dropWhile isBlank = c :: rest ∧ isBlank c = false := by
  have hhead := List.head?_dropWhile_not isBlank text
  cases hbehind : text.dropWhile isBlank with
  | nil => exact Or.inl rfl
  | cons c rest =>
    rw [hbehind] at hhead
    exact Or.inr ⟨c, rest, rfl, hhead⟩

theorem hasLetter_dropWhile (text : List Char) : HasLetter (text.dropWhile isBlank) := by
  rcases dropWhile_isBlank_cases text with hnil | ⟨c, rest, hbehind, hc⟩
  · exact Or.inl hnil
  · exact Or.inr ⟨c, by rw [hbehind]; exact List.mem_cons_self, hc⟩

/-- A first word is cut off a text with a letter in it. -/
theorem exists_word_of_letter {fuel : Nat} (hfuel : text.length ≤ fuel + 1)
    (hletter : ∃ c ∈ text, isBlank c = false) :
    ∃ word rest, splitWords.go (fuel + 1) text = word :: splitWords.go fuel rest ∧
      word ++ rest = text ∧ rest.length ≤ fuel ∧ HasLetter rest := by
  obtain ⟨c, rest, hbehind, hc⟩ : ∃ c rest, text.dropWhile isBlank = c :: rest ∧
      isBlank c = false := by
    refine (dropWhile_isBlank_cases text).resolve_left fun hnil => ?_
    obtain ⟨c, hmem, hno⟩ := hletter
    rw [List.dropWhile_eq_nil_iff.1 hnil c hmem] at hno
    cases hno
  have htext := List.takeWhile_append_dropWhile (p := isBlank) (l := text)
  have hletters := List.takeWhile_append_dropWhile (p := (!isBlank ·)) (l := rest)
  have hgap := List.takeWhile_append_dropWhile (p := isBlank) (l := rest.dropWhile (!isBlank ·))
  have hword : (c :: rest).takeWhile (!isBlank ·) = c :: rest.takeWhile (!isBlank ·) :=
    List.takeWhile_cons_of_pos (by simp [hc])
  have hdropped : (c :: rest).dropWhile (!isBlank ·) = rest.dropWhile (!isBlank ·) :=
    List.dropWhile_cons_of_pos (by simp [hc])
  rw [hbehind] at htext
  refine ⟨text.takeWhile isBlank ++ (c :: rest.takeWhile (!isBlank ·)) ++
    (rest.dropWhile (!isBlank ·)).takeWhile isBlank, (rest.dropWhile (!isBlank ·)).dropWhile isBlank,
    ?_, ?_, ?_, hasLetter_dropWhile _⟩
  · rw [splitWords.go]
    simp only [hbehind, hword, hdropped, List.isEmpty_cons, Bool.false_eq_true, if_false]
  · rw [List.append_assoc, hgap, List.append_assoc, List.cons_append, hletters, htext]
  · have hall := congrArg List.length htext
    have hbefore := (List.dropWhile_sublist isBlank (l := rest.dropWhile (!isBlank ·))).length_le
    have hbehind := (List.dropWhile_sublist (!isBlank ·) (l := rest)).length_le
    rw [List.length_append, List.length_cons] at hall
    omega

/-- The words of a text are the text, if it has any. -/
theorem flatten_splitWords_go {fuel : Nat} (hfuel : text.length ≤ fuel)
    (hletter : HasLetter text) : (splitWords.go fuel text).flatten = text := by
  induction fuel generalizing text with
  | zero =>
    rw [List.length_eq_zero_iff.1 (Nat.le_zero.1 hfuel)]
    rfl
  | succ fuel ih =>
    rcases hletter with rfl | hletter
    · rfl
    · obtain ⟨word, rest, hgo, rfl, hrest, hnext⟩ := exists_word_of_letter hfuel hletter
      rw [hgo, List.flatten_cons, ih hrest hnext]

/-- A line is its words, or has none. -/
theorem flatten_splitWords (text : List Char) :
    splitWords text = [] ∨ (splitWords text).flatten = text := by
  by_cases hblank : ∀ c ∈ text, isBlank c = true
  · left
    unfold splitWords
    cases text with
    | nil => rfl
    | cons c rest =>
      rw [List.length_cons, splitWords.go]
      simp only [List.dropWhile_eq_nil_iff.2 hblank, List.takeWhile_nil, List.isEmpty_nil, if_true]
  · right
    simp only [not_forall] at hblank
    obtain ⟨c, hc, hno⟩ := hblank
    exact flatten_splitWords_go (Nat.le_refl _) (Or.inr ⟨c, hc, Bool.eq_false_iff.2 hno⟩)

/-- Words that fit together stand on one line. -/
theorem fillLines_of_fits {words : List (List Char)} {used : Nat}
    (h : used + width words.flatten ≤ limit) :
    fillLines limit overflow words line used = [line ++ words.flatten] := by
  induction words generalizing line used with
  | nil => simp [fillLines]
  | cons word rest ih =>
    have hneed := width_le_of_prefix (isPrefix_trimEnd word)
    rw [List.flatten_cons, width_append] at h
    rw [fillLines]
    simp only [if_pos (show used + width (trimEnd word) ≤ limit by omega)]
    rw [ih (by omega), List.flatten_cons, List.append_assoc]

/-! ## Lines -/

theorem splitLines_of_noNewline (h : '\n' ∉ text) : splitLines text = [text] := by
  induction text with
  | nil => rfl
  | cons c rest ih =>
    rw [List.mem_cons, not_or] at h
    rw [splitLines.eq_3 c rest fun hc => h.1 hc.symm, ih h.2]

theorem expandTabs_of_noTab (h : '\t' ∉ line) : expandTabs line = line := by
  have hfold : ∀ (rest done : List Char) (used : Nat), '\t' ∉ rest →
      (rest.foldl (fun (state : List Char × Nat) c =>
        if c = '\t' then
          (state.1 ++ spaces (1 + (8 - (state.2 + 1) % 8) % 8),
            state.2 + 1 + (8 - (state.2 + 1) % 8) % 8)
        else (state.1 ++ [c], state.2 + charWidth c)) (done, used)).1 = done ++ rest := by
    intro rest
    induction rest with
    | nil => exact fun done _ _ => (List.append_nil done).symm
    | cons c rest ih =>
      intro done used htab
      rw [List.mem_cons, not_or] at htab
      rw [List.foldl_cons, if_neg fun hc => htab.1 hc.symm, ih _ _ htab.2, List.append_assoc,
        List.singleton_append]
  exact hfold line [] 0 h

theorem truncate_of_fits (h : width text ≤ limit) : truncate limit overflow text = text := if_pos h

/-- A text that is as wide as it is long, or that has no white space at its end but spaces. -/
def EndsPlainly (text : List Char) : Prop :=
  text.length ≤ width text ∨ ∀ c ∈ text.drop (trimEnd text).length, c = ' '

instance (text : List Char) : Decidable (EndsPlainly text) :=
  decidable_of_iff (text.length ≤ width text ∨
    ((text.drop (trimEnd text).length).all (· == ' ')) = true) (by simp [EndsPlainly])

/-- What is trimmed from a text that fits is spaces. -/
theorem exists_of_trimExcess (hfit : width text ≤ limit) (hend : EndsPlainly text) :
    ∃ n, text = trimExcess limit text ++ spaces n := by
  unfold trimExcess
  rcases hend with hlength | hspaces
  · refine ⟨0, ?_⟩
    have hnone : text.length - limit = 0 := by omega
    simp [hnone, spaces]
  · have hlength := (isPrefix_trimEnd text).length_le
    have hall : ∀ c ∈ text.drop (text.length - min (text.length - (trimEnd text).length)
        (text.length - limit)), c = ' ' :=
      fun c hc => hspaces c (List.drop_subset_drop_left text (by omega) hc)
    refine ⟨(text.drop (text.length - min (text.length - (trimEnd text).length)
      (text.length - limit))).length, ?_⟩
    rw [spaces, ← List.eq_replicate_of_mem hall, List.take_append_drop]

/-- A text that fits is set to the left as it is. -/
theorem setLine_of_fits (hfit : width text ≤ limit) (hend : EndsPlainly text) :
    setLine limit overflow .left text = fillUp limit text := by
  obtain ⟨n, htext⟩ := exists_of_trimExcess hfit hend
  have hwidth : width text = width (trimExcess limit text) + n := by
    conv_lhs => rw [htext]
    rw [width_append, width_spaces]
  have htrimmed : fillUp limit (trimExcess limit text) = fillUp limit text := by
    have hspaces : spaces (limit - width (trimExcess limit text)) =
        spaces n ++ spaces (limit - width text) := by
      unfold spaces
      rw [List.replicate_append_replicate]
      congr 1
      omega
    rw [fillUp, hspaces, ← List.append_assoc, ← htext]
    rfl
  have hkept : width (trimExcess limit text) ≤ limit := by omega
  have hfilled : width (fillUp limit text) ≤ limit := Nat.le_of_eq (width_fillUp hfit)
  unfold setLine
  dsimp only
  rw [truncate_of_fits hkept, ← fillUp, htrimmed, truncate_of_fits hfilled]

theorem wrap_of_fits (hline : '\n' ∉ text) (htab : '\t' ∉ text) (hfit : width text ≤ limit)
    (hend : EndsPlainly text) : wrap limit overflow .left text = [fillUp limit text] := by
  have hlines : (if (splitWords text).isEmpty then [text]
      else fillLines limit overflow (splitWords text) [] 0) = [text] := by
    rcases flatten_splitWords text with hnone | hwords
    · rw [hnone]
      rfl
    · split
      · rfl
      · rw [fillLines_of_fits (by rw [hwords]; omega), hwords, List.nil_append]
  unfold wrap
  rw [splitLines_of_noNewline hline]
  simp only [List.flatMap_cons, List.flatMap_nil, List.append_nil, expandTabs_of_noTab htab, hlines,
    List.map_cons, List.map_nil, setLine_of_fits hfit hend]

/-! ## Cells -/

/-- A cell that stands on one line as it is, if it has the room. -/
structure IsCell (text : List Char) : Prop where
  one_line : ∀ c ∈ text, endsLine c = false
  no_tab : '\t' ∉ text
  ends_plainly : EndsPlainly text

instance (text : List Char) : Decidable (IsCell text) :=
  decidable_of_iff ((text.all (!endsLine ·)) = true ∧ '\t' ∉ text ∧ EndsPlainly text)
    ⟨fun h => ⟨by simpa using h.1, h.2.1, h.2.2⟩,
      fun h => ⟨by simpa using h.one_line, h.no_tab, h.ends_plainly⟩⟩

theorem isCell_nil : IsCell [] := by decide

theorem IsCell.cellWidth_eq (h : IsCell text) : cellWidth text = width text := by
  unfold cellWidth
  cases text with
  | nil => rfl
  | cons c rest =>
    have hchain : (c :: rest).IsChain fun a b => (!endsLine a && !endsLine b) = true := by
      refine (List.pairwise_of_forall_mem_list fun a ha b hb => ?_).isChain
      rw [h.one_line a ha, h.one_line b hb]
      rfl
    have hkept : (c :: rest).filter (!endsLine ·) = c :: rest :=
      List.filter_eq_self.2 fun d hd => by rw [h.one_line d hd]; rfl
    rw [List.splitBy_of_isChain (List.cons_ne_nil c rest) hchain, List.map_singleton, hkept]
    exact Nat.zero_max _

theorem IsCell.cellLines_eq {w : Nat} (h : IsCell text) (hfit : width text ≤ w) (hroom : 0 < w) :
    cellLines (w + 2) text = [' ' :: fillUp w text ++ [' ']] := by
  have hline : '\n' ∉ text := fun hmem => absurd (h.one_line _ hmem) (by decide)
  unfold cellLines
  rw [if_neg (by omega), Nat.add_sub_cancel, wrap_of_fits hline h.no_tab hfit h.ends_plainly]
  rfl

/-! ## Rows -/

variable {widths : List Nat} {cells heads : List (List Char)} {rows : List (List (List Char))}

/-- Cells side by side, each one filled up to its width and with a space at each side. -/
def rowText (widths : List Nat) (cells : List (List Char)) : List Char :=
  ' ' :: List.intercalate [' ']
    (List.zipWith (fun w cell => ' ' :: fillUp w cell ++ [' ']) widths cells) ++ [' ']

theorem rowLines_eq (widths : List Nat) (cells : List (List Char)) : rowLines widths cells =
    let blocks := (widths.zip cells).map fun block => (block.1, cellLines block.1 block.2)
    (List.range ((blocks.map fun block => block.2.length).foldl max 1)).map fun n =>
      ' ' :: List.intercalate [' ']
        (blocks.map fun block => block.2[n]?.getD (spaces block.1)) ++ [' '] := rfl

/-- Cells that have the room stand on one line. -/
theorem rowLines_of_fits
    (h : List.Forall₂ (fun w cell => IsCell cell ∧ width cell ≤ w ∧ 0 < w) widths cells) :
    rowLines (widths.map (· + 2)) cells = [rowText widths cells] := by
  have hblocks : ((widths.map (· + 2)).zip cells).map
      (fun block => (block.1, cellLines block.1 block.2)) =
        List.zipWith (fun w cell => (w + 2, [' ' :: fillUp w cell ++ [' ']])) widths cells := by
    induction h with
    | nil => rfl
    | cons hcell _ ih =>
      rw [List.map_cons, List.zip_cons_cons, List.map_cons, List.zipWith_cons_cons, ih,
        hcell.1.cellLines_eq hcell.2.1 hcell.2.2]
  have hheight : ((List.zipWith (fun w cell => (w + 2, [' ' :: fillUp w cell ++ [' ']])) widths
      cells).map fun block => block.2.length).foldl max 1 = 1 := by
    clear hblocks
    induction h with
    | nil => rfl
    | cons _ _ ih =>
      rw [List.zipWith_cons_cons, List.map_cons, List.foldl_cons]
      exact ih
  rw [rowLines_eq, hblocks]
  dsimp only
  rw [hheight]
  simp only [List.map_zipWith]
  rfl

/-! ## Tables -/

/-- The width of the widest cell in each column. -/
def naturalWidths (heads : List (List Char)) (rows : List (List (List Char))) : List Nat :=
  (List.range heads.length).map fun n =>
    ((heads :: rows).map fun row => width (row[n]?.getD [])).foldl max 0

/-- The width of a table whose columns are as wide as their widest cells. -/
def naturalWidth (heads : List (List Char)) (rows : List (List (List Char))) : Nat :=
  totalWidth (naturalWidths heads rows) + 3 * heads.length + 1

/-- A table of cells, one for each head in each row, whose heads take room. -/
structure IsTable (heads : List (List Char)) (rows : List (List (List Char))) : Prop where
  width_pos : ∀ head ∈ heads, 0 < width head
  length_eq : ∀ row ∈ heads :: rows, row.length = heads.length
  isCell : ∀ row ∈ heads :: rows, ∀ cell ∈ row, IsCell cell

theorem totalWidth_map_add (widths : List Nat) (n : Nat) :
    totalWidth (widths.map (· + n)) = totalWidth widths + n * widths.length := by
  induction widths with
  | nil => rfl
  | cons w rest ih =>
    rw [List.map_cons, totalWidth, totalWidth, ih, List.length_cons, Nat.mul_add]
    omega

/-- In its column each cell has the room. -/
theorem IsTable.forall₂ (h : IsTable heads rows) {row : List (List Char)}
    (hrow : row ∈ heads :: rows) :
    List.Forall₂ (fun w cell => IsCell cell ∧ width cell ≤ w ∧ 0 < w) (naturalWidths heads rows)
      row := by
  have hlength : (naturalWidths heads rows).length = heads.length := by
    rw [naturalWidths, List.length_map, List.length_range]
  rw [List.forall₂_iff_get]
  refine ⟨hlength.trans (h.length_eq row hrow).symm, fun n hn hcell => ?_⟩
  have hle : ∀ (cells : List (List Char)) (hn' : n < cells.length), cells ∈ heads :: rows →
      width cells[n] ≤ (naturalWidths heads rows)[n] := by
    intro cells hn' hcells
    have hmem : width (cells[n]?.getD []) ∈
        (heads :: rows).map fun row => width (row[n]?.getD []) :=
      List.mem_map_of_mem hcells
    have hle := (le_foldl_max _ 0).2 _ hmem
    rw [List.getElem?_eq_getElem hn', Option.getD_some] at hle
    simpa [naturalWidths] using hle
  have hhead : n < heads.length := hlength ▸ hn
  have hpos := h.width_pos _ (List.getElem_mem hhead)
  refine ⟨h.isCell row hrow _ (List.get_mem _ _), hle row hcell hrow, ?_⟩
  exact Nat.lt_of_lt_of_le hpos (hle heads hhead List.mem_cons_self)

/-- Columns that have the room together are as wide as their widest cells. -/
theorem IsTable.columnWidths_eq (h : IsTable heads rows)
    (hfit : totalWidth ((naturalWidths heads rows).map (· + 2)) ≤ limit) :
    columnWidths limit ((List.range heads.length).map fun n =>
      (heads :: rows).map fun row => row[n]?.getD []) = (naturalWidths heads rows).map (· + 2) := by
  have hcells : ∀ n : Nat, ∀ row ∈ heads :: rows,
      cellWidth (row[n]?.getD []) = width (row[n]?.getD []) := by
    intro n row hrow
    apply IsCell.cellWidth_eq
    cases hcell : row[n]? with
    | none => exact isCell_nil
    | some cell => exact h.isCell row hrow cell (List.mem_of_getElem? hcell)
  have hnatural : (((List.range heads.length).map fun n =>
      (heads :: rows).map fun row => row[n]?.getD []).map fun cells =>
        (cells.map cellWidth).foldl max 0 + 2) = (naturalWidths heads rows).map (· + 2) := by
    unfold naturalWidths
    rw [List.map_map, List.map_map]
    refine List.map_congr_left fun n _ => ?_
    have hwidths := List.map_congr_left (hcells n)
    rw [Function.comp_apply, Function.comp_apply, List.map_map, ← hwidths]
    rfl
  have hmin : ((naturalWidths heads rows).map (· + 2)).map (min limit) =
      (naturalWidths heads rows).map (· + 2) := by
    conv_rhs => rw [← List.map_id ((naturalWidths heads rows).map (· + 2))]
    exact List.map_congr_left fun w hw =>
      Nat.min_eq_right (Nat.le_trans (le_totalWidth hw) hfit)
  unfold columnWidths
  dsimp only
  rw [hnatural, hmin, if_pos hfit]

/-- The heavy rule under the heads of a table. -/
def ruleText (limit : Nat) : List Char := ' ' :: List.replicate (limit - 2) '━' ++ [' ']

/-- A table that has the room shows each of its rows on a line, in order. -/
theorem IsTable.tableLines_eq (h : IsTable heads rows) (hfit : naturalWidth heads rows ≤ limit)
    (title : List Char) : tableLines limit title heads rows =
      wrap (naturalWidth heads rows) .cut .centre title ++
        [spaces (naturalWidth heads rows), rowText (naturalWidths heads rows) heads,
          ruleText (naturalWidth heads rows)] ++
        rows.map (rowText (naturalWidths heads rows)) ++ [spaces (naturalWidth heads rows)] := by
  have hlength : (naturalWidths heads rows).length = heads.length := by
    rw [naturalWidths, List.length_map, List.length_range]
  have htotal := totalWidth_map_add (naturalWidths heads rows) 2
  rw [hlength] at htotal
  have hwidth : totalWidth ((naturalWidths heads rows).map (· + 2)) + (heads.length + 1) =
      naturalWidth heads rows := by
    rw [htotal, naturalWidth]
    omega
  have hroom : totalWidth ((naturalWidths heads rows).map (· + 2)) ≤
      limit - (heads.length + 1) := by omega
  have hcolumns := h.columnWidths_eq hroom
  have hheads := rowLines_of_fits (h.forall₂ List.mem_cons_self)
  have hrows : rows.flatMap (rowLines ((naturalWidths heads rows).map (· + 2))) =
      rows.map (rowText (naturalWidths heads rows)) := by
    have heach := List.flatMap_congr fun row hrow =>
      rowLines_of_fits (h.forall₂ (List.mem_cons_of_mem heads hrow))
    exact heach.trans List.map_eq_flatMap.symm
  unfold tableLines
  dsimp only
  rw [hcolumns, hwidth, if_pos hfit, hheads, hrows]
  simp [ruleText]

end ProtoRefresh.Console
