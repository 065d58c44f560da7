-- The table of a report. It has one row for each placement, in order, with
-- what is shown of the source and of the destination, and with the status.
-- The names stand there verbatim exactly if they are plain, since nothing
-- escapes them: a name in brackets may vanish, and one that closes a style
-- keeps the whole table from being shown.
import ProtoRefresh.Proofs.CommandLine.Status
import ProtoRefresh.Proofs.Console.Fitting
import ProtoRefresh.Proofs.Console.Verbatim

namespace ProtoRefresh.CommandLine

open Console

variable {width : Nat} {version : String} {placements : List Relocation.Placement} {check : Bool}

/-! ## Cells -/

/-- What is shown of a text, if it can be shown. -/
def shownText (text : String) : List Char := (showMarkup text.toList).toOption.getD []

theorem shownText_of_ok {text : String} {shown : List Char}
    (h : showMarkup text.toList = .ok shown) : shownText text = shown := by
  rw [shownText, h]
  rfl

theorem shownText_eq_self_iff {text : String} :
    shownText text = text.toList ↔ IsPlain text.toList := by
  rw [← showMarkup_eq_self_iff]
  refine ⟨fun h => ?_, shownText_of_ok⟩
  unfold shownText at h
  cases hshow : showMarkup text.toList with
  | ok shown =>
    rw [hshow] at h
    exact congrArg Except.ok h
  | error failure =>
    -- then the text would be empty, which can be shown
    rw [hshow] at h
    rw [← h] at hshow
    cases hshow

/-- The status of a placement in words. -/
def statusWords (check : Bool) (placement : Relocation.Placement) : String :=
  if !placement.changed then "unchanged" else if check then "would change" else "updated"

theorem shownText_statusText (check : Bool) (placement : Relocation.Placement) :
    shownText (statusText check placement) = (statusWords check placement).toList := by
  apply shownText_of_ok
  unfold statusText statusWords
  split
  · decide +kernel
  · split
    · decide +kernel
    · decide +kernel

/-- What is shown of a placement. -/
def shownCells (check : Bool) (placement : Relocation.Placement) : List (List Char) :=
  [shownText placement.source, shownText placement.destination.text,
    (statusWords check placement).toList]

theorem placementCells_eq_ok {placement : Relocation.Placement} {cells : List (List Char)}
    (h : placementCells check placement = .ok cells) : shownCells check placement = cells := by
  rw [shownCells, ← shownText_statusText]
  exact (except_mapM_eq_map (fun _ _ => shownText_of_ok) h).symm

/-! ## Tables -/

/-- The heads of the columns. -/
def reportHeads : List (List Char) := ["File", "Destination", "Status"].map String.toList

/-- The lines of a table that has the room: a title, the heads, and a line for each row. -/
def reportTable (title : List Char) (rows : List (List (List Char))) : List (List Char) :=
  let widths := naturalWidths reportHeads rows
  let total := naturalWidth reportHeads rows
  wrap total .cut .centre title ++ [spaces total, rowText widths reportHeads, ruleText total] ++
    rows.map (rowText widths) ++ [spaces total]

/-- The cells of a report stand on one line each, and a console of the width has room for them. -/
structure Fits (width : Nat) (placements : List Relocation.Placement) (check : Bool) : Prop where
  isCell : ∀ placement ∈ placements, IsCell (shownText placement.source) ∧
    IsCell (shownText placement.destination.text)
  width_le : naturalWidth reportHeads (placements.map (shownCells check)) ≤ width

theorem isCell_statusWords (check : Bool) (placement : Relocation.Placement) :
    IsCell (statusWords check placement).toList := by
  unfold statusWords
  split
  · decide +kernel
  · split
    · decide +kernel
    · decide +kernel

theorem Fits.hasRoom (h : Fits width placements check) : hasRoom width = true := by
  have hwidth := h.width_le
  rw [naturalWidth, show reportHeads.length = 3 from rfl] at hwidth
  exact decide_eq_true (by omega)

theorem Fits.isTable (h : Fits width placements check) :
    IsTable reportHeads (placements.map (shownCells check)) := by
  have hheads : ∀ cell ∈ reportHeads, IsCell cell := by decide +kernel
  refine ⟨by decide +kernel, fun row hrow => ?_, fun row hrow => ?_⟩
  · rcases List.mem_cons.1 hrow with rfl | hrow
    · rfl
    · obtain ⟨placement, _, rfl⟩ := List.mem_map.1 hrow
      rfl
  · rcases List.mem_cons.1 hrow with rfl | hrow
    · exact hheads
    · obtain ⟨placement, hmem, rfl⟩ := List.mem_map.1 hrow
      obtain ⟨hsource, hdestination⟩ := h.isCell placement hmem
      simpa [shownCells] using ⟨hsource, hdestination, isCell_statusWords check placement⟩

/-- What a report shows: nothing exactly if a text closes a style that is not open, and otherwise
one row for each placement, in order, with its source, its destination and its status. A source and
a destination are shown verbatim exactly if they are plain. -/
structure ShowsRows (width : Nat) (version : String) (placements : List Relocation.Placement)
    (check : Bool) (result : Except Failure (List String)) : Prop where
  fails_iff : ∀ failure, result = .error failure ↔ failure = .markup ∧
    ∃ text ∈ foreignTexts width version placements, showMarkup text.toList = .error .markup
  rows : ∀ lines, result = .ok lines → ∃ title,
    showMarkup ("Regenerated with " ++ version).toList = .ok title ∧
      lines = (reportTable title (placements.map (shownCells check))).map String.ofList
  verbatim_iff : ∀ placement ∈ placements, shownCells check placement =
      [placement.source, placement.destination.text, statusWords check placement].map
        String.toList ↔
    IsPlain placement.source.toList ∧ IsPlain placement.destination.text.toList

theorem shownCells_eq_iff (check : Bool) (placement : Relocation.Placement) :
    shownCells check placement =
        [placement.source, placement.destination.text, statusWords check placement].map
          String.toList ↔
      IsPlain placement.source.toList ∧ IsPlain placement.destination.text.toList := by
  simp only [shownCells, List.map_cons, List.map_nil, List.cons.injEq, shownText_eq_self_iff,
    and_true]

/-- A report that fits shows its placements row by row, unless it cannot be shown. -/
theorem a_report_shows_its_placements_row_by_row (hfits : Fits width placements check) :
    ShowsRows width version placements check (reportLines width version placements check) := by
  refine ⟨fun failure => reportLines_eq_error_iff, fun lines h => ?_,
    fun placement _ => shownCells_eq_iff check placement⟩
  unfold reportLines at h
  obtain ⟨rows, hrows, h⟩ := except_bind_eq_ok.1 h
  obtain ⟨title, htitle, hlines⟩ := except_bind_eq_ok.1 h
  rw [reportRows, if_pos hfits.hasRoom] at hrows
  have hshown : rows = placements.map (shownCells check) :=
    except_mapM_eq_map (fun _ _ => placementCells_eq_ok) hrows
  cases hlines
  refine ⟨title, htitle, ?_⟩
  rw [hshown]
  exact congrArg (List.map String.ofList) (hfits.isTable.tableLines_eq hfits.width_le title)

/-- A report on two files, one of them with a number in brackets. -/
def numberedPlacements : List Relocation.Placement :=
  [⟨"a.rs", Path.ofText "src/a.rs", false⟩, ⟨"b[0].rs", Path.ofText "src/b[0].rs", true⟩]

theorem a_number_in_brackets_is_shown :
    ShowsRows 80 "libprotoc 3.1" numberedPlacements false
        (reportLines 80 "libprotoc 3.1" numberedPlacements false) ∧
      reportLines 80 "libprotoc 3.1" numberedPlacements false = .ok
        ["   Regenerated with libprotoc 3.1    ",
         "                                     ",
         "  File      Destination   Status     ",
         " ━━━━━━━━━━━━━━━━━━━━━━━━━━━━━━━━━━━ ",
         "  a.rs      src/a.rs      unchanged  ",
         "  b[0].rs   src/b[0].rs   updated    ",
         "                                     "] := by
  have hfits : Fits 80 numberedPlacements false := ⟨by decide +kernel, by decide +kernel⟩
  exact ⟨a_report_shows_its_placements_row_by_row hfits, by decide +kernel⟩

/-- A report on one new file. -/
def newPlacement (name : String) : List Relocation.Placement :=
  [⟨name, Path.ofText ("src/" ++ name), true⟩]

theorem a_letter_in_brackets_vanishes_and_a_closing_one_fails :
    Fits 80 (newPlacement "a[b].rs") false ∧
      reportLines 80 "libprotoc 3.1" (newPlacement "a[b].rs") false = .ok
        [" Regenerated with libprotoc 3.1 ",
         "                                ",
         "  File   Destination   Status   ",
         " ━━━━━━━━━━━━━━━━━━━━━━━━━━━━━━ ",
         "  a.rs   src/a.rs      updated  ",
         "                                "] ∧
      reportLines 80 "libprotoc 3.1" (newPlacement "a[/b].rs") false = .error .markup := by
  refine ⟨⟨by decide +kernel, by decide +kernel⟩, by decide +kernel, ?_⟩
  exact reportLines_eq_error_iff.2 ⟨rfl, "a[/b].rs", by decide +kernel, by decide +kernel⟩

end ProtoRefresh.CommandLine
