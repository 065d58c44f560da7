-- Tables: a title over columns with a heavy rule under their heads. A
-- column is as wide as its widest cell, with a space at each side;
-- columns that are too wide together shrink, the widest first.
import ProtoRefresh.Console.Markup
import ProtoRefresh.Console.Wrap

namespace ProtoRefresh.Console

open Text

/-! ## Columns -/

/-- A line end of any kind, as far as the width of a cell is concerned. -/
def endsLine (c : Char) : Bool :=
  c == '\n' || c == '\x1c' || c == '\x1d' || c == '\x1e' || c == '\x85' || c == '\u2028' ||
    c == '\u2029'

/-- The width of the widest line of a cell. -/
def cellWidth (text : List Char) : Nat :=
  ((text.splitBy fun a b => !endsLine a && !endsLine b).map fun line =>
    width (line.filter (!endsLine ·))).foldl max 0

/-- The nearest whole number to a quotient; the even one of two. -/
def roundDiv (a b : Nat) : Nat :=
  let q := a / b
  let twice := 2 * (a % b)
  if twice < b then q else if b < twice then q + 1 else q + q % 2

/-- Takes a total from values in equal shares, from each one that is marked, up to a limit. -/
def reduceEvenly (limit : Nat) : Nat → Nat → List (Nat × Bool) → List Nat
  | _, _, [] => []
  | total, shares, (value, marked) :: rest =>
    if marked && 0 < shares then
      let part := min limit (roundDiv total shares)
      (value - part) :: reduceEvenly limit (total - part) (shares - 1) rest
    else value :: reduceEvenly limit total shares rest

/-- Widths that together stay within a limit: the widest columns give way to the second widest,
then again. The first number bounds the rounds. -/
def collapse (limit : Nat) : Nat → List Nat → List Nat
  | 0, widths => widths
  | rounds + 1, widths =>
    let excess := totalWidth widths - limit
    if excess = 0 then widths
    else
      let widest := widths.foldl max 0
      let second := (widths.filter (· != widest)).foldl max 0
      if widest = second then widths
      else
        let marked := widths.map fun w => (w, w == widest)
        let shares := (widths.filter (· == widest)).length
        collapse limit rounds (reduceEvenly (min excess (widest - second)) excess shares marked)

/-- The widths of columns in a limit, each one with its two spaces. -/
def columnWidths (limit : Nat) (columns : List (List (List Char))) : List Nat :=
  let widths := columns.map fun cells => (cells.map cellWidth).foldl max 0 + 2
  let widths := widths.map (min limit)
  if totalWidth widths ≤ limit then widths else collapse limit (limit + widths.length) widths

/-! ## Rows -/

/-- The lines of a cell in a column, with a space at each side. There are none if the spaces take all
the room. -/
def cellLines (columnWidth : Nat) (cell : List Char) : List (List Char) :=
  if columnWidth ≤ 2 then []
  else (wrap (columnWidth - 2) .dots .left cell).map fun line => ' ' :: line ++ [' ']

/-- The lines of a row. Cells with fewer lines than others are filled up. -/
def rowLines (widths : List Nat) (cells : List (List Char)) : List (List Char) :=
  let blocks := (widths.zip cells).map fun (w, cell) => (w, cellLines w cell)
  let height := (blocks.map fun block => block.2.length).foldl max 1
  (List.range height).map fun n =>
    let parts := blocks.map fun (w, lines) => lines[n]?.getD (spaces w)
    ' ' :: (List.intercalate [' '] parts) ++ [' ']

/-- A table as lines, in a console of a width. Texts are plain, their tags gone already. -/
def tableLines (limit : Nat) (title : List Char) (heads : List (List Char))
    (rows : List (List (List Char))) : List (List Char) :=
  let frame := heads.length + 1
  let columns := (List.range heads.length).map fun n =>
    (heads :: rows).map fun row => row[n]?.getD []
  let widths := columnWidths (limit - frame) columns
  let total := totalWidth widths + frame
  let blank := spaces total
  let lines := wrap total .cut .centre title ++ [blank] ++ rowLines widths heads ++
    [' ' :: List.replicate (total - 2) '━' ++ [' ']] ++ rows.flatMap (rowLines widths) ++ [blank]
  -- a console that has no room for the frame cuts all lines
  if total ≤ limit then lines else lines.map (truncate limit .cut)

end ProtoRefresh.Console
