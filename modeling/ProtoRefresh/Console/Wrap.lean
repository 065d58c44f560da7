-- Text broken into lines of a width. Breaks fall between words; a word
-- takes the white space after it along. A word that is wider than a line
-- is cut into pieces or left whole, as the rule for overflow says.
import ProtoRefresh.Console.Width
import ProtoRefresh.Text.Blank

namespace ProtoRefresh.Console

open Text

/-! ## Rules -/

/-- What becomes of words that are wider than a line. -/
inductive Overflow
  | cut
  /-- The end of the line is left out, and three dots in one character stand for it. -/
  | dots
  deriving DecidableEq, Repr

/-- How lines stand in their width. -/
inductive Side
  | free
  | left
  | centre
  deriving DecidableEq, Repr

/-! ## Words -/

/-- The words of a text, the first with the white space before it, each with that behind it. -/
def splitWords (text : List Char) : List (List Char) :=
  let rec go (fuel : Nat) (text : List Char) : List (List Char) :=
    match fuel with
    | 0 => []
    | fuel + 1 =>
      let before := text.takeWhile isBlank
      let behind := text.dropWhile isBlank
      let letters := behind.takeWhile (!isBlank ·)
      let rest := behind.dropWhile (!isBlank ·)
      if letters.isEmpty then []
      else (before ++ letters ++ rest.takeWhile isBlank) :: go fuel (rest.dropWhile isBlank)
  go text.length text

/-- Pieces of a text that fit into a width each. -/
def chop (limit : Nat) (text : List Char) : List (List Char) :=
  let (pieces, last, _) := text.foldl
    (fun (pieces, last, used) c =>
      if used + charWidth c > limit then (pieces ++ [last], [c], charWidth c)
      else (pieces, last ++ [c], used + charWidth c))
    (([], [], 0) : List (List Char) × List Char × Nat)
  pieces ++ [last]

/-- The lines that words make. A line under way is given with its width. -/
def fillLines (limit : Nat) (overflow : Overflow) :
    List (List Char) → List Char → Nat → List (List Char)
  | [], line, _ => [line]
  | word :: rest, line, used =>
    let need := width (trimEnd word)
    if used + need ≤ limit then fillLines limit overflow rest (line ++ word) (used + width word)
    else if limit < need then
      let before := if line.isEmpty then [] else [line]
      match overflow with
      | .cut =>
        let pieces := chop limit word
        let last := pieces.getLast?.getD []
        before ++ pieces.dropLast ++ fillLines limit overflow rest last (width last)
      | .dots => before ++ fillLines limit overflow rest word (width word)
    else line :: fillLines limit overflow rest word (width word)

/-! ## Lines -/

/-- Looks by halving for a start of a text that takes a width, between two lengths. It depends on the
search how many of the marks behind a character stay. A wide character that would be cut is a space.
The first number bounds the halvings. -/
def fitBetween (limit : Nat) (text : List Char) : Nat → Nat → Nat → List Char
  | 0, start, _ => text.take start
  | halvings + 1, start, stop =>
    let place := (start + stop) / 2
    let kept := text.take (place + 1)
    if width kept = limit + 1 ∧ charWidth (text[place]?.getD ' ') = 2 then
      text.take place ++ [' ']
    else if width kept = limit then kept
    else if limit < width kept then fitBetween limit text halvings start place
    else fitBetween limit text halvings place stop

/-- A start of a text that takes a width, which is less than that of the text. -/
def fit (limit : Nat) (text : List Char) : List Char :=
  if limit = 0 then [] else fitBetween limit text (text.length + 2) 0 text.length

/-- A text cut to a width. -/
def truncate (limit : Nat) (overflow : Overflow) (text : List Char) : List Char :=
  if width text ≤ limit then text
  else
    match overflow with
    | .cut => fit limit text
    | .dots => fit (limit - 1) text ++ ['…']

/-- A text without white space at its end, as far as it has more characters than the width. -/
def trimExcess (limit : Nat) (text : List Char) : List Char :=
  let blanks := text.length - (trimEnd text).length
  text.take (text.length - min blanks (text.length - limit))

/-- A line set into its width. -/
def setLine (limit : Nat) (overflow : Overflow) (side : Side) (line : List Char) : List Char :=
  let line := trimExcess limit line
  let line :=
    match side with
    | .free => line
    | .left =>
      let line := truncate limit overflow line
      line ++ spaces (limit - width line)
    | .centre =>
      let line := truncate limit overflow (trimEnd line)
      let line := spaces ((limit - width line) / 2) ++ line
      line ++ spaces (limit - width line)
  truncate limit overflow line

/-- A text with spaces for its tabs, up to the next multiple of eight cells. -/
def expandTabs (line : List Char) : List Char :=
  (line.foldl
    (fun (done, used) c =>
      if c = '\t' then
        let used' := used + 1
        let fill := (8 - used' % 8) % 8
        (done ++ spaces (1 + fill), used' + fill)
      else (done ++ [c], used + charWidth c))
    (([], 0) : List Char × Nat)).1

/-- A text cut at newlines. -/
def splitLines : List Char → List (List Char)
  | [] => [[]]
  | '\n' :: rest => [] :: splitLines rest
  | c :: rest =>
    match splitLines rest with
    | line :: lines => (c :: line) :: lines
    | [] => [[c]]

/-- The lines of a text in a width. -/
def wrap (limit : Nat) (overflow : Overflow) (side : Side) (text : List Char) :
    List (List Char) :=
  (splitLines text).flatMap fun line =>
    let words := splitWords (expandTabs line)
    let lines := if words.isEmpty then [expandTabs line] else fillLines limit overflow words [] 0
    lines.map (setLine limit overflow side)

end ProtoRefresh.Console
