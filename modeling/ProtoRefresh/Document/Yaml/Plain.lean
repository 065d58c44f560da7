-- Plain text: words without quotes. A colon before a gap and a number
-- sign behind one end it, and so do the signs of the flow style between
-- flow brackets. Over line ends it goes on as long as the lines are
-- indented.
import ProtoRefresh.Document.Yaml.Cursor

namespace ProtoRefresh.Document.Yaml

/-! ## Words -/

/-- Whether plain text may start here. A hyphen, a question mark or a colon starts it only before
a character that is no gap; the latter two do not start it between flow brackets. -/
def startsPlain (flow : Bool) (text : List Char) : Bool :=
  match text with
  | [] => false
  | c :: rest =>
    (!isGap c && !"-?:,[]\x7b\x7d#&*!|>'\"%@`".toList.contains c) ||
      (!endsWord rest.head? && (c == '-' || (!flow && (c == '?' || c == ':'))))

/-- Whether a colon before this character ends plain text. -/
def endsAfterColon (flow : Bool) (after : Option Char) : Bool :=
  endsWord after || (flow && after.any fun c => c != '?' && isFlowSign c)

/-- The characters up to the next gap or sign. -/
def plainRun (flow : Bool) : List Char → List Char
  | [] => []
  | c :: rest =>
    if isGap c || (c = ':' && endsAfterColon flow rest.head?) || (flow && isFlowSign c) then []
    else c :: plainRun flow rest

/-! ## Gaps -/

/-- Line ends and spaces, unless a mark between documents follows a line end. -/
def plainBreaks : Nat → Scan (Option (List Char))
  | 0 => return some []
  | n + 1 => do
    Scan.skipSpaces
    let first ← Scan.lineBreak
    if first.isEmpty then return some []
    if ← Scan.isAtMark then return none
    return (← plainBreaks n).map (first ++ ·)

/-- What stands between two words, and whether it crosses a line end. Nothing stands there where
the text ends. -/
def plainGap : Scan (List Char × Bool) := do
  let spaces ← Scan.takeWhile (· == ' ')
  let first ← Scan.lineBreak
  if first.isEmpty then return (spaces, false)
  if ← Scan.isAtMark then return ([], true)
  match ← plainBreaks (← Scan.bound) with
  | none => return ([], true)
  | some more => return (joinLines first more, true)

/-! ## Text -/

/-- Plain text behind a gap, and whether a line end follows it. -/
def plainFrom (flow : Bool) (indent : Nat) : Nat → List Char → Bool → Scan (List Char × Bool)
  | 0, _, crossed => return ([], crossed)
  | n + 1, gap, crossed => do
    let run := plainRun flow (← Scan.rest)
    if run.isEmpty then return ([], crossed)
    Scan.skip run.length
    let (next, crossed) ← plainGap
    let outside := !flow && (← Scan.column) < indent
    if next.isEmpty || outside || (← Scan.next) = some '#' then return (gap ++ run, crossed)
    let (more, crossed) ← plainFrom flow indent n next crossed
    return (gap ++ run ++ more, crossed)

/-- Plain text in lines of at least the given indentation, and whether a line end follows it. -/
def plain (flow : Bool) (indent : Nat) : Scan (List Char × Bool) := do
  plainFrom flow indent (← Scan.bound) [] false

end ProtoRefresh.Document.Yaml
