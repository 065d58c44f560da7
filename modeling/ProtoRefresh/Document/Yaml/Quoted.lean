-- Text between quotes. Between single quotes a quote is written twice;
-- between double quotes a backslash starts an escape. An escape may spell
-- a half of a pair; two halves do not become one character. Line ends are
-- joined as between words of plain text.
import ProtoRefresh.Document.Yaml.Cursor
import ProtoRefresh.Text.CodePoint

namespace ProtoRefresh.Document.Yaml

open Text

/-! ## Escapes -/

/-- The character of a short escape. -/
def escapeOf? : Char → Option Char
  | '0' => some '\x00'
  | 'a' => some '\x07'
  | 'b' => some '\x08'
  | 't' => some '\t'
  | '\t' => some '\t'
  | 'n' => some '\n'
  | 'v' => some '\x0b'
  | 'f' => some '\x0c'
  | 'r' => some '\r'
  | 'e' => some '\x1b'
  | ' ' => some ' '
  | '"' => some '"'
  | '\\' => some '\\'
  | '/' => some '/'
  | 'N' => some '\u0085'
  | '_' => some '\u00a0'
  | 'L' => some '\u2028'
  | 'P' => some '\u2029'
  | _ => none

/-- The number of digits in an escape for a character by its code. -/
def codeLength? : Char → Option Nat
  | 'x' => some 2
  | 'u' => some 4
  | 'U' => some 8
  | _ => none

/-- The code point with a code. -/
def pointOfCode (code : Nat) : Except YamlError CodePoint :=
  if code < 0x110000 then .ok (.ofCode code)
  else if code < 0x80000000 then .error .noCharacter
  else .error .tooLarge

/-! ## Gaps -/

/-- Line ends with the white space before each line. -/
def quotedBreaks : Nat → Scan (List Char)
  | 0 => return []
  | n + 1 => do
    if ← Scan.isAtMark then Scan.fail
    let _ ← Scan.takeWhile isTabOrSpace
    let first ← Scan.lineBreak
    if first.isEmpty then return []
    return first ++ (← quotedBreaks n)

/-- What stands between two words. -/
def quotedGap : Scan (List Char) := do
  let blanks ← Scan.takeWhile isTabOrSpace
  if (← Scan.next).isNone then Scan.fail
  let first ← Scan.lineBreak
  if first.isEmpty then return blanks
  return joinLines first (← quotedBreaks (← Scan.bound))

/-! ## Words -/

/-- The text of an escape behind its backslash. A line end there vanishes. -/
def escape : Scan (List CodePoint) := do
  match ← Scan.next with
  | none => Scan.fail
  | some c =>
    if isBreak c then
      let _ ← Scan.lineBreak
      return ofChars (← quotedBreaks (← Scan.bound))
    else
      Scan.skip 1
      match escapeOf? c, codeLength? c with
      | some e, _ => return [.char e]
      | none, some length =>
        let digits := (← Scan.rest).take length
        match hexNumber? digits with
        | some code =>
          if digits.length < length then Scan.fail
          Scan.skip length
          return [← (pointOfCode code : Except YamlError CodePoint)]
        | none => Scan.fail
      | none, none => Scan.fail

/-- The text up to the next gap or the closing quote. -/
def quotedRun (double : Bool) : Nat → Scan (List CodePoint)
  | 0 => return []
  | n + 1 => do
    let run := ofChars (← Scan.takeWhile fun c => !isGap c && c != '\'' && c != '"' && c != '\\')
    match double, ← Scan.rest with
    | false, '\'' :: '\'' :: _ =>
      Scan.skip 2
      return run ++ .char '\'' :: (← quotedRun double n)
    | true, '\\' :: _ =>
      Scan.skip 1
      let text ← escape
      return run ++ text ++ (← quotedRun double n)
    | _, c :: _ =>
      if isGap c || c = (if double then '"' else '\'') then return run
      Scan.skip 1
      return run ++ .char c :: (← quotedRun double n)
    | _, [] => return run

/-! ## Text -/

/-- What is left of the text up to the closing quote. -/
def quotedRest (double : Bool) : Nat → Scan (List CodePoint)
  | 0 => Scan.fail
  | n + 1 => do
    if (← Scan.next) = some (if double then '"' else '\'') then
      Scan.skip 1
      return []
    let gap ← quotedGap
    let run ← quotedRun double (← Scan.bound)
    return ofChars gap ++ run ++ (← quotedRest double n)

/-- Text from its opening quote to its closing one. -/
def quotedText (double : Bool) : Scan (List CodePoint) := do
  Scan.skip 1
  let run ← quotedRun double (← Scan.bound)
  return run ++ (← quotedRest double (← Scan.bound))

end ProtoRefresh.Document.Yaml
