-- The state in which a pattern is read. The text is cut into tokens, a
-- backslash and the character after it being one token; groups are
-- numbered by their opening, and flags hold from where they are set.
import ProtoRefresh.Pattern.Node
import ProtoRefresh.Text.Quoted

namespace ProtoRefresh.Pattern

open Text

/-! ## Errors -/

/-- Why a text is no pattern. -/
inductive PatternError
  /-- The text does not follow the rules for patterns. -/
  | malformed
  /-- A count of rounds is too large. -/
  | tooManyRounds
  /-- The pattern asks for both alphabets at once. -/
  | clashingAlphabets
  deriving DecidableEq, Repr

/-- Counts of rounds of this size and more are too large, and so are widths of a look behind above
it. -/
def roundLimit : Nat := 4294967295

/-! ## Tokens -/

inductive Token
  | plain (c : Char)
  | escaped (c : Char)
  deriving DecidableEq, Repr

namespace Token

/-- A half of a pair is read as if its code were written out. -/
def ofHalf (place : Fin 2048) : List Token :=
  .escaped 'u' :: (Text.hexDigits 4 (CodePoint.half place).code).map .plain

/-- The tokens of a text, unless it ends in a backslash of its own. A half stands for itself, after
a backslash too. -/
def ofText : List CodePoint → Option (List Token)
  | [] => some []
  | .char '\\' :: [] => none
  | .char '\\' :: .char c :: rest => (ofText rest).map (.escaped c :: ·)
  | .char '\\' :: .half place :: rest => (ofText rest).map (ofHalf place ++ ·)
  | .char c :: rest => (ofText rest).map (.plain c :: ·)
  | .half place :: rest => (ofText rest).map (ofHalf place ++ ·)

/-- The characters of a token. -/
def chars : Token → List Char
  | .plain c => [c]
  | .escaped c => ['\\', c]

end Token

/-! ## Flags -/

/-- The flags in force at a place of the pattern. -/
structure Flags where
  ignoreCase : Bool := false
  multiline : Bool := false
  dotAll : Bool := false
  verbose : Bool := false
  ascii : Bool := false
  template : Bool := false
  deriving DecidableEq, Repr

namespace Flags

def alphabet (flags : Flags) : Alphabet := if flags.ascii then .ascii else .unicode

def caseRule (flags : Flags) : CaseRule :=
  if flags.ignoreCase then .ignored flags.alphabet else .exact

/-- The flags with one more letter in force, or one fewer. -/
def set (flags : Flags) (letter : Char) (value : Bool) : Flags :=
  match letter with
  | 'i' => { flags with ignoreCase := value }
  | 'm' => { flags with multiline := value }
  | 's' => { flags with dotAll := value }
  | 'x' => { flags with verbose := value }
  | 'a' => { flags with ascii := value }
  | 'u' => { flags with ascii := !value }
  | 't' => { flags with template := value }
  | _ => flags

/-- A letter that names a flag. -/
def isLetter (c : Char) : Bool := "iLmsxatu".toList.contains c

end Flags

/-! ## The state of the reader -/

structure Reading where
  input : List Token
  /-- The number of groups opened so far, the whole match counted. -/
  groups : Nat := 1
  names : List (List Char × Nat) := []
  /-- The widths of the groups closed so far. -/
  widths : List (Nat × Width) := []
  /-- Inside a look behind, the number of groups opened before it. -/
  behindFrom : Option Nat := none
  /-- The groups that conditions name by number. -/
  asked : List Nat := []
  flags : Flags := {}
  sawAscii : Bool := false
  sawUnicode : Bool := false
  /-- Something that can be read but not matched, such as a look behind of no fixed width. -/
  unfit : Bool := false

abbrev Read := StateT Reading (Except PatternError)

namespace Read

def fail {α : Type} : Read α := throw .malformed

/-- The next token, which stays. -/
def peek : Read (Option Token) := do return (← get).input.head?

/-- The next token, which is taken. -/
def take : Read (Option Token) := do
  let s ← get
  set { s with input := s.input.tail }
  return s.input.head?

/-- The next token, where there has to be one. -/
def need : Read Token := do
  match ← take with
  | some t => return t
  | none => fail

/-- Takes the character if it comes next. -/
def accept (c : Char) : Read Bool := do
  if (← peek) = some (.plain c) then
    let _ ← take
    return true
  return false

def expect (c : Char) : Read Unit := do unless ← accept c do fail

/-- Up to `n` characters of a class. -/
def takeWhile (p : Char → Bool) : Nat → Read (List Char)
  | 0 => return []
  | n + 1 => do
    match ← peek with
    | some (.plain c) =>
      if p c then
        let _ ← take
        return c :: (← takeWhile p n)
      else return []
    | _ => return []

/-- A name up to a closing character, which is taken too. -/
def takeName (close : Char) : Read (List Char) := do
  let s ← get
  let name := s.input.takeWhile (· != .plain close)
  match s.input.drop name.length with
  | [] => fail
  | _ :: rest =>
    if name.isEmpty then fail
    set { s with input := rest }
    return name.flatMap Token.chars

end Read

end ProtoRefresh.Pattern
