-- Paths as they are written: leading slashes and names between slashes.
-- Empty names and single dots vanish, double dots stay. Two leading
-- slashes are a root of their own, three or more are one.

namespace ProtoRefresh

/-! ## Paths -/

structure Path where
  /-- The leading slashes: none for a relative path, one or two for an absolute one. -/
  slashes : Nat
  parts : List String
  deriving DecidableEq, Repr, Inhabited

namespace Path

/-- The pieces of a text between slashes. -/
def splitSlash : List Char → List (List Char)
  | [] => [[]]
  | '/' :: rest => [] :: splitSlash rest
  | c :: rest =>
    match splitSlash rest with
    | [] => [[c]]
    | piece :: pieces => (c :: piece) :: pieces

/-- Whether a piece of a text names a step of the path. -/
def isPart (piece : List Char) : Bool := !piece.isEmpty && piece != ['.']

/-- How many leading slashes count. -/
def leadingSlashes (text : List Char) : Nat :=
  let n := (text.takeWhile (· == '/')).length
  if n ≤ 2 then n else 1

/-- The path that a text spells. -/
def ofChars (text : List Char) : Path :=
  ⟨leadingSlashes text, ((splitSlash text).filter isPart).map String.ofList⟩

/-- The path that a string spells. -/
def ofText (s : String) : Path := ofChars s.toList

/-- The written form of a path. -/
def text (p : Path) : String :=
  if p.slashes = 0 && p.parts.isEmpty then "."
  else "".pushn '/' p.slashes ++ "/".intercalate p.parts

/-- The path that names the current directory. -/
def here : Path := ⟨0, []⟩

def isAbsolute (p : Path) : Bool := p.slashes != 0

/-- A path taken from another one; an absolute path stays as it is. -/
def join (p q : Path) : Path := if q.isAbsolute then q else ⟨p.slashes, p.parts ++ q.parts⟩

/-- A path with one more name. -/
def child (p : Path) (name : String) : Path := ⟨p.slashes, p.parts ++ [name]⟩

/-- A path with the path that a string spells after it. -/
def joinText (p : Path) (s : String) : Path := p.join (ofText s)

/-- The last name, empty if there is none. -/
def name (p : Path) : String := p.parts.getLast?.getD ""

/-- The path without its last name. -/
def parent (p : Path) : Path := ⟨p.slashes, p.parts.dropLast⟩

/-- The part of the last name from its last dot on, unless the dot starts or ends the name. -/
def suffix (p : Path) : String :=
  let reversed := p.name.toList.reverse
  let after := reversed.takeWhile (· != '.')
  if after.isEmpty || reversed.length ≤ after.length + 1 then ""
  else String.ofList ('.' :: after.reverse)

/-- The names that a path is compared by: the root, if there is one, is the first of them. -/
def key (p : Path) : List String :=
  if p.isAbsolute then "".pushn '/' p.slashes :: p.parts else p.parts

/-- The order of paths, name by name. -/
def le (p q : Path) : Bool := !decide (q.key < p.key)

/-- What is left of a path behind another one that it starts with. -/
def relativeTo? (p start : Path) : Option Path :=
  if p.slashes = start.slashes && start.parts.isPrefixOf p.parts then
    some ⟨0, p.parts.drop start.parts.length⟩
  else none

/-- Paths in order. -/
def sort (paths : List Path) : List Path := paths.mergeSort le

end Path

end ProtoRefresh
