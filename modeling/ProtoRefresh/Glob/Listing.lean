-- The listing of the paths that a pattern stands for, as a shell would
-- list them: the pattern is a text whose names may be name patterns, the
-- results are texts spelled as the pattern is. A star does not match a
-- dot at the start of a name, and two stars are no more than one.
import ProtoRefresh.Glob.Name
import ProtoRefresh.Host.Basic

namespace ProtoRefresh.Glob

/-! ## Texts of paths -/

/-- The text after the last slash, and the text before it without slashes at its end. Where that
is nothing but slashes they stay. -/
def splitLast (pattern : List Char) : List Char × List Char :=
  let last := (pattern.reverse.takeWhile (· != '/')).reverse
  let before := pattern.take (pattern.length - last.length)
  let trimmed := (before.reverse.dropWhile (· == '/')).reverse
  (if trimmed.isEmpty then before else trimmed, last)

theorem splitLast_shorter (pattern : List Char) (h : (splitLast pattern).1 ≠ pattern) :
    (splitLast pattern).1.length < pattern.length := by
  have drop_le : ∀ l : List Char, (l.dropWhile (· == '/')).length ≤ l.length := fun l =>
    (List.dropWhile_sublist _).length_le
  have take_le := List.length_take_le (pattern.length -
    (pattern.reverse.takeWhile (· != '/')).reverse.length) pattern
  have total : ∀ l : List Char, l.length ≤ pattern.length → l <+: pattern → l ≠ pattern →
      l.length < pattern.length := fun l hl hp hne =>
    Nat.lt_of_le_of_ne hl fun he => hne (hp.eq_of_length he)
  have isPref : (splitLast pattern).1 <+: pattern := by
    simp only [splitLast]
    split
    · exact List.take_prefix _ _
    · refine List.IsPrefix.trans ?_ (List.take_prefix
        (pattern.length - (pattern.reverse.takeWhile (· != '/')).reverse.length) pattern)
      rw [← List.reverse_suffix, List.reverse_reverse]
      exact List.dropWhile_suffix _
  exact total _ isPref.length_le isPref h

/-- One text of a path after another one; an absolute one stays as it is. -/
def joinTexts (directory name : List Char) : List Char :=
  if name.head? = some '/' then name
  else if directory.isEmpty || directory.getLast? = some '/' then directory ++ name
  else directory ++ '/' :: name

/-- The text of a directory with a name in it, either of which may be missing. -/
def underRoot (root name : List Char) : List Char :=
  if root.isEmpty || name.isEmpty then root ++ name else joinTexts root name

/-! ## Listing -/

/-- The names in a directory, without those of plain files where only directories will do. -/
def namesIn (tree : FileTree) (current : Location) (directory : List Char)
    (onlyDirectories : Bool) : List String :=
  let p := Path.ofChars directory
  (tree.list current p).filter fun name =>
    !onlyDirectories || tree.isDirectory current (p.child name)

/-- A name that a listing passes over. -/
def isHidden (name : List Char) : Bool := name.head? = some '.'

/-- The names in a directory that a pattern stands for. -/
def matchingNames (tree : FileTree) (current : Location) (directory pattern : List Char)
    (onlyDirectories : Bool) : List (List Char) :=
  let names := (namesIn tree current directory onlyDirectories).map String.toList
  (names.filter fun name => isHidden pattern || !isHidden name).filter (accepts (readPattern pattern))

/-- A name, if it is in a directory. Without a name the directory itself counts. -/
def presentName (tree : FileTree) (current : Location) (directory name : List Char) :
    List (List Char) :=
  let present :=
    if name.isEmpty || name = ['.'] then tree.isDirectory current (Path.ofChars directory)
    else tree.pathExists current (Path.ofChars (underRoot directory name))
  if present then [name] else []

/-- The texts that a pattern stands for, seen from a root. -/
def listing (tree : FileTree) (current : Location) (root : List Char) (onlyDirectories : Bool)
    (pattern : List Char) : List (List Char) :=
  let (directory, name) := splitLast pattern
  if directory.isEmpty then matchingNames tree current root name onlyDirectories
  else
    let directories :=
      if h : (splitLast pattern).1 ≠ pattern ∧ isPattern (String.ofList directory) then
        have := splitLast_shorter pattern h.1
        listing tree current root true (splitLast pattern).1
      else [directory]
    directories.flatMap fun directory =>
      let place := underRoot root directory
      let names :=
        if isPattern (String.ofList name) then
          matchingNames tree current place name onlyDirectories
        else presentName tree current place name
      names.map (joinTexts directory)
termination_by pattern.length

/-- Whether a listing has to look into a directory whose spelling holds the character that ends
paths. -/
def looksPastEnd (root pattern : List Char) : Bool :=
  let literal := (Path.splitSlash pattern).takeWhile fun piece => !isPattern (String.ofList piece)
  (pattern.head? != some '/' && root.contains '\x00') || literal.any (·.contains '\x00')

/-- The files in a root that a pattern stands for, by code points. -/
def listFiles (root : Path) (pattern : String) : Action (List String) := do
  if looksPastEnd root.text.toList pattern.toList then Action.fail (.endedPath .listing)
  let host ← get
  let texts := (listing host.tree host.current root.text.toList false pattern.toList).map
    String.ofList
  let files := texts.filter fun text => host.tree.isFile host.current (root.joinText text)
  return files.mergeSort fun a b => decide (a ≤ b)

end ProtoRefresh.Glob
