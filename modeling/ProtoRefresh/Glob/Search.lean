-- The search for files below a directory. A pattern is a relative path
-- whose names may be name patterns; a name of two stars stands for any
-- number of directories. Names that start with a dot are no exception.
import ProtoRefresh.Glob.Name
import ProtoRefresh.Host.Basic

namespace ProtoRefresh.Glob

/-! ## Patterns -/

/-- One step of a search. -/
inductive Stage
  /-- This directory and all below it. -/
  | deep
  | names (pattern : String)
  | exactly (name : String)
  deriving DecidableEq, Repr

/-- Where a search goes, and whether it ends at directories only. -/
structure Query where
  stages : List Stage
  directoriesOnly : Bool
  deriving DecidableEq, Repr

/-- Whether two stars stand side by side. -/
def hasStars : List Char → Bool
  | '*' :: '*' :: _ => true
  | _ :: rest => hasStars rest
  | [] => false

/-- The stage that a name of a pattern spells. -/
def Stage.ofName (name : String) : Except GlobFault Stage :=
  if name = "**" then .ok .deep
  else if hasStars name.toList then .error .starsInName
  else if isPattern name then .ok (.names name)
  else .ok (.exactly name)

/-- The query that a text spells. -/
def Query.ofText (pattern : String) : Except GlobFault Query := do
  let path := Path.ofText pattern
  if path.isAbsolute then throw .absolute
  return ⟨← path.parts.mapM Stage.ofName, pattern.toList.getLast? = some '/'⟩

/-! ## Searching -/

/-- The directories at and below a path. The number bounds how deep they nest. -/
def directoriesBelow (tree : FileTree) (current : Location) : Nat → Path → List Path
  | 0, start => [start]
  | depth + 1, start =>
    start :: (tree.list current start).flatMap fun name =>
      if tree.isDirectory current (start.child name) then
        directoriesBelow tree current depth (start.child name)
      else []

/-- How deep the entries of a tree nest at most. -/
def depth (tree : FileTree) : Nat := tree.entries.foldl (fun n entry => max n entry.1.length) 0

/-- The paths that stages lead to from a directory. -/
def follow (tree : FileTree) (current : Location) (directoriesOnly : Bool) :
    List Stage → Path → List Path
  | [], start => [start]
  | stage :: rest, start =>
    let onlyDirectories := directoriesOnly || !rest.isEmpty
    let fits := fun p =>
      if onlyDirectories then tree.isDirectory current p else tree.pathExists current p
    match stage with
    | .deep =>
      ((directoriesBelow tree current (depth tree) start).flatMap
        (follow tree current directoriesOnly rest)).eraseDups
    | .names pattern =>
      (tree.list current start).flatMap fun name =>
        if nameMatches pattern name && fits (start.child name) then
          follow tree current directoriesOnly rest (start.child name)
        else []
    | .exactly name =>
      if fits (start.child name) then follow tree current directoriesOnly rest (start.child name)
      else []

/-- The paths that a query leads to from a directory; there are none from elsewhere. -/
def Query.paths (query : Query) (tree : FileTree) (current : Location) (start : Path) :
    List Path :=
  if tree.isDirectory current start then
    follow tree current query.directoriesOnly query.stages start
  else []

/-- The files that a query leads to, in order. -/
def Query.files (query : Query) (tree : FileTree) (current : Location) (start : Path) :
    List Path :=
  Path.sort ((query.paths tree current start).filter (tree.isFile current))

/-! ## Actions -/

/-- The files in a directory that a pattern leads to, in order. -/
def search (start : Path) (pattern : String) : Action (List Path) := do
  let query ← Action.ofExcept ((Query.ofText pattern).mapError Failure.glob)
  let host ← get
  return query.files host.tree host.current start

/-- The files anywhere below a directory that a pattern leads to, in order. -/
def searchBelow (start : Path) (pattern : String) : Action (List Path) := do
  let query ← Action.ofExcept ((Query.ofText pattern).mapError Failure.glob)
  let host ← get
  let query := { query with stages := .deep :: query.stages }
  return query.files host.tree host.current start

end ProtoRefresh.Glob
