-- The rewriting of files. The new text goes to a temporary file beside
-- the old one, which then takes its place, so that a file is never seen
-- half written. A file is read and written byte by byte as UTF-8, its line
-- ends as they are. A new text that cannot be written leaves an empty
-- temporary file.
import ProtoRefresh.Glob.Search
import ProtoRefresh.Rewrite.Rule

namespace ProtoRefresh.Rewrite

/-! ## One file -/

/-- How the names of temporary files end. -/
def temporarySuffix : String := ".tmp"

/-- The temporary file beside a file. -/
def temporary (p : Path) : Path := p.parent.child (p.name ++ temporarySuffix)

/-- Rewrites a file and tells whether that changed it. -/
def rewriteFile (p : Path) (rules : List Rule) : Action Bool := do
  let old := Text.points (← Action.readText p)
  let new := rewriteText rules old
  Action.writeText (temporary p) new
  Action.replaceFile (temporary p) p
  return new != old

/-! ## All files below a directory -/

/-- Rewrites files in order and gives those that changed. -/
def rewriteFiles (rules : List Rule) : List Path → Action (List Path)
  | [] => return []
  | p :: rest => do
    let changed ← rewriteFile p rules
    let more ← rewriteFiles rules rest
    return if changed then p :: more else more

/-- Rewrites the files below a directory that a pattern leads to, and gives those that changed. -/
def rewriteTree (directory : Path) (rules : List Rule) (pattern : String) :
    Action (List Path) := do
  let files ← Glob.searchBelow directory pattern
  let changed ← rewriteFiles rules files
  Action.log .info
    ("rewrote " ++ toString changed.length ++ " of " ++ toString files.length ++
      " generated file(s)")
  return changed

end ProtoRefresh.Rewrite
