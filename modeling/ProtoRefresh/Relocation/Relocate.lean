-- The relocation of generated files. The sources of all moves are taken
-- in order; each one gets the files that it names or matches and that no
-- source before it has got.
import ProtoRefresh.Checksum.Crc32c
import ProtoRefresh.Glob.Search
import ProtoRefresh.Relocation.Move

namespace ProtoRefresh.Relocation

/-! ## Sources -/

/-- One source of a move. -/
structure Source where
  pattern : String
  dest : String
  rename : Option String
  deriving DecidableEq, Repr

/-- The sources of some moves in order. -/
def sourcesOf (moves : List Move) : List Source :=
  moves.flatMap fun move => move.sources.map fun pattern => ⟨pattern, move.dest, move.rename⟩

/-- The files that a source gets, in order. -/
def expand (directory : Path) (pattern : String) (claimed : List Path) : Action (List Path) := do
  if Glob.isPattern pattern then
    let found := (← Glob.search directory pattern).filter fun p => !claimed.contains p
    if found.isEmpty then Action.fail (.placement (.noMatch pattern directory))
    return found
  else
    let p := directory.joinText pattern
    if claimed.contains p then Action.fail (.placement (.noFile pattern directory))
    if !(← Action.isFile p) then Action.fail (.placement (.noFile pattern directory))
    return [p]

/-! ## Placing -/

/-- The checksum of a file. -/
def fileChecksum (p : Path) : Action UInt32 := return Checksum.crc32c (← Action.readFile p)

/-- Whether a target is no file, or one that differs from another file by its checksum. -/
def differs (target p : Path) : Action Bool := do
  if ← Action.isFile target then
    return (← fileChecksum target) != (← fileChecksum p)
  else return true

/-- Where a file of a source goes. An empty new name is none. -/
def Source.target (source : Source) (root p : Path) : Path :=
  let name := (source.rename.filter (· != "")).getD p.name
  (root.joinText source.dest).joinText name

/-- Places one file. In a dry run all files stay where they are. -/
def place (root : Path) (dryRun : Bool) (source : Source) (p : Path) : Action Placement := do
  let target := source.target root p
  let changed ← differs target p
  if !dryRun then
    Action.ensureDirectory (root.joinText source.dest)
    Action.moveFile p target
  Action.log .debug (p.name ++ " -> " ++ target.text ++ (if changed then "" else " (unchanged)"))
  return ⟨p.name, target, changed⟩

/-- Places the files of some sources, of which some files are gone already. -/
def placeSources (directory root : Path) (dryRun : Bool) :
    List Source → List Path → Action (List Placement)
  | [], _ => return []
  | source :: rest, claimed => do
    let found ← expand directory source.pattern claimed
    let placed ← found.mapM (place root dryRun source)
    return placed ++ (← placeSources directory root dryRun rest (claimed ++ found))

/-- Places generated files by moves in order. -/
def relocate (directory root : Path) (moves : List Move) (dryRun : Bool) :
    Action (List Placement) :=
  placeSources directory root dryRun (sourcesOf moves) []

end ProtoRefresh.Relocation
