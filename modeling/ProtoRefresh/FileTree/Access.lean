-- Paths looked up in a tree, and the basic changes of a tree by path. A
-- path is walked name by name from the root or the current directory:
-- each name before the last has to be a directory that exists, and a
-- double dot steps back up from where the walk has got.
import ProtoRefresh.FileTree.Basic
import ProtoRefresh.Path.Basic

namespace ProtoRefresh

/-! ## Errors -/

/-- Why a path cannot be used. -/
inductive FileError
  | notFound
  | denied
  | alreadyExists
  | notDirectory
  | isDirectory
  | invalid
  | notEmpty
  deriving DecidableEq, Repr

def FileError.number : FileError → Nat
  | .notFound => 2
  | .denied => 13
  | .alreadyExists => 17
  | .notDirectory => 20
  | .isDirectory => 21
  | .invalid => 22
  | .notEmpty => 39

def FileError.phrase : FileError → String
  | .notFound => "No such file or directory"
  | .denied => "Permission denied"
  | .alreadyExists => "File exists"
  | .notDirectory => "Not a directory"
  | .isDirectory => "Is a directory"
  | .invalid => "Invalid argument"
  | .notEmpty => "Directory not empty"

namespace FileTree

/-! ## Walking -/

/-- Fails unless a directory is at a location. -/
def requireDirectory (tree : FileTree) (place : Location) : Except FileError Unit :=
  match tree.get? place with
  | some .directory => .ok ()
  | some (.file _) => .error .notDirectory
  | none => .error .notFound

/-- One step of a walk. -/
def step (tree : FileTree) (place : Location) (name : String) : Except FileError Location := do
  tree.requireDirectory place
  return if name = ".." then place.dropLast else place ++ [name]

/-- The location of a path, which need not hold anything. -/
def locate (tree : FileTree) (current : Location) (p : Path) : Except FileError Location :=
  p.parts.foldlM tree.step (if p.isAbsolute then [] else current)

/-- What a path leads to. -/
def stat (tree : FileTree) (current : Location) (p : Path) : Except FileError Entry := do
  let place ← tree.locate current p
  match tree.get? place with
  | some entry => return entry
  | none => throw .notFound

/-- Whether a path leads to anything. -/
def pathExists (tree : FileTree) (current : Location) (p : Path) : Bool :=
  match tree.stat current p with
  | .ok _ => true
  | .error _ => false

/-- Whether a path leads to a file. -/
def isFile (tree : FileTree) (current : Location) (p : Path) : Bool :=
  match tree.stat current p with
  | .ok (.file _) => true
  | _ => false

/-- Whether a path leads to a directory. -/
def isDirectory (tree : FileTree) (current : Location) (p : Path) : Bool :=
  match tree.stat current p with
  | .ok .directory => true
  | _ => false

/-- The names in the directory that a path leads to; there are none elsewhere. -/
def list (tree : FileTree) (current : Location) (p : Path) : List String :=
  match tree.locate current p with
  | .ok place => if tree.isDirectoryAt place then tree.names place else []
  | .error _ => []

/-! ## Reading and writing -/

/-- The bytes of the file that a path leads to. -/
def read (tree : FileTree) (current : Location) (p : Path) : Except FileError Content := do
  match ← tree.stat current p with
  | .file content => return content
  | .directory => throw .isDirectory

/-- The location at which a path could hold a file. -/
def placeForFile (tree : FileTree) (current : Location) (p : Path) :
    Except FileError Location := do
  let place ← tree.locate current p
  match tree.get? place with
  | some .directory => throw .isDirectory
  | some (.file _) => return place
  | none =>
    tree.requireDirectory place.dropLast
    return place

/-- The tree after a file is written, new or over the old one. -/
def write (tree : FileTree) (current : Location) (p : Path) (content : Content) :
    Except FileError FileTree := do
  return tree.set (← tree.placeForFile current p) (.file content)

/-- The tree after a file is moved to another path, over a file there. -/
def rename (tree : FileTree) (current : Location) (source target : Path) :
    Except FileError FileTree := do
  let sourcePlace ← tree.locate current source
  match tree.get? sourcePlace with
  | some (.file content) =>
    let targetPlace ← tree.placeForFile current target
    return (tree.erase sourcePlace).set targetPlace (.file content)
  | some .directory => throw .invalid
  | none => throw .notFound

/-- The tree after one directory is made. -/
def makeDirectory (tree : FileTree) (current : Location) (p : Path) :
    Except FileError FileTree := do
  let place ← tree.locate current p
  match tree.get? place with
  | some _ => throw .alreadyExists
  | none =>
    tree.requireDirectory place.dropLast
    return tree.set place .directory

end FileTree

end ProtoRefresh
