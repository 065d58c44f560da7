-- The host that an action runs on: its files, the answers that its
-- commands will give, and what has been run and logged so far. An action
-- that fails keeps every change that it made before.
import ProtoRefresh.Host.Failure
import ProtoRefresh.Text.Newline

namespace ProtoRefresh

/-! ## Commands -/

/-- A file that a command leaves behind, or a directory. -/
structure Output where
  path : Path
  entry : Entry
  deriving DecidableEq, Repr

/-- How a command answers. -/
inductive Outcome
  | ended (status : Int)
  | missing
  | denied
  deriving DecidableEq, Repr

structure Response where
  outcome : Outcome := .ended 0
  stdout : String := ""
  stderr : String := ""
  writes : List Output := []
  /-- What the compiler writes when it is run to describe its inputs. -/
  descriptors : Option Content := none
  deriving DecidableEq, Repr, Inhabited

/-- A command that was run. -/
structure Call where
  argv : List String
  directory : Option String
  captured : Bool
  deriving DecidableEq, Repr

/-! ## Logging -/

inductive Level
  | debug
  | info
  | warning
  | error
  deriving DecidableEq, Repr

def Level.name : Level → String
  | .debug => "DEBUG"
  | .info => "INFO"
  | .warning => "WARNING"
  | .error => "ERROR"

structure LogRecord where
  level : Level
  message : String
  deriving DecidableEq, Repr

/-! ## The host -/

structure Host where
  tree : FileTree
  current : Location
  /-- The directory for files that last no longer than an action. -/
  scratch : Path
  /-- The answers of the commands to come; after the last one a command succeeds silently. -/
  responses : List Response
  calls : List Call
  log : List LogRecord
  deriving Inhabited

/-- An action on a host. -/
abbrev Action := ExceptT Failure (StateM Host)

namespace Action

/-- Fails for a cause. -/
def fail {α : Type} (failure : Failure) : Action α := throw failure

/-- The result of a check, or its failure. -/
def ofExcept {α : Type} (result : Except Failure α) : Action α :=
  match result with
  | .ok a => pure a
  | .error failure => throw failure

/-- The result of an action, or its failure. -/
def attempt {α : Type} (action : Action α) : Action (Except Failure α) :=
  tryCatch (return .ok (← action)) fun failure => return .error failure

def log (level : Level) (message : String) : Action Unit :=
  modify fun host => { host with log := host.log ++ [⟨level, message⟩] }

/-- An action of which only some log records are kept. -/
def keepingLog {α : Type} (kept : LogRecord → Bool) (action : Action α) : Action α :=
  ExceptT.mk fun host =>
    let (result, after) := (action.run).run { host with log := [] }
    (result, { after with log := host.log ++ after.log.filter kept })

def tree : Action FileTree := return (← get).tree

def setTree (tree : FileTree) : Action Unit := modify fun host => { host with tree := tree }

/-- The directory in which an action runs. -/
def currentPath : Action Path := return ⟨1, (← get).current⟩

/-! ## Files -/

def isFile (p : Path) : Action Bool := do
  let host ← get
  return host.tree.isFile host.current p

def isDirectory (p : Path) : Action Bool := do
  let host ← get
  return host.tree.isDirectory host.current p

def pathExists (p : Path) : Action Bool := do
  let host ← get
  return host.tree.pathExists host.current p

/-- Whether a path holds the character that ends paths. -/
def isEnded (p : Path) : Bool := p.parts.any fun part => part.toList.contains '\x00'

/-- The bytes of a file. -/
def readFile (p : Path) : Action Content := do
  if isEnded p then fail (.endedPath .opening)
  let host ← get
  match host.tree.read host.current p with
  | .ok content => return content
  | .error e => fail (.file e p.text)

/-- Text from bytes. -/
def decode (content : Content) : Action String :=
  match Text.decodeUtf8 content with
  | .ok s => return s
  | .error fault => fail (.document (.undecodable fault))

/-- The bytes of a text. -/
def encode (s : String) : Content := s.toUTF8.data.toList

/-- The text of a file, just as it stands. -/
def readText (p : Path) : Action String := do decode (← readFile p)

/-- Applies a change of the tree that may fail on a path. -/
def change (p : Path) (f : FileTree → Location → Except FileError FileTree) : Action Unit := do
  let host ← get
  match f host.tree host.current with
  | .ok tree => setTree tree
  | .error e => fail (.file e p.text)

/-- Writes a file, new or over the old one. -/
def writeFile (p : Path) (content : Content) : Action Unit :=
  change p fun tree current => tree.write current p content

/-- Writes a text to a file. The file is there, and empty, before a text that cannot be written
turns out to be one. -/
def writeText (p : Path) (text : List Text.CodePoint) : Action Unit :=
  match Text.stringOf text with
  | .ok s => writeFile p (encode s)
  | .error fault => do
    writeFile p []
    fail (.unencodable fault)

/-- Moves a file to another path, over a file there. -/
def replaceFile (source target : Path) : Action Unit :=
  change target fun tree current => tree.rename current source target

/-- Moves a file to another path, over a file there, or into the directory there, where its name
has to be free. -/
def moveFile (source target : Path) : Action Unit := do
  if ← isDirectory target then
    if ← pathExists (target.child source.name) then
      let text := target.text
      fail (.taken (text ++ (if text.endsWith "/" then "" else "/") ++ source.name))
    let _ ← readFile source
    replaceFile source (target.child source.name)
  else
    if isEnded target then fail (.endedPath .moving)
    let _ ← readFile source
    replaceFile source target

/-- Makes a directory and those above it. With `existOk` one that is there will do. -/
def makeDirectories : Nat → Path → Bool → Action Unit
  | fuel, p, existOk => do
    if isEnded p then fail (.endedPath .making)
    let host ← get
    match host.tree.makeDirectory host.current p with
    | .ok tree => setTree tree
    | .error .notFound =>
      match fuel with
      | 0 => fail (.file .notFound p.text)
      | fuel + 1 =>
        makeDirectories fuel p.parent true
        let host ← get
        match host.tree.makeDirectory host.current p with
        | .ok tree => setTree tree
        | .error e =>
          if existOk && host.tree.isDirectory host.current p then return
          fail (.file e p.text)
    | .error e =>
      if existOk && host.tree.isDirectory host.current p then return
      fail (.file e p.text)

/-- Makes a directory and those above it, as many as are missing. -/
def ensureDirectory (p : Path) : Action Unit := makeDirectories p.parts.length p true

/-- Makes a new directory and those above it. -/
def makeNewDirectory (p : Path) : Action Unit := makeDirectories p.parts.length p false

/-- Whether a path goes down into what is below a location before it ends. -/
def passesBelow (current place : Location) (p : Path) : Bool :=
  (List.range p.parts.length).any fun k =>
    let passed := (p.parts.take k).foldl
      (fun place part => if part = ".." then place.dropLast else place ++ [part])
      (if p.isAbsolute then [] else current)
    (p.parts.take k).any (· != "..") && place.isPrefixOf passed && passed != place

/-- Removes a directory with all below it. The contents go first, then the directory itself, which
can be removed only by a name of its own, and not over what was in it. -/
def removeTree (p : Path) : Action Unit := do
  let host ← get
  match host.tree.locate host.current p with
  | .error e => fail (.file e p.text)
  | .ok place =>
    match host.tree.get? place with
    | none => fail (.file .notFound p.text)
    | some (.file _) => fail (.notTree p)
    | some .directory =>
      setTree (host.tree.remove fun l => place.isPrefixOf l && l != place)
      if p.parts.isEmpty then fail (.file .invalid p.text)
      if passesBelow host.current place p then fail (.file .notFound p.text)
      if p.name = ".." then fail (.file .notEmpty p.text)
      modify fun host => { host with tree := host.tree.erase place }

/-! ## Commands -/

/-- Leaves a command's outputs behind, with the directories above them. -/
def leave (directory : Path) (outputs : List Output) : Action Unit :=
  outputs.forM fun output => do
    let host ← get
    let p := directory.join output.path
    let place := p.parts.foldl (fun place part => if part = ".." then place.dropLast else place ++ [part])
      (if p.isAbsolute then [] else host.current)
    match output.entry with
    | .file content => setTree (host.tree.withFile place content)
    | .directory => setTree (host.tree.withDirectories place)

/-- The next answer of a command. -/
def nextResponse : Action Response := do
  let host ← get
  match host.responses with
  | [] => return {}
  | response :: rest =>
    set { host with responses := rest }
    return response

/-- Runs a command and gives its output where that is captured. -/
def runCommand (argv : List String) (directory : Option String) (captured : Bool) :
    Action String := do
  log .info ("+ " ++ " ".intercalate argv)
  modify fun host => { host with calls := host.calls ++ [⟨argv, directory, captured⟩] }
  let response ← nextResponse
  leave ((directory.map Path.ofText).getD Path.here) response.writes
  match response.outcome with
  | .missing => if argv.isEmpty then fail .noItem else fail (.command argv none "")
  | .denied => fail (.file .denied (argv.head?.getD ""))
  | .ended status =>
    if status ≠ 0 then fail (.command argv (some status) (if captured then response.stderr else ""))
    return if captured then response.stdout else ""

end Action

end ProtoRefresh
