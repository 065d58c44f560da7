-- The arguments of the command line. A long option may be cut short as
-- long as it stays clear which one is meant, and takes its value behind
-- an equals sign or from the next argument; short options may stand
-- together. All arguments are classified before any of them has an
-- effect, and there are no arguments other than options.
import ProtoRefresh.Text.Letters

namespace ProtoRefresh.CommandLine

/-! ## Options -/

inductive Flag
  | help
  | config
  | root
  | check
  | progress
  | verbose
  deriving DecidableEq, Repr

/-- The long options. -/
def longFlags : List (String × Flag) :=
  [("--help", .help), ("--config", .config), ("--root", .root), ("--check", .check),
   ("--progress", .progress), ("--verbose", .verbose)]

/-- The short option of a letter. -/
def shortFlag? : Char → Option Flag
  | 'h' => some .help
  | 'v' => some .verbose
  | _ => none

/-- Whether an option takes a value. -/
def Flag.takesValue : Flag → Bool
  | .config => true
  | .root => true
  | _ => false

structure Arguments where
  config : Option String := none
  root : Option String := none
  check : Bool := false
  progress : Bool := false
  verbose : Bool := false
  deriving DecidableEq, Repr

/-! ## Classifying -/

/-- What an argument is. -/
inductive Word
  /-- A value for an option before it. -/
  | value (text : String)
  /-- The mark after which there are only values, or an option that does not exist. -/
  | stray
  /-- A long option, perhaps with a value behind an equals sign. -/
  | long (flag : Flag) (attached : Option (List Char))
  /-- A short option with what follows its letter. -/
  | short (flag : Flag) (more : List Char)
  deriving DecidableEq, Repr

/-- Whether an argument is a negative number. A newline may follow it. -/
def isNegative (text : List Char) : Bool :=
  match text with
  | '-' :: number =>
    let number := if number.getLast? = some '\n' then number.dropLast else number
    let whole := number.takeWhile Text.isDecimal
    let rest := number.drop whole.length
    match rest with
    | [] => !whole.isEmpty
    | '.' :: fraction => !fraction.isEmpty && fraction.all Text.isDecimal
    | _ => false
  | _ => false

/-- What an argument is that looks like an option and is none. -/
def Word.unknown (text : List Char) : Word :=
  if isNegative text || text.contains ' ' then .value (String.ofList text) else .stray

/-- What an argument with two hyphens is, unless it is unclear which option it means. -/
def Word.ofLong (text : List Char) : Option Word :=
  let name := text.takeWhile (· != '=')
  let attached := if name.length < text.length then some (text.drop (name.length + 1)) else none
  match longFlags.lookup (String.ofList name) with
  | some flag => some (.long flag attached)
  | none =>
    match longFlags.filter fun entry => name.isPrefixOf entry.1.toList with
    | [] => some (.unknown text)
    | [entry] => some (.long entry.2 attached)
    | _ => none

/-- What an argument is, unless it is unclear which option it means. -/
def Word.ofText (text : List Char) : Option Word :=
  match text with
  | '-' :: '-' :: _ => Word.ofLong text
  | ['-'] => some (.value "-")
  | '-' :: letter :: more =>
    match shortFlag? letter with
    | some flag => some (.short flag more)
    | none => some (.unknown text)
  | _ => some (.value (String.ofList text))

/-- What the arguments are. -/
def readWords : List String → Option (List Word)
  | [] => some []
  | "--" :: rest => some (.stray :: rest.map Word.value)
  | text :: rest => do
    let word ← Word.ofText text.toList
    return word :: (← readWords rest)

/-! ## Effects -/

/-- Why there are no arguments to go on with. -/
inductive Stop
  | helpGiven
  | misused
  deriving DecidableEq, Repr

def Stop.status : Stop → Nat
  | .helpGiven => 0
  | .misused => 2

/-- The short options in one argument, and whether a letter among them is none. -/
def readCluster (flag : Flag) : List Char → Option (List Flag × Bool)
  | [] => some ([flag], false)
  | '-' :: _ => none
  | '=' :: _ => none
  | letter :: more =>
    match shortFlag? letter with
    | none => some ([flag], true)
    | some next => (readCluster next more).map fun (flags, stray) => (flag :: flags, stray)

/-- The arguments after an option without a value. -/
def Arguments.switch (arguments : Arguments) : Flag → Except Stop Arguments
  | .help => .error .helpGiven
  | .check => .ok { arguments with check := true }
  | .progress => .ok { arguments with progress := true }
  | .verbose => .ok { arguments with verbose := true }
  | _ => .error .misused

/-- The arguments after an option with a value. -/
def Arguments.give (arguments : Arguments) (flag : Flag) (value : String) : Arguments :=
  match flag with
  | .config => { arguments with config := value }
  | .root => { arguments with root := value }
  | _ => arguments

/-- The arguments that words make; `stray` tells that some word before is not to be used. -/
def applyWords : List Word → Arguments → Bool → Except Stop Arguments
  | [], arguments, stray => if stray then .error .misused else .ok arguments
  | .value _ :: rest, arguments, _ => applyWords rest arguments true
  | .stray :: rest, arguments, _ => applyWords rest arguments true
  | .long flag (some attached) :: rest, arguments, stray =>
    if flag.takesValue then applyWords rest (arguments.give flag (String.ofList attached)) stray
    else .error .misused
  | .long flag none :: rest, arguments, stray =>
    if flag.takesValue then
      match rest with
      | .value text :: rest => applyWords rest (arguments.give flag text) stray
      | _ => .error .misused
    else do applyWords rest (← arguments.switch flag) stray
  | .short flag more :: rest, arguments, stray =>
    match readCluster flag more with
    | none => .error .misused
    | some (flags, unknown) => do
      applyWords rest (← flags.foldlM Arguments.switch arguments) (stray || unknown)

/-- The arguments of a command line. -/
def Arguments.ofTexts (texts : List String) : Except Stop Arguments :=
  match readWords texts with
  | some words => applyWords words {} false
  | none => .error .misused

end ProtoRefresh.CommandLine
