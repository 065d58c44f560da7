-- The tree of a document: texts, sequences and mappings, each with its
-- tag. An alias is the node that its anchor names; inside that node
-- itself it is an empty one of its kind.
import ProtoRefresh.Document.Yaml.Shape
import ProtoRefresh.Document.Yaml.Token

namespace ProtoRefresh.Document.Yaml

/-! ## Nodes -/

inductive Node
  | scalar (tag : Tag) (text : List Text.CodePoint)
  | sequence (tag : Tag) (items : List Node)
  | mapping (tag : Tag) (entries : List (Node × Node))
  deriving Repr

/-- The node that stands where nothing is written. -/
def Node.empty : Node := .scalar (.ofWord []) ""

/-! ## The state of the reading -/

structure Growth where
  tokens : List Token
  /-- The nodes with a name, the last one first. -/
  anchors : List (String × Node) := []
  /-- What the handles of tags stand for. -/
  handles : List (String × String) := []

abbrev Grow := StateT Growth (Except YamlError)

namespace Grow

def fail {α : Type} : Grow α := throw .malformed

def next : Grow (Option Token) := return (← get).tokens.head?

def skip : Grow Unit := modify fun s => { s with tokens := s.tokens.tail }

/-- Takes the token if it comes next. -/
def accept (token : Token) : Grow Bool := do
  if (← next) = some token then
    skip
    return true
  return false

def expect (token : Token) : Grow Unit := do unless ← accept token do fail

/-- Whether one of the tokens comes next. -/
def isBefore (tokens : List Token) : Grow Bool := return (← next).any tokens.contains

/-! ## Properties -/

/-- The name that an anchor gives, if one comes next. -/
def anchor? : Grow (Option String) := do
  match ← next with
  | some (.anchor name) =>
    skip
    return some name
  | _ => return none

/-- The tag, if one comes next, with what its handle stands for. -/
def tag? : Grow (Option String) := do
  match ← next with
  | some (.tag name) =>
    skip
    match name.handle with
    | none => return some name.rest
    | some handle =>
      match (← get).handles.lookup handle with
      | some start => return some (start ++ name.rest)
      | none => fail
  | _ => return none

/-- An anchor and a tag, in either order. -/
def properties : Grow (Option String × Option String) := do
  let before ← anchor?
  let tag ← tag?
  let after ← if before.isNone && tag.isSome then anchor? else pure none
  return (before.or after, tag)

/-- Gives a node the name of its anchor. -/
def name (anchor : Option String) (node : Node) : Grow Unit :=
  match anchor with
  | some name => modify fun s => { s with anchors := (name, node) :: s.anchors }
  | none => return

/-- Whether the name of an anchor has been given before. -/
def isTaken (anchor : Option String) : Grow Bool := do
  let anchors := (← get).anchors
  return anchor.any fun name => (anchors.lookup name).isSome

/-- A tag that is written, unless it only says that the text is no plain word. -/
def givenTag (tag : Option String) (standard : Tag) : Tag :=
  match tag with
  | some "!" => standard
  | some name => .ofName name
  | none => standard

/-! ## Nodes -/

/-- A collection whose items are read by `items`. Until they are, its name stands for an empty
one. -/
def collection {α : Type} (anchor : Option String) (make : List α → Node)
    (items : Grow (List α)) : Grow Node := do
  name anchor (make [])
  let node := make (← items)
  name anchor node
  return node

mutual

/-- A node. Collections in the block style may come only where `block` holds, and items that are
indented no further than the keys around them only where `indentless` holds. -/
def node : Nat → Bool → Bool → Grow Node
  | 0, _, _ => fail
  | fuel + 1, block, indentless => do
    match ← next with
    | some (.alias name) =>
      skip
      match (← get).anchors.lookup name with
      | some node => return node
      | none => fail
    | _ =>
      let (anchor, tag) ← properties
      if ← isTaken anchor then fail
      let sequence := Node.sequence (givenTag tag .list)
      let mapping := Node.mapping (givenTag tag .map)
      match ← next with
      | some (.scalar text plain) =>
        skip
        let standard := if plain || tag.isSome then Tag.ofWord (Text.shownChars text) else .text
        let node := Node.scalar (givenTag tag standard) text
        name anchor node
        return node
      | some .flowSequence =>
        skip
        collection anchor sequence (flowItems fuel true)
      | some .flowMapping =>
        skip
        collection anchor mapping (flowEntries fuel true)
      | token =>
        if indentless && token = some .entry then collection anchor sequence (looseItems fuel)
        else if block && token = some .blockSequence then
          skip
          collection anchor sequence (blockItems fuel)
        else if block && token = some .blockMapping then
          skip
          collection anchor mapping (blockEntries fuel)
        else if anchor.isSome || tag.isSome then
          let node := Node.scalar (givenTag tag (.ofWord [])) ""
          name anchor node
          return node
        else fail

/-- A node, or the empty one before one of the given tokens. -/
def nodeUnless : Nat → List Token → Bool → Bool → Grow Node
  | 0, _, _, _ => fail
  | fuel + 1, ends, block, indentless => do
    if ← isBefore ends then return .empty
    node fuel block indentless

/-- The items of a block up to its end. -/
def blockItems : Nat → Grow (List Node)
  | 0 => fail
  | fuel + 1 => do
    if ← accept .entry then
      let item ← nodeUnless fuel [.entry, .blockEnd] true false
      return item :: (← blockItems fuel)
    expect .blockEnd
    return []

/-- Items that are indented no further than the keys around them. -/
def looseItems : Nat → Grow (List Node)
  | 0 => fail
  | fuel + 1 => do
    if ← accept .entry then
      let item ← nodeUnless fuel [.entry, .key, .value, .blockEnd] true false
      return item :: (← looseItems fuel)
    return []

/-- The entries of a block up to its end. -/
def blockEntries : Nat → Grow (List (Node × Node))
  | 0 => fail
  | fuel + 1 => do
    if ← accept .key then
      let key ← nodeUnless fuel [.key, .value, .blockEnd] true true
      let value ←
        if ← accept .value then nodeUnless fuel [.key, .value, .blockEnd] true true
        else pure .empty
      return (key, value) :: (← blockEntries fuel)
    expect .blockEnd
    return []

/-- The items between flow brackets. An entry among them is a mapping of its own. -/
def flowItems : Nat → Bool → Grow (List Node)
  | 0, _ => fail
  | fuel + 1, first => do
    if ← accept .flowSequenceEnd then return []
    if !first then expect .comma
    if ← accept .key then
      let key ← nodeUnless fuel [.value, .comma, .flowSequenceEnd] false false
      let value ←
        if ← accept .value then nodeUnless fuel [.comma, .flowSequenceEnd] false false
        else pure .empty
      return .mapping .map [(key, value)] :: (← flowItems fuel false)
    if ← accept .flowSequenceEnd then return []
    let item ← node fuel false false
    return item :: (← flowItems fuel false)

/-- The entries between flow brackets. An item among them is a key without a value. -/
def flowEntries : Nat → Bool → Grow (List (Node × Node))
  | 0, _ => fail
  | fuel + 1, first => do
    if ← accept .flowMappingEnd then return []
    if !first then expect .comma
    if ← accept .key then
      let key ← nodeUnless fuel [.value, .comma, .flowMappingEnd] false false
      let value ←
        if ← accept .value then nodeUnless fuel [.comma, .flowMappingEnd] false false
        else pure .empty
      return (key, value) :: (← flowEntries fuel false)
    if ← accept .flowMappingEnd then return []
    let key ← node fuel false false
    return (key, .empty) :: (← flowEntries fuel false)

end

/-! ## Documents -/

/-- The handles that every document has. -/
def standardHandles : List (String × String) := [("!", "!"), ("!!", standardStart)]

/-- The handles that directives declare, each no more than once; `versioned` tells that the
version has been given. -/
def declaredHandles : List Directive → Bool → List (String × String) →
    Except YamlError (List (String × String))
  | [], _, handles => .ok (handles ++ standardHandles)
  | .version major :: rest, versioned, handles =>
    if versioned || major ≠ 1 then .error .malformed else declaredHandles rest true handles
  | .handle name start :: rest, versioned, handles =>
    if handles.any (·.1 = name) then .error .malformed
    else declaredHandles rest versioned ((name, start) :: handles)
  | .other :: rest, versioned, handles => declaredHandles rest versioned handles

/-- The directives that start some tokens, and the tokens behind them. -/
def splitDirectives : List Token → List Directive × List Token
  | .directive d :: rest => ((d :: (splitDirectives rest).1), (splitDirectives rest).2)
  | tokens => ([], tokens)

/-- The start of a document: directives and a mark, unless neither is there. Tells whether
anything may be missing behind it. -/
def documentStart : Grow Bool := do
  let (directives, rest) := splitDirectives (← get).tokens
  let handles ← (declaredHandles directives false [] : Except YamlError _)
  modify fun s => { s with tokens := rest, handles }
  if ← accept .documentStart then return true
  unless directives.isEmpty do fail
  return false

/-- Whether the document goes on. -/
def isDocumentOver : Grow Bool := do
  match ← next with
  | none => return true
  | some (.directive _) => return true
  | some token => return token = .documentStart || token = .documentEnd

/-- The only document, if there is one. -/
def document : Grow (Option Node) := do
  if (← next).isNone then return none
  let fuel := 2 * (← get).tokens.length + 2
  let mayBeEmpty ← documentStart
  let root ←
    if mayBeEmpty && (← isDocumentOver) then pure Node.empty
    else node fuel true false
  unless (← get).tokens.all (· = .documentEnd) do fail
  return some root

end Grow

/-- The tree of tokens, if there is a document. -/
def Node.ofTokens? (tokens : List Token) : Except YamlError (Option Node) := do
  let (root, _) ← Grow.document.run { tokens }
  return root

end ProtoRefresh.Document.Yaml
