-- What a tree means. Each node has a value or a fault; of several faults
-- the one highest in the tree is reported, and the first one among those
-- of one height. A collection is looked into one level below the node
-- that it is: its own fault, if it is no collection of its kind, counts
-- there.
import ProtoRefresh.Document.Yaml.Node
import ProtoRefresh.Document.Yaml.Scalar
import ProtoRefresh.Text.Newline

namespace ProtoRefresh.Document.Yaml

/-! ## Faults by height -/

/-- The first fault on each level, the highest one first. -/
abbrev Faults := List (Option YamlError)

namespace Faults

/-- The faults of two parts side by side, the former one before the latter. -/
def beside : Faults → Faults → Faults
  | [], more => more
  | faults, [] => faults
  | a :: faults, b :: more => a.or b :: beside faults more

/-- The faults of parts side by side, in order. -/
def all (parts : List Faults) : Faults := parts.foldr beside []

/-- The fault to report. -/
def first? (faults : Faults) : Option YamlError := faults.findSome? id

end Faults

/-! ## Meanings -/

/-- A value with the faults in it. -/
structure Meaning where
  value : Value
  faults : Faults

abbrev Entry := Meaning × Meaning

namespace Meaning

def ofResult (result : Except YamlError Value) : Meaning :=
  match result with
  | .ok value => ⟨value, [none]⟩
  | .error e => ⟨.null, [some e]⟩

/-- A collection, its parts one level below. -/
def collection {α : Type} (parts : Except YamlError α) (value : α → Value) (faults : α → Faults) :
    Meaning :=
  match parts with
  | .ok a => ⟨value a, none :: faults a⟩
  | .error e => ⟨.null, [none, some e]⟩

/-- The faults of an entry, whose key has to be usable as one. -/
def entryFaults (entry : Entry) : Faults :=
  .all [entry.1.faults, if entry.1.value.isKey then [] else [some .malformed], entry.2.faults]

/-- The entries of a mapping, of several with one key the last one. -/
def entryValues (entries : List Entry) : List (Value × Value) :=
  Value.putAll [] (entries.map fun (key, value) => (key.value, value.value))

/-- An entry outside a mapping. -/
def pairValue : Except YamlError Entry → Value
  | .ok (key, value) => .pair key.value value.value
  | .error _ => .null

/-- The faults of an entry outside a mapping. -/
def pairFaults : Except YamlError Entry → Faults
  | .ok (key, value) => key.faults.beside value.faults
  | .error e => [some e]

end Meaning

/-! ## Nodes -/

/-- What a node holds, as far as its tag may ask for it. -/
structure Parts where
  /-- The text of the node, or of the value that stands for it. -/
  text : Except YamlError (List Text.CodePoint)
  isScalar : Bool
  items : Except YamlError (List Meaning)
  /-- The items, as far as they are mappings with one entry. -/
  pairs : Except YamlError (List (Except YamlError Entry))
  /-- The entries, with those that are merged before the others. -/
  entries : Except YamlError (List Entry)

/-- What the tag of a node makes of its parts. -/
def Parts.meaning (parts : Parts) (tag : Tag) : Meaning :=
  match tag with
  | .list =>
    .collection parts.items (fun items => .list (items.map (·.value)))
      fun items => .all (items.map (·.faults))
  | .map =>
    .collection parts.entries (fun entries => .map (Meaning.entryValues entries))
      fun entries => .all (entries.map Meaning.entryFaults)
  | .set =>
    .collection parts.entries (fun entries => .set ((Meaning.entryValues entries).map (·.1)))
      fun entries => .all (entries.map Meaning.entryFaults)
  | .pairs =>
    .collection parts.pairs (fun pairs => .list (pairs.map Meaning.pairValue))
      fun pairs => .all (pairs.map Meaning.pairFaults)
  | .moment =>
    .ofResult do
      let text ← parts.text
      if !parts.isScalar then throw .nestedMoment
      tag.read text
  | _ => .ofResult do tag.read (← parts.text)

/-- A node with what the nodes around it may ask for. -/
structure Grown where
  tag : Tag
  meaning : Meaning
  text : Except YamlError (List Text.CodePoint)
  entries : Except YamlError (List Entry)
  /-- The entries that are merged into a mapping for this node: its own or, of a sequence, those of
  its items, the last item first. -/
  offered : Except YamlError (List Entry)
  /-- The only entry of a mapping that has one. -/
  single : Except YamlError Entry

/-- The meaning of a node as a key: the sign for a value that stands in is a text there. -/
def Grown.key (grown : Grown) : Meaning :=
  if grown.tag = .standIn then .ofResult (grown.text.map .text) else grown.meaning

/-- The text of the first value that stands in for its mapping. -/
def standInText (entries : List (Grown × Grown)) : Except YamlError (List Text.CodePoint) :=
  match entries.find? fun entry => entry.1.tag = .standIn with
  | some (_, value) => value.text
  | none => .error .malformed

/-- The entries of a mapping after those that are merged into it. -/
def mergedEntries (entries : List (Grown × Grown)) : Except YamlError (List Entry) := do
  let (merges, own) := entries.partition fun entry => entry.1.tag = .merge
  let merged ← merges.mapM fun entry => entry.2.offered
  return merged.flatten ++ own.map fun (key, value) => (key.key, value.meaning)

def Grown.ofScalar (tag : Tag) (text : List Text.CodePoint) : Grown :=
  let parts : Parts := ⟨.ok text, true, .error .malformed, .error .malformed, .error .malformed⟩
  ⟨tag, parts.meaning tag, .ok text, .error .malformed, .error .malformed, .error .malformed⟩

def Grown.ofItems (tag : Tag) (items : List Grown) : Grown :=
  let parts : Parts :=
    { text := .error .malformed
      isScalar := false
      items := .ok (items.map (·.meaning))
      pairs := .ok (items.map (·.single))
      entries := .error .malformed }
  let offered := (items.mapM Grown.entries).map fun lists => lists.reverse.flatten
  ⟨tag, parts.meaning tag, .error .malformed, .error .malformed, offered, .error .malformed⟩

def Grown.ofEntries (tag : Tag) (entries : List (Grown × Grown)) : Grown :=
  let text := standInText entries
  let merged := mergedEntries entries
  let parts : Parts := ⟨text, false, .error .malformed, .error .malformed, merged⟩
  let single :=
    match entries with
    | [(key, value)] => .ok (key.meaning, value.meaning)
    | _ => .error .malformed
  ⟨tag, parts.meaning tag, text, merged, merged, single⟩

/-- A node with its meaning. -/
def Node.grow : Node → Grown
  | .scalar tag text => .ofScalar tag text
  | .sequence tag items => .ofItems tag (growItems items)
  | .mapping tag entries => .ofEntries tag (growEntries entries)
where
  /-- Nodes with their meanings. -/
  growItems : List Node → List Grown
    | [] => []
    | item :: rest => item.grow :: growItems rest
  /-- Keys and values with their meanings. -/
  growEntries : List (Node × Node) → List (Grown × Grown)
    | [] => []
    | (key, value) :: rest => (key.grow, value.grow) :: growEntries rest

/-- The value of a tree. -/
def Node.value (node : Node) : Except YamlError Value :=
  let meaning := node.grow.meaning
  match meaning.faults.first? with
  | some e => .error e
  | none => .ok meaning.value

/-- The value of a YAML text, which holds no more than one document. Without one there is nothing. -/
def ofText (text : String) : Except YamlError Value := do
  match ← Node.ofTokens? (← Token.ofText (Text.unifyLineEnds text.toList)) with
  | some root => root.value
  | none => return .null

end ProtoRefresh.Document.Yaml
