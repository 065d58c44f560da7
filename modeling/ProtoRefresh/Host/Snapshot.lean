-- Hosts read from a description: the current directory, the files in it
-- and below it, and the answers of the commands to come. A file is
-- described by its text, a directory by nothing.
import ProtoRefresh.Document.Json
import ProtoRefresh.Host.Basic

namespace ProtoRefresh.Host

open Document

/-! ## Parts of a description -/

/-- The text under a key, or what stands for it. -/
def textAt (entries : List (Value × Value)) (key standard : String) : String :=
  match Value.find? entries key with
  | some (.text s) => Text.shown s
  | _ => standard

/-- The files that entries describe by their paths. -/
def outputsOf (entries : List (Value × Value)) : List Output :=
  entries.filterMap fun entry =>
    match entry with
    | (.text path, .text s) =>
      some ⟨Path.ofText (Text.shown path), .file (Action.encode (Text.shown s))⟩
    | (.text path, .null) => some ⟨Path.ofText (Text.shown path), .directory⟩
    | _ => none

/-- The files under a key. -/
def outputsAt (entries : List (Value × Value)) (key : String) : List Output :=
  match Value.find? entries key with
  | some (.map files) => outputsOf files
  | _ => []

/-- The answer of a command. Without a status it succeeds. -/
def responseOf (entries : List (Value × Value)) : Response :=
  { outcome :=
      match Value.find? entries "status" with
      | some (.int status) => .ended status
      | some (.text s) =>
        if s = Text.points "missing" then .missing
        else if s = Text.points "denied" then .denied
        else .ended 0
      | _ => .ended 0
    stdout := textAt entries "stdout" ""
    stderr := textAt entries "stderr" ""
    writes := outputsAt entries "writes" }

/-- The answers under a key. -/
def responsesAt (entries : List (Value × Value)) (key : String) : List Response :=
  match Value.find? entries key with
  | some (.list items) =>
    items.filterMap fun item =>
      match item with
      | .map response => some (responseOf response)
      | _ => none
  | _ => []

/-! ## Hosts -/

/-- A host with nothing but its directories. -/
def bare (current : Location) (scratch : Path) : Host :=
  { tree := FileTree.empty.withDirectories current
    current, scratch, responses := [], calls := [], log := [] }

/-- A host with some files, seen from its current directory. -/
def withOutputs (host : Host) (outputs : List Output) : Host :=
  (((Action.leave Path.here outputs).run).run host).2

/-- The host that entries describe. -/
def ofEntries (entries : List (Value × Value)) : Host :=
  let current := (Path.ofText (textAt entries "directory" "/work")).parts
  let host := (bare current (Path.ofText "/scratch")).withOutputs (outputsAt entries "files")
  { host with responses := responsesAt entries "responses" }

/-- The host that a JSON text describes. -/
def ofText? (text : String) : Option Host :=
  match Json.ofText text with
  | .ok (.map entries) => some (ofEntries entries)
  | _ => none

end ProtoRefresh.Host
