-- What the command line shows on a console of some width: the table of a
-- report, or the failure that ended a run.
import ProtoRefresh.Console.Table
import ProtoRefresh.Regeneration.Regenerate

namespace ProtoRefresh.CommandLine

open Console

/-- What the table says about a placement. -/
def statusText (check : Bool) (placement : Relocation.Placement) : String :=
  if !placement.changed then "unchanged"
  else if check then "[yellow]would change[/yellow]" else "[green]updated[/green]"

/-- The cells for a placement. -/
def placementCells (check : Bool) (placement : Relocation.Placement) :
    Except Failure (List (List Char)) :=
  [placement.source, placement.destination.text, statusText check placement].mapM fun text =>
    showMarkup text.toList

/-- Whether a console has room for the frame of the table, a cell's two spaces and something between
them. -/
def hasRoom (width : Nat) : Bool := 7 ≤ width

/-- The cells for some placements. Where there is no room for a cell its text is not looked at. -/
def reportRows (width : Nat) (placements : List Relocation.Placement) (check : Bool) :
    Except Failure (List (List (List Char))) :=
  if hasRoom width then placements.mapM (placementCells check)
  else .ok (placements.map fun _ => List.replicate 3 [])

/-- The table of the placements under a version. -/
def reportLines (width : Nat) (version : String) (placements : List Relocation.Placement)
    (check : Bool) : Except Failure (List String) := do
  let rows ← reportRows width placements check
  let title ← showMarkup ("Regenerated with " ++ version).toList
  let heads := ["File", "Destination", "Status"].map String.toList
  return (tableLines width title heads rows).map String.ofList

/-- The lines that tell of a failure. -/
def failureLines (width : Nat) (failure : Failure) : Except Failure (List String) := do
  let text ← showMarkup
    ("[red]error:[/red] ".toList ++ escapeMarkup failure.message.toList)
  return (wrap width .cut .free text).map String.ofList

end ProtoRefresh.CommandLine
