-- Actions that only look. However such an action ends, it has changed
-- nothing of the host but its log.
import ProtoRefresh.Glob.Search
import ProtoRefresh.Plan.Inputs
import ProtoRefresh.Proofs.Host.Ending

namespace ProtoRefresh.Action

variable {α : Type}

/-- Two hosts differ in their logs at most. -/
def SameButLog (host after : Host) : Prop := after = { host with log := after.log }

instance : Composes SameButLog where
  refl _ := rfl
  trans {host middle after} hfirst hrest := by
    unfold SameButLog at hfirst hrest ⊢
    rw [hfirst] at hrest
    exact hrest

/-- However the action ends, it has changed nothing of the host but its log. -/
abbrev Looks (action : Action α) : Prop := Leads SameButLog action

/-! ## Files -/

theorem looks_log (level : Level) (message : String) : Looks (log level message) := by
  intro host result after h
  rw [(ends_modify.1 h).2]
  rfl

theorem looks_isFile (p : Path) : Looks (isFile p) := .get_bind fun _ => .pure _

theorem looks_pathExists (p : Path) : Looks (pathExists p) := .get_bind fun _ => .pure _

theorem looks_readFile (p : Path) : Looks (readFile p) := by
  unfold readFile
  refine .guard (.get_bind fun host => ?_)
  split
  · exact .pure _
  · exact .fail _

theorem looks_decode (content : Content) : Looks (decode content) := by
  unfold decode
  split
  · exact .pure _
  · exact .fail _

end ProtoRefresh.Action

namespace ProtoRefresh.Glob

open ProtoRefresh.Action

/-! ## Searches -/

theorem looks_search (start : Path) (pattern : String) : Looks (search start pattern) :=
  (Leads.ofExcept _).bind fun _ => .get_bind fun _ => .pure _

theorem looks_searchBelow (start : Path) (pattern : String) :
    Looks (searchBelow start pattern) :=
  (Leads.ofExcept _).bind fun _ => .get_bind fun _ => .pure _

theorem looks_listFiles (root : Path) (pattern : String) : Looks (listFiles root pattern) := by
  unfold listFiles
  exact .guard (.get_bind fun _ => .pure _)

end ProtoRefresh.Glob

namespace ProtoRefresh.Plan

open ProtoRefresh.Action

theorem looks_resolveInput (root : Path) (pattern : String) : Looks (resolveInput root pattern) := by
  unfold resolveInput
  split
  · exact .pure _
  · refine (Glob.looks_listFiles root pattern).bind fun found => ?_
    split
    · exact (looks_log _ _).bind fun _ => .pure _
    · exact .pure _

end ProtoRefresh.Plan
