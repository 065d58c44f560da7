-- Actions that keep to a directory. Whatever such an action meets and
-- however it ends, outside the directory all is as its commands alone would
-- have left it, but for directories on the way to the directory itself.
import ProtoRefresh.Proofs.Host.Commands
import ProtoRefresh.Proofs.Host.Keeps
import ProtoRefresh.Proofs.Host.Looking

namespace ProtoRefresh

open FileTree

/-! ## Trees that differ inside a directory -/

namespace FileTree

variable {current : Location} {p : Path} {tree middle after : FileTree}

/-- A location holds what it held, or a directory is new there that a path, as it is spelled,
passes and that was missing. -/
def PassedAt (current : Location) (p : Path) (tree after : FileTree) (place : Location) : Prop :=
  after.get? place = tree.get? place ∨
    tree.get? place = none ∧ after.get? place = some .directory ∧
      ∃ k, place = (⟨p.slashes, p.parts.take k⟩ : Path).location current

theorem PassedAt.trans {place : Location} (hfirst : PassedAt current p tree middle place)
    (hrest : PassedAt current p middle after place) : PassedAt current p tree after place := by
  rcases hfirst with hsame | ⟨hnone, hdir, hk⟩
  · unfold PassedAt
    rw [← hsame]
    exact hrest
  · rcases hrest with hstays | ⟨hnone', _, _⟩
    · exact Or.inr ⟨hnone, hstays.trans hdir, hk⟩
    · rw [hnone'] at hdir
      cases hdir

/-- What the path above passes the path passes. -/
theorem PassedAt.of_parent {place : Location} (h : PassedAt current p.parent tree after place) :
    PassedAt current p tree after place := by
  rcases h with hsame | ⟨hnone, hdir, k, hk⟩
  · exact Or.inl hsame
  · refine Or.inr ⟨hnone, hdir, min k (p.parts.length - 1), ?_⟩
    rw [hk, Path.parent, List.dropLast_eq_take, List.take_take]

/-- Outside the directory of a path nothing is new but directories that the path passes. -/
def Bordered (current : Location) (p : Path) (tree after : FileTree) : Prop :=
  ∀ place, ¬ p.location current <+: place → PassedAt current p tree after place

theorem Bordered.refl (current : Location) (p : Path) (tree : FileTree) :
    Bordered current p tree tree := fun _ _ => Or.inl rfl

theorem Bordered.trans (hfirst : Bordered current p tree middle)
    (hrest : Bordered current p middle after) : Bordered current p tree after :=
  fun place hplace => (hfirst place hplace).trans (hrest place hplace)

/-- What changes at or below the directory alone. -/
theorem Bordered.of_inside
    (h : ∀ place, ¬ p.location current <+: place → after.get? place = tree.get? place) :
    Bordered current p tree after := fun place hplace => Or.inl (h place hplace)

/-- A file that is written inside the directory changes nothing outside. -/
theorem Bordered.of_write {q : Path} {content : Content}
    (hq : p.location current <+: q.location current)
    (h : tree.write current q content = .ok after) : Bordered current p tree after := by
  refine .of_inside fun place hplace => ?_
  rw [get?_of_write h, if_neg]
  rintro rfl
  exact hplace hq

/-- A file that is moved inside the directory changes nothing outside. -/
theorem Bordered.of_rename {source target : Path}
    (hsource : p.location current <+: source.location current)
    (htarget : p.location current <+: target.location current)
    (h : tree.rename current source target = .ok after) : Bordered current p tree after := by
  refine .of_inside fun place hplace => ?_
  obtain ⟨_, _, _, _, hget⟩ := get?_of_rename h
  rw [hget, if_neg, if_neg]
  · rintro rfl
    exact hplace hsource
  · rintro rfl
    exact hplace htarget

/-- Outputs come alike to trees that differ inside a directory. -/
theorem Bordered.withOutputs (h : Bordered current p tree after)
    (outputs : List (Location × Entry)) :
    Bordered current p (tree.withOutputs outputs) (after.withOutputs outputs) := by
  intro place hplace
  rcases get?_withOutputs_keep_or_bring outputs place with hkeep | ⟨new, hbring⟩
  · unfold PassedAt
    rw [hkeep, hkeep]
    exact h place hplace
  · exact Or.inl (by rw [hbring, hbring])

end FileTree

namespace Action

variable {α β : Type} {host after : Host} {p : Path}

/-! ## Actions that run nothing -/

/-- Two hosts differ in their logs, and in their trees inside the directory of a path. -/
def SameOutside (p : Path) (host after : Host) : Prop :=
  SameButFiles host after ∧ Bordered host.current p host.tree after.tree

instance : Composes (SameOutside p) where
  refl host := ⟨Composes.refl host, .refl _ _ _⟩
  trans {host middle after} hfirst hrest := by
    have hcurrent : middle.current = host.current := by rw [hfirst.1]
    have hborder := hrest.2
    rw [hcurrent] at hborder
    exact ⟨Composes.trans hfirst.1 hrest.1, hfirst.2.trans hborder⟩

theorem SameButLog.sameOutside (h : SameButLog host after) : SameOutside p host after := by
  unfold SameButLog at h
  rw [h]
  exact ⟨rfl, .refl _ _ _⟩

theorem Leads.sameOutside {action : Action α} (h : Looks action) :
    Leads (SameOutside p) action := fun _ _ _ hends => (h hends).sameOutside

theorem leads_change {q : Path} {f : FileTree → Location → Except FileError FileTree}
    (hf : ∀ {current tree after}, f tree current = .ok after → Bordered current p tree after) :
    Leads (SameOutside p) (change q f) := by
  intro host result after h
  refine ⟨quiet_change q f h, ?_⟩
  unfold change at h
  rw [ends_get_bind] at h
  split at h
  · rename_i tree hok
    rw [(ends_modify.1 h).2]
    exact hf hok
  · rw [(ends_fail.1 h).2]
    exact .refl _ _ _

/-- A text that is written inside the directory, be it in vain, changes nothing outside. -/
theorem leads_writeText {q : Path} (text : List Text.CodePoint)
    (hq : ∀ current, p.location current <+: q.location current) :
    Leads (SameOutside p) (writeText q text) := by
  have hwrite : ∀ content, Leads (SameOutside p) (writeFile q content) := fun content =>
    leads_change fun h => .of_write (hq _) h
  unfold writeText
  split
  · exact hwrite _
  · exact (hwrite _).bind fun _ => .fail _

theorem ends_there {there : Bool} {failure : Failure} {result : Except Failure Unit}
    (h : Ends (if there = true then pure () else fail failure) host result after) :
    after = host := by
  split at h
  · exact (ends_pure.1 h).2
  · exact (ends_fail.1 h).2

/-- However it ends, making a directory makes only directories that its path passes. -/
theorem ends_makeDirectories {host after : Host} {fuel : Nat} {q : Path} {existOk : Bool}
    {result : Except Failure Unit} (h : Ends (makeDirectories fuel q existOk) host result after)
    (place : Location) : PassedAt host.current q host.tree after.tree place := by
  have hmade : ∀ {left : Host} {tree : FileTree}, left.tree.makeDirectory left.current q = .ok tree →
      Ends (setTree tree) left result after →
      PassedAt left.current q left.tree after.tree place := by
    intro left tree hm hends
    rw [(ends_modify.1 hends).2]
    exact (Makes.made hm).get? place
  have hsame : ∀ {left : Host}, after = left →
      PassedAt left.current q left.tree after.tree place := by
    rintro left rfl
    exact Or.inl rfl
  cases fuel with
  | zero =>
    unfold makeDirectories at h
    rcases ends_guard.1 h with ⟨_, _, hafter⟩ | ⟨_, h⟩
    · exact hsame hafter
    rw [ends_get_bind] at h
    split at h
    · rename_i tree hm
      exact hmade hm h
    · exact hsame (ends_fail.1 h).2
    · exact hsame (ends_there h)
  | succ fuel =>
    unfold makeDirectories at h
    rcases ends_guard.1 h with ⟨_, _, hafter⟩ | ⟨_, h⟩
    · exact hsame hafter
    rw [ends_get_bind] at h
    split at h
    · rename_i tree hm
      exact hmade hm h
    · rcases ends_bind.1 h with ⟨failure, hfail, _⟩ | ⟨_, middle, hgives, h⟩
      · exact (ends_makeDirectories hfail place).of_parent
      · have habove := (ends_makeDirectories (ends_ok_iff.2 hgives) place).of_parent
        have hcurrent : middle.current = host.current := by
          obtain ⟨tree, _, rfl⟩ := gives_makeDirectories hgives
          rfl
        rw [ends_get_bind] at h
        rw [← hcurrent] at habove ⊢
        split at h
        · rename_i tree hm
          exact habove.trans (hmade hm h)
        · exact habove.trans (hsame (ends_there h))
    · exact hsame (ends_there h)

theorem leads_makeDirectories (fuel : Nat) (q : Path) (existOk : Bool) :
    Leads (SameOutside q) (makeDirectories fuel q existOk) := fun _ _ _ h =>
  ⟨quiet_makeDirectories fuel q existOk h, fun place _ => ends_makeDirectories h place⟩

/-- What is removed, be it in part, lies in the directory that is removed. -/
theorem leads_removeTree (q : Path) : Leads (SameOutside q) (removeTree q) := by
  intro host result after h
  refine ⟨quiet_removeTree q h, .of_inside fun place hplace => ?_⟩
  by_cases hnil : place = []
  · rw [hnil, get?_nil, get?_nil]
  unfold removeTree at h
  rw [ends_get_bind] at h
  cases hl : host.tree.locate host.current q with
  | error e =>
    rw [hl] at h
    rw [(ends_fail.1 h).2]
  | ok base =>
    obtain ⟨_, rfl⟩ := locate_eq_ok_iff.1 hl
    simp only [hl] at h
    generalize q.location host.current = base at hplace h
    have hemptied : (host.tree.remove fun l => base.isPrefixOf l && l != base).get? place =
        host.tree.get? place := by
      rw [get?_remove _ _ hnil, if_neg]
      rw [Bool.and_eq_true, List.isPrefixOf_iff_prefix]
      exact fun hpick => hplace hpick.1
    have hgone : ((host.tree.remove fun l => base.isPrefixOf l && l != base).erase base).get?
        place = host.tree.get? place := by
      rw [get?_erase _ _ hnil, if_neg, hemptied]
      rintro rfl
      exact hplace List.prefix_rfl
    split at h
    · rw [(ends_fail.1 h).2]
    · rw [(ends_fail.1 h).2]
    · rw [ends_bind_of_changes (gives_setTree.2 rfl)] at h
      rcases ends_guard.1 h with ⟨_, _, rfl⟩ | ⟨_, h⟩
      · exact hemptied
      rcases ends_guard.1 h with ⟨_, _, rfl⟩ | ⟨_, h⟩
      · exact hemptied
      rcases ends_guard.1 h with ⟨_, _, rfl⟩ | ⟨_, h⟩
      · exact hemptied
      rw [(ends_modify.1 h).2]
      exact hgone

/-! ## Actions that run commands -/

/-- However the action ends on a proper host, outside the directory of a path it leaves what its
commands left behind there. -/
def KeepsOutside (p : Path) (action : Action α) : Prop :=
  ∀ ⦃host result after⦄, host.Proper → Ends action host result after →
    ∃ made, after.calls = host.calls ++ made ∧
      after.responses = host.responses.drop made.length ∧ after.current = host.current ∧
      Bordered host.current p (host.tree.withOutputs (host.outputs made)) after.tree

theorem KeepsOutside.of_leads {action : Action α} (h : Leads (SameOutside p) action) :
    KeepsOutside p action := by
  intro host result after _ hends
  obtain ⟨hquiet, hborder⟩ := h hends
  refine ⟨[], ?_, ?_, ?_, hborder⟩
  · rw [hquiet, List.append_nil]
  · rw [hquiet]
    rfl
  · rw [hquiet]

theorem KeepsOutside.of_looks {action : Action α} (h : Looks action) : KeepsOutside p action :=
  .of_leads (.sameOutside h)

theorem KeepsOutside.of_scripted {planned : List Call} {action : Action α}
    (h : Scripted planned action) : KeepsOutside p action := by
  intro host result after _ hends
  obtain ⟨made, hmade, htree⟩ := h.tree hends
  refine ⟨made, hmade.calls, hmade.responses, hmade.current, ?_⟩
  rw [htree]
  exact .refl _ _ _

/-- The rest need only keep to the directory for what the first step gives. -/
theorem KeepsOutside.bind_gives {first : Action α} {rest : α → Action β}
    (hfirst : KeepsOutside p first) (hproper : Keeps Host.Proper first)
    (hrest : ∀ ⦃host a middle⦄, host.Proper → Gives first host a middle →
      KeepsOutside p (rest a)) : KeepsOutside p (first >>= rest) := by
  intro host result after hhost hends
  rcases ends_bind.1 hends with ⟨failure, hfail, _⟩ | ⟨a, middle, hgives, hends⟩
  · exact hfirst hhost hfail
  · obtain ⟨made, hcalls, hresponses, hcurrent, hborder⟩ := hfirst hhost (ends_ok_iff.2 hgives)
    obtain ⟨more, hcalls', hresponses', hcurrent', hborder'⟩ :=
      hrest hhost hgives (hproper hgives hhost) hends
    refine ⟨made ++ more, ?_, ?_, hcurrent'.trans hcurrent, ?_⟩
    · rw [hcalls', hcalls, List.append_assoc]
    · rw [hresponses', hresponses, List.drop_drop, List.length_append]
    · have houtputs : host.outputs (made ++ more) = host.outputs made ++ middle.outputs more := by
        rw [Host.outputs_append]
        unfold Host.outputs
        rw [hresponses, hcurrent]
      have hboth : host.tree.withOutputs (host.outputs (made ++ more)) =
          (host.tree.withOutputs (host.outputs made)).withOutputs (middle.outputs more) := by
        unfold FileTree.withOutputs
        rw [houtputs, List.foldl_append]
      rw [hcurrent] at hborder'
      rw [hboth]
      exact (hborder.withOutputs _).trans hborder'

theorem KeepsOutside.bind {first : Action α} {rest : α → Action β}
    (hfirst : KeepsOutside p first) (hproper : Keeps Host.Proper first)
    (hrest : ∀ a, KeepsOutside p (rest a)) : KeepsOutside p (first >>= rest) :=
  hfirst.bind_gives hproper fun _ a _ _ _ => hrest a

theorem KeepsOutside.guard {condition : Prop} [Decidable condition] {failure : Failure}
    {rest : PUnit → Action β} (hrest : KeepsOutside p (rest ⟨⟩)) :
    KeepsOutside p (if condition then Action.fail failure >>= rest else rest ⟨⟩) := by
  intro host result after hhost h
  rcases ends_guard.1 h with ⟨_, rfl, rfl⟩ | ⟨_, h⟩
  · have hfail : KeepsOutside p (fail failure : Action β) := .of_looks (.fail failure)
    exact hfail hhost (ends_fail.2 ⟨rfl, rfl⟩)
  · exact hrest hhost h

end Action

end ProtoRefresh
