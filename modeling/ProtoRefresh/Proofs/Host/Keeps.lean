-- What actions keep. Commands write where they like and directories come
-- and go, but a host whose tree is well formed and whose paths are proper
-- stays such a host.
import ProtoRefresh.Proofs.Host.Files
import ProtoRefresh.Proofs.Path.Spelling

namespace ProtoRefresh

open FileTree

/-! ## Proper hosts -/

/-- The tree is well formed, and the paths of the host and of what its commands leave behind are
proper. -/
structure Host.Proper (host : Host) : Prop where
  tree : host.tree.WellFormed
  current : host.current.Proper
  outputs : ∀ response ∈ host.responses, ∀ output ∈ response.writes, output.path.Proper

instance (host : Host) : Decidable host.Proper :=
  decidable_of_iff (host.tree.WellFormed ∧ host.current.Proper ∧
    ∀ response ∈ host.responses, ∀ output ∈ response.writes, output.path.Proper)
    ⟨fun h => ⟨h.1, h.2.1, h.2.2⟩, fun h => ⟨h.tree, h.current, h.outputs⟩⟩

theorem Host.Proper.withTree {host : Host} (h : host.Proper) {tree : FileTree}
    (hwf : tree.WellFormed) : ({ host with tree := tree } : Host).Proper :=
  ⟨hwf, h.current, h.outputs⟩

namespace Action

variable {α β : Type} {P : Host → Prop} {host after : Host}

/-! ## Actions that keep something -/

/-- What holds of a host holds of what the action leaves behind, if it ends well. -/
def Keeps (P : Host → Prop) (action : Action α) : Prop :=
  ∀ ⦃host value after⦄, Gives action host value after → P host → P after

theorem Keeps.pure (a : α) : Keeps P (Pure.pure a : Action α) := by
  intro host value after h hp
  obtain ⟨_, rfl⟩ := gives_pure.1 h
  exact hp

theorem Keeps.fail (failure : Failure) : Keeps P (Action.fail failure : Action α) := by
  intro host value after h _
  exact absurd h not_gives_fail

theorem Keeps.ofExcept (result : Except Failure α) : Keeps P (Action.ofExcept result) := by
  intro host value after h hp
  obtain ⟨_, rfl⟩ := gives_ofExcept.1 h
  exact hp

theorem Keeps.bind {first : Action α} {rest : α → Action β} (hfirst : Keeps P first)
    (hrest : ∀ a, Keeps P (rest a)) : Keeps P (first >>= rest) := by
  intro host value after h hp
  obtain ⟨a, middle, hf, hr⟩ := gives_bind.1 h
  exact hrest a hr (hfirst hf hp)

theorem Keeps.get_bind {rest : Host → Action β} (hrest : ∀ host, Keeps P (rest host)) :
    Keeps P (get >>= rest) := by
  intro host value after h hp
  exact hrest host (gives_get_bind.1 h) hp

theorem Keeps.guard {condition : Prop} [Decidable condition] {failure : Failure}
    {rest : PUnit → Action β} (hrest : Keeps P (rest ⟨⟩)) :
    Keeps P (if condition then Action.fail failure >>= rest else rest ⟨⟩) := by
  intro host value after h hp
  exact hrest (gives_guard.1 h).2 hp

theorem Keeps.mapM {f : α → Action β} (hf : ∀ a, Keeps P (f a)) (l : List α) :
    Keeps P (l.mapM f) := by
  induction l with
  | nil =>
    rw [List.mapM_nil]
    exact .pure _
  | cons a l ih =>
    rw [List.mapM_cons]
    refine (hf a).bind fun b => ih.bind fun bs => .pure (b :: bs)

theorem Keeps.forM {f : α → Action PUnit} (l : List α) (hf : ∀ a ∈ l, Keeps P (f a)) :
    Keeps P (l.forM f) := by
  induction l with
  | nil => exact .pure _
  | cons a l ih =>
    have hrest := ih fun b hb => hf b (List.mem_cons_of_mem a hb)
    exact (hf a List.mem_cons_self).bind fun _ => hrest

/-! ## Files -/

theorem keeps_log (level : Level) (message : String) : Keeps Host.Proper (log level message) := by
  intro host value after h hp
  rw [gives_log.1 h]
  exact ⟨hp.tree, hp.current, hp.outputs⟩

theorem keeps_pathExists (p : Path) : Keeps P (pathExists p) := by
  intro host value after h hp
  obtain ⟨_, rfl⟩ := gives_pathExists.1 h
  exact hp

theorem keeps_makeDirectories {p : Path} (hproper : p.Proper) (fuel : Nat) (existOk : Bool) :
    Keeps Host.Proper (makeDirectories fuel p existOk) := by
  intro host value after h hp
  obtain ⟨tree, hmakes, rfl⟩ := gives_makeDirectories h
  exact hp.withTree (hmakes.wellFormed hp.tree hp.current hproper)

/-- A directory that is removed is gone with all that was in it. -/
theorem gives_removeTree {p : Path} {value : Unit} (h : Gives (removeTree p) host value after) :
    ∃ place, after = { host with tree :=
      (host.tree.remove fun l => place.isPrefixOf l && l != place).erase place } := by
  unfold removeTree at h
  rw [gives_get_bind] at h
  cases hl : host.tree.locate host.current p with
  | error e =>
    simp only [hl] at h
    exact absurd h not_gives_fail
  | ok place =>
    simp only [hl] at h
    cases hg : host.tree.get? place with
    | none =>
      simp only [hg] at h
      exact absurd h not_gives_fail
    | some entry =>
      cases entry with
      | file content =>
        simp only [hg] at h
        exact absurd h not_gives_fail
      | directory =>
        simp only [hg] at h
        obtain ⟨_, middle, hset, hrest⟩ := gives_bind.1 h
        obtain ⟨_, hrest⟩ := gives_guard.1 hrest
        obtain ⟨_, hrest⟩ := gives_guard.1 hrest
        obtain ⟨_, hrest⟩ := gives_guard.1 hrest
        refine ⟨place, ?_⟩
        rw [gives_modify.1 hrest, gives_setTree.1 hset]

theorem keeps_removeTree (p : Path) : Keeps Host.Proper (removeTree p) := by
  intro host value after h hp
  obtain ⟨place, rfl⟩ := gives_removeTree h
  refine hp.withTree (WellFormed.erase (hp.tree.remove ?_) ?_)
  · intro above name hpick _
    rw [Bool.and_eq_true, List.isPrefixOf_iff_prefix] at hpick ⊢
    refine ⟨hpick.1.trans (List.prefix_append _ _), ?_⟩
    rw [bne_iff_ne]
    intro heq
    have hle := hpick.1.length_le
    rw [← heq, List.length_append, List.length_singleton] at hle
    omega
  · intro name
    rw [get?_remove _ _ (by simp), if_pos]
    simp

/-! ## Commands -/

/-- What a command leaves behind has a proper place, and comes with directories above it. -/
theorem keeps_leave {directory : Path} (hdirectory : directory.Proper) {outputs : List Output}
    (houtputs : ∀ output ∈ outputs, output.path.Proper) :
    Keeps Host.Proper (leave directory outputs) := by
  refine Keeps.forM outputs fun output ho => ?_
  intro host value after h hp
  have hplace : ((directory.join output.path).location host.current).Proper :=
    (hdirectory.join (houtputs output ho)).location hp.current
  rw [gives_get_bind] at h
  cases he : output.entry with
  | file content =>
    simp only [he] at h
    rw [gives_setTree.1 h]
    exact hp.withTree (hp.tree.withFile hplace content)
  | directory =>
    simp only [he] at h
    rw [gives_setTree.1 h]
    exact hp.withTree (hp.tree.withDirectories hplace).1

theorem gives_nextResponse {response : Response} (hp : host.Proper)
    (h : Gives nextResponse host response after) :
    after.Proper ∧ ∀ output ∈ response.writes, output.path.Proper := by
  unfold nextResponse at h
  rw [gives_get_bind] at h
  cases hr : host.responses with
  | nil =>
    simp only [hr] at h
    obtain ⟨rfl, rfl⟩ := gives_pure.1 h
    exact ⟨hp, by simp⟩
  | cons first rest =>
    simp only [hr] at h
    obtain ⟨_, _, hset, hlast⟩ := gives_bind.1 h
    obtain ⟨rfl, rfl⟩ := gives_pure.1 hlast
    rw [gives_set.1 hset]
    have houtputs := hp.outputs
    rw [hr] at houtputs
    exact ⟨⟨hp.tree, hp.current, fun other ho => houtputs other (List.mem_cons_of_mem _ ho)⟩,
      houtputs first List.mem_cons_self⟩

/-- How a command ends changes nothing more. -/
theorem keeps_outcome (argv : List String) (captured : Bool) (response : Response) :
    Keeps P (match response.outcome with
      | .missing => if argv.isEmpty then fail .noItem else fail (.command argv none "")
      | .denied => fail (.file .denied (argv.head?.getD ""))
      | .ended status =>
        if status ≠ 0 then do
          let _ ← (fail (.command argv (some status) (if captured then response.stderr else "")) :
            Action PUnit)
          return if captured then response.stdout else ""
        else return if captured then response.stdout else "") := by
  split
  · split
    · exact .fail _
    · exact .fail _
  · exact .fail _
  · exact .guard (.pure _)

theorem keeps_runCommand (argv : List String) (directory : Option String) (captured : Bool) :
    Keeps Host.Proper (runCommand argv directory captured) := by
  intro host value after h hp
  unfold runCommand at h
  obtain ⟨_, logged, hlog, hcalled⟩ := gives_bind.1 h
  obtain ⟨_, called, hcall, hanswered⟩ := gives_bind.1 hcalled
  obtain ⟨response, answered, hresponse, hleft⟩ := gives_bind.1 hanswered
  obtain ⟨_, left, hleave, hrest⟩ := gives_bind.1 hleft
  have hcalledProper : called.Proper := by
    have hlogged := keeps_log _ _ hlog hp
    rw [gives_modify.1 hcall]
    exact ⟨hlogged.tree, hlogged.current, hlogged.outputs⟩
  obtain ⟨hansweredProper, houtputs⟩ := gives_nextResponse hcalledProper hresponse
  have hdirectory : ((directory.map Path.ofText).getD Path.here).Proper := by
    cases directory with
    | none => exact Path.here_proper
    | some text => exact Path.ofText_proper text
  have hleftProper := keeps_leave hdirectory houtputs hleave hansweredProper
  exact keeps_outcome argv captured response hrest hleftProper

end Action

end ProtoRefresh
