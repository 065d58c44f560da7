-- How actions end, well or with a failure, and what they leave alone in
-- either case. A run that fails is taken apart like one that ends well: its
-- first steps end well, and then one of them fails.
import ProtoRefresh.Proofs.Host.Outcome

namespace ProtoRefresh.Action

variable {α β : Type} {host after : Host}

/-! ## Endings -/

/-- The action ends on a host with a result, and leaves another host behind. -/
structure Ends (action : Action α) (host : Host) (result : Except Failure α) (after : Host) :
    Prop where
  run_eq : (action.run).run host = (result, after)

theorem ends_iff {action : Action α} {result : Except Failure α} :
    Ends action host result after ↔ (action.run).run host = (result, after) :=
  ⟨Ends.run_eq, Ends.mk⟩

/-- Every action ends. -/
theorem ends_run (action : Action α) (host : Host) :
    Ends action host ((action.run).run host).1 ((action.run).run host).2 := ⟨rfl⟩

theorem ends_ok_iff {action : Action α} {value : α} :
    Ends action host (.ok value) after ↔ Gives action host value after := by
  rw [ends_iff, gives_iff]

theorem Ends.unique {action : Action α} {result other : Except Failure α} {left : Host}
    (h : Ends action host result after) (ho : Ends action host other left) :
    result = other ∧ after = left := by
  have heq := h.run_eq.symm.trans ho.run_eq
  cases heq
  exact ⟨rfl, rfl⟩

/-! ## Steps -/

theorem ends_pure {a : α} {result : Except Failure α} :
    Ends (pure a) host result after ↔ result = .ok a ∧ after = host := by
  rw [ends_iff]
  constructor
  · intro h
    cases h
    exact ⟨rfl, rfl⟩
  · rintro ⟨rfl, rfl⟩
    rfl

theorem ends_fail {failure : Failure} {result : Except Failure α} :
    Ends (fail failure) host result after ↔ result = .error failure ∧ after = host := by
  rw [ends_iff]
  constructor
  · intro h
    cases h
    exact ⟨rfl, rfl⟩
  · rintro ⟨rfl, rfl⟩
    rfl

/-- A chain of steps fails in the first one, or goes on with the value of the first one. -/
theorem ends_bind {first : Action α} {rest : α → Action β} {result : Except Failure β} :
    Ends (first >>= rest) host result after ↔
      (∃ failure, Ends first host (.error failure) after ∧ result = .error failure) ∨
        ∃ a middle, Gives first host a middle ∧ Ends (rest a) middle result after := by
  simp only [ends_iff, gives_iff]
  rw [run_bind]
  rcases (first.run).run host with ⟨failure | a, middle⟩
  · constructor
    · intro h
      cases h
      exact Or.inl ⟨failure, rfl, rfl⟩
    · rintro (⟨_, h, rfl⟩ | ⟨_, _, h, _⟩)
      · cases h
        rfl
      · cases h
  · constructor
    · intro h
      exact Or.inr ⟨a, middle, rfl, h⟩
    · rintro (⟨_, h, _⟩ | ⟨_, _, h, hr⟩)
      · cases h
      · cases h
        exact hr

/-- A step that cannot fail is followed by the rest. -/
theorem ends_bind_of_gives {first : Action α} {rest : α → Action β} {result : Except Failure β}
    {a : α} {middle : Host} (h : Gives first host a middle) :
    Ends (first >>= rest) host result after ↔ Ends (rest a) middle result after := by
  rw [ends_bind]
  constructor
  · rintro (⟨failure, hfail, _⟩ | ⟨b, other, hfirst, hrest⟩)
    · cases ((ends_ok_iff.2 h).unique hfail).1
    · obtain ⟨rfl, rfl⟩ := h.unique hfirst
      exact hrest
  · intro hrest
    exact Or.inr ⟨a, middle, h, hrest⟩

/-- A change that cannot fail is followed by the rest. -/
theorem ends_bind_of_changes {first : Action PUnit} {rest : PUnit → Action β}
    {result : Except Failure β} {middle : Host} (h : Gives first host ⟨⟩ middle) :
    Ends (first >>= rest) host result after ↔ Ends (rest ⟨⟩) middle result after :=
  ends_bind_of_gives h

theorem ends_get_bind {rest : Host → Action β} {result : Except Failure β} :
    Ends (get >>= rest) host result after ↔ Ends (rest host) host result after :=
  ends_bind_of_gives (gives_get.2 ⟨rfl, rfl⟩)

theorem ends_modify {f : Host → Host} {result : Except Failure PUnit} :
    Ends (modify f) host result after ↔ result = .ok ⟨⟩ ∧ after = f host := by
  rw [ends_iff]
  constructor
  · intro h
    cases h
    exact ⟨rfl, rfl⟩
  · rintro ⟨rfl, rfl⟩
    rfl

theorem ends_ofExcept {check result : Except Failure α} :
    Ends (ofExcept check) host result after ↔ result = check ∧ after = host := by
  cases check with
  | error failure => exact ends_fail
  | ok a => exact ends_pure

/-- What is guarded against is the failure. -/
theorem ends_guard {condition : Prop} [Decidable condition] {failure : Failure}
    {rest : PUnit → Action β} {result : Except Failure β} :
    Ends (if condition then fail failure >>= rest else rest ⟨⟩) host result after ↔
      (condition ∧ result = .error failure ∧ after = host) ∨
        (¬ condition ∧ Ends (rest ⟨⟩) host result after) := by
  by_cases hc : condition
  · rw [if_pos hc, ends_bind]
    constructor
    · rintro (⟨other, hfail, hresult⟩ | ⟨_, _, hgives, _⟩)
      · obtain ⟨heq, hafter⟩ := ends_fail.1 hfail
        cases heq
        exact Or.inl ⟨hc, hresult, hafter⟩
      · exact absurd hgives not_gives_fail
    · rintro (⟨_, hresult, hafter⟩ | ⟨hnot, _⟩)
      · exact Or.inl ⟨failure, ends_fail.2 ⟨rfl, hafter⟩, hresult⟩
      · exact absurd hc hnot
  · rw [if_neg hc]
    constructor
    · intro h
      exact Or.inr ⟨hc, h⟩
    · rintro (⟨hyes, _⟩ | ⟨_, h⟩)
      · exact absurd hyes hc
      · exact h

/-- A handler takes over on the host that the failure leaves. -/
theorem ends_tryCatch {action : Action α} {handler : Failure → Action α}
    {result : Except Failure α} :
    Ends (tryCatch action handler) host result after ↔
      (∃ a, result = .ok a ∧ Gives action host a after) ∨
        ∃ failure middle, Ends action host (.error failure) middle ∧
          Ends (handler failure) middle result after := by
  simp only [ends_iff, gives_iff]
  rw [ExceptT.run_tryCatch, StateT.run_bind]
  rcases (action.run).run host with ⟨failure | a, middle⟩
  · constructor
    · intro h
      exact Or.inr ⟨failure, middle, rfl, h⟩
    · rintro (⟨_, _, h⟩ | ⟨_, _, h, hhandler⟩)
      · cases h
      · cases h
        exact hhandler
  · constructor
    · intro h
      cases h
      exact Or.inl ⟨a, rfl, rfl⟩
    · rintro (⟨_, rfl, h⟩ | ⟨_, _, h, _⟩)
      · cases h
        rfl
      · cases h

theorem run_attempt (action : Action α) (host : Host) :
    ((attempt action).run).run host =
      (.ok ((action.run).run host).1, ((action.run).run host).2) := by
  unfold attempt
  rw [ExceptT.run_tryCatch, StateT.run_bind, run_bind]
  rcases (action.run).run host with ⟨failure | a, middle⟩
  · rfl
  · rfl

/-- An attempt ends well whatever the action ends with. -/
theorem ends_attempt {action : Action α} {result : Except Failure (Except Failure α)} :
    Ends (attempt action) host result after ↔
      ∃ ended, Ends action host ended after ∧ result = .ok ended := by
  simp only [ends_iff, run_attempt]
  rcases (action.run).run host with ⟨ended, middle⟩
  constructor
  · intro h
    cases h
    exact ⟨ended, rfl, rfl⟩
  · rintro ⟨_, h, rfl⟩
    cases h
    rfl

/-- An action ends the same way if only some of its records are kept. -/
theorem ends_keepingLog {kept : LogRecord → Bool} {action : Action α}
    {result : Except Failure α} :
    Ends (keepingLog kept action) host result after ↔
      ∃ left, Ends action { host with log := [] } result left ∧
        after = { left with log := host.log ++ left.log.filter kept } := by
  have hrun : ((keepingLog kept action).run).run host =
      (((action.run).run { host with log := [] }).1,
        { ((action.run).run { host with log := [] }).2 with
          log := host.log ++ ((action.run).run { host with log := [] }).2.log.filter kept }) := rfl
  rw [ends_iff, hrun]
  constructor
  · intro h
    cases h
    exact ⟨_, ends_run _ _, rfl⟩
  · rintro ⟨left, h, rfl⟩
    rw [h.run_eq]

/-! ## Relations of hosts -/

/-- A relation of hosts that composes along a chain of steps. -/
class Composes (R : Host → Host → Prop) : Prop where
  refl : ∀ host, R host host
  trans : ∀ {host middle after}, R host middle → R middle after → R host after

/-- However the action ends, it leads from a host to a related one. -/
def Leads (R : Host → Host → Prop) (action : Action α) : Prop :=
  ∀ ⦃host result after⦄, Ends action host result after → R host after

variable {R : Host → Host → Prop}

theorem Leads.get_bind {rest : Host → Action β} (hrest : ∀ host, Leads R (rest host)) :
    Leads R (get >>= rest) := by
  intro host result after h
  exact hrest host (ends_get_bind.1 h)

variable [Composes R]

theorem Leads.pure (a : α) : Leads R (Pure.pure a : Action α) := by
  intro host result after h
  rw [(ends_pure.1 h).2]
  exact Composes.refl host

theorem Leads.fail (failure : Failure) : Leads R (Action.fail failure : Action α) := by
  intro host result after h
  rw [(ends_fail.1 h).2]
  exact Composes.refl host

theorem Leads.ofExcept (check : Except Failure α) : Leads R (Action.ofExcept check) := by
  intro host result after h
  rw [(ends_ofExcept.1 h).2]
  exact Composes.refl host

theorem Leads.bind {first : Action α} {rest : α → Action β} (hfirst : Leads R first)
    (hrest : ∀ a, Leads R (rest a)) : Leads R (first >>= rest) := by
  intro host result after h
  rcases ends_bind.1 h with ⟨failure, hfail, _⟩ | ⟨a, middle, hgives, hends⟩
  · exact hfirst hfail
  · exact Composes.trans (hfirst (ends_ok_iff.2 hgives)) (hrest a hends)

theorem Leads.guard {condition : Prop} [Decidable condition] {failure : Failure}
    {rest : PUnit → Action β} (hrest : Leads R (rest ⟨⟩)) :
    Leads R (if condition then Action.fail failure >>= rest else rest ⟨⟩) := by
  intro host result after h
  rcases ends_guard.1 h with ⟨_, _, rfl⟩ | ⟨_, h⟩
  · exact Composes.refl after
  · exact hrest h

theorem Leads.mapM {f : α → Action β} (hf : ∀ a, Leads R (f a)) (l : List α) :
    Leads R (l.mapM f) := by
  induction l with
  | nil =>
    rw [List.mapM_nil]
    exact .pure _
  | cons a l ih =>
    rw [List.mapM_cons]
    exact (hf a).bind fun b => ih.bind fun bs => .pure (b :: bs)

/-! ## Directories -/

/-- Making directories changes nothing but the tree. -/
theorem leads_makeDirectories_of_setTree
    (hset : ∀ (host : Host) (tree : FileTree), R host { host with tree })
    (fuel : Nat) (p : Path) (existOk : Bool) : Leads R (makeDirectories fuel p existOk) := by
  have hthere : ∀ (there : Bool) (failure : Failure),
      Leads R (if there = true then Pure.pure () else Action.fail failure : Action Unit) := by
    intro there failure
    split
    · exact .pure _
    · exact .fail _
  have hnew : ∀ tree : FileTree, Leads R (setTree tree) := by
    intro tree host result after h
    rw [(ends_modify.1 h).2]
    exact hset host tree
  induction fuel generalizing p existOk with
  | zero =>
    unfold makeDirectories
    refine .guard (.get_bind fun host => ?_)
    split
    · exact hnew _
    · exact .fail _
    · exact hthere _ _
  | succ fuel ih =>
    unfold makeDirectories
    refine .guard (.get_bind fun host => ?_)
    split
    · exact hnew _
    · refine (ih p.parent true).bind fun _ => .get_bind fun between => ?_
      split
      · exact hnew _
      · exact hthere _ _
    · exact hthere _ _

/-! ## Actions on files alone -/

/-- However the action ends, it has changed nothing of the host but its tree and its log. -/
def Quiet (action : Action α) : Prop :=
  ∀ ⦃host result after⦄, Ends action host result after →
    after = { host with tree := after.tree, log := after.log }

/-- Two hosts differ in their trees and logs at most. -/
def SameButFiles (host after : Host) : Prop :=
  after = { host with tree := after.tree, log := after.log }

instance : Composes SameButFiles where
  refl _ := rfl
  trans {host middle after} hfirst hrest := by
    unfold SameButFiles at hfirst hrest ⊢
    rw [hfirst] at hrest
    exact hrest

theorem quiet_iff {action : Action α} : Quiet action ↔ Leads SameButFiles action := Iff.rfl

theorem Quiet.current {action : Action α} (hquiet : Quiet action) {value : α}
    (h : Gives action host value after) : after.current = host.current := by
  rw [hquiet (ends_ok_iff.2 h)]

theorem Quiet.pure (a : α) : Quiet (Pure.pure a : Action α) := quiet_iff.2 (.pure a)

theorem Quiet.fail (failure : Failure) : Quiet (Action.fail failure : Action α) :=
  quiet_iff.2 (.fail failure)

theorem Quiet.ofExcept (check : Except Failure α) : Quiet (Action.ofExcept check) :=
  quiet_iff.2 (.ofExcept check)

theorem Quiet.bind {first : Action α} {rest : α → Action β} (hfirst : Quiet first)
    (hrest : ∀ a, Quiet (rest a)) : Quiet (first >>= rest) :=
  quiet_iff.2 ((quiet_iff.1 hfirst).bind hrest)

theorem Quiet.get_bind {rest : Host → Action β} (hrest : ∀ host, Quiet (rest host)) :
    Quiet (get >>= rest) := quiet_iff.2 (.get_bind hrest)

theorem Quiet.guard {condition : Prop} [Decidable condition] {failure : Failure}
    {rest : PUnit → Action β} (hrest : Quiet (rest ⟨⟩)) :
    Quiet (if condition then Action.fail failure >>= rest else rest ⟨⟩) :=
  quiet_iff.2 (.guard (quiet_iff.1 hrest))

theorem Quiet.mapM {f : α → Action β} (hf : ∀ a, Quiet (f a)) (l : List α) :
    Quiet (l.mapM f) := quiet_iff.2 (Leads.mapM (R := SameButFiles) hf l)

theorem quiet_log (level : Level) (message : String) : Quiet (log level message) := by
  intro host result after h
  rw [(ends_modify.1 h).2]

theorem quiet_setTree (tree : FileTree) : Quiet (setTree tree) := by
  intro host result after h
  rw [(ends_modify.1 h).2]

theorem quiet_isFile (p : Path) : Quiet (isFile p) := .get_bind fun _ => .pure _

theorem quiet_isDirectory (p : Path) : Quiet (isDirectory p) := .get_bind fun _ => .pure _

theorem quiet_pathExists (p : Path) : Quiet (pathExists p) := .get_bind fun _ => .pure _

theorem quiet_readFile (p : Path) : Quiet (readFile p) := by
  unfold readFile
  apply Quiet.guard
  apply Quiet.get_bind
  intro host
  split
  · exact .pure _
  · exact .fail _

theorem quiet_decode (content : Content) : Quiet (decode content) := by
  unfold decode
  split
  · exact .pure _
  · exact .fail _

theorem quiet_change (p : Path) (f : FileTree → Location → Except FileError FileTree) :
    Quiet (change p f) := by
  apply Quiet.get_bind
  intro host
  split
  · exact quiet_setTree _
  · exact .fail _

theorem quiet_writeText (p : Path) (text : List Text.CodePoint) : Quiet (writeText p text) := by
  unfold writeText
  split
  · exact quiet_change _ _
  · exact (quiet_change _ _).bind fun _ => .fail _

theorem quiet_moveFile (source target : Path) : Quiet (moveFile source target) := by
  apply (quiet_isDirectory target).bind
  intro there
  split
  · apply (quiet_pathExists _).bind
    intro taken
    apply Quiet.guard
    exact (quiet_readFile source).bind fun _ => quiet_change _ _
  · apply Quiet.guard
    exact (quiet_readFile source).bind fun _ => quiet_change _ _

theorem quiet_makeDirectories (fuel : Nat) (p : Path) (existOk : Bool) :
    Quiet (makeDirectories fuel p existOk) :=
  quiet_iff.2 (leads_makeDirectories_of_setTree (fun _ _ => rfl) fuel p existOk)

theorem quiet_removeTree (p : Path) : Quiet (removeTree p) := by
  apply Quiet.get_bind
  intro host
  split
  · exact .fail _
  · split
    · exact .fail _
    · exact .fail _
    · apply (quiet_setTree _).bind
      intro _
      apply Quiet.guard
      apply Quiet.guard
      apply Quiet.guard
      intro found result after h
      rw [(ends_modify.1 h).2]

end ProtoRefresh.Action
