-- What it means for an action to end well, and what must hold on each
-- step of it then. A run that ends well is taken apart step by step.
import ProtoRefresh.Host.Basic

namespace ProtoRefresh

/-- A chain of checks that holds out is a first check and the rest. -/
theorem except_bind_eq_ok {ε α β : Type} {first : Except ε α} {rest : α → Except ε β} {b : β} :
    (first >>= rest) = .ok b ↔ ∃ a, first = .ok a ∧ rest a = .ok b := by
  cases first with
  | error e =>
    constructor
    · intro h
      cases h
    · rintro ⟨_, h, _⟩
      cases h
  | ok a =>
    constructor
    · intro h
      exact ⟨a, rfl, h⟩
    · rintro ⟨_, h, hr⟩
      cases h
      exact hr

theorem except_bind_eq_error {ε α β : Type} {first : Except ε α} {rest : α → Except ε β} {e : ε} :
    (first >>= rest) = .error e ↔ first = .error e ∨ ∃ a, first = .ok a ∧ rest a = .error e := by
  cases first with
  | error other =>
    constructor
    · intro h
      cases h
      exact Or.inl rfl
    · rintro (h | ⟨_, h, _⟩)
      · cases h
        rfl
      · cases h
  | ok a =>
    constructor
    · intro h
      exact Or.inr ⟨a, rfl, h⟩
    · rintro (h | ⟨_, h, hr⟩)
      · cases h
      · cases h
        exact hr

/-- One of some checks in a row fails with what the row fails with. -/
theorem except_mapM_eq_error {ε α β : Type} {f : α → Except ε β} {l : List α} {e : ε}
    (h : l.mapM f = .error e) : ∃ a ∈ l, f a = .error e := by
  induction l with
  | nil => cases h
  | cons a l ih =>
    rw [List.mapM_cons] at h
    rcases except_bind_eq_error.1 h with hfirst | ⟨b, _, h⟩
    · exact ⟨a, List.mem_cons_self, hfirst⟩
    · rcases except_bind_eq_error.1 h with hrest | ⟨_, _, hlast⟩
      · obtain ⟨other, ho, hother⟩ := ih hrest
        exact ⟨other, List.mem_cons_of_mem a ho, hother⟩
      · cases hlast

/-- Of some checks in a row that holds out each one does. -/
theorem except_mapM_eq_ok {ε α β : Type} {f : α → Except ε β} {l : List α} {bs : List β}
    (h : l.mapM f = .ok bs) : ∀ a ∈ l, ∃ b, f a = .ok b := by
  induction l generalizing bs with
  | nil => exact fun a ha => absurd ha List.not_mem_nil
  | cons a l ih =>
    rw [List.mapM_cons] at h
    obtain ⟨b, hfirst, h⟩ := except_bind_eq_ok.1 h
    obtain ⟨rest, hrest, _⟩ := except_bind_eq_ok.1 h
    intro other ho
    rcases List.mem_cons.1 ho with rfl | ho
    · exact ⟨b, hfirst⟩
    · exact ih hrest other ho

/-- Checks in a row that holds out give what each one gives. -/
theorem except_mapM_eq_map {ε α β : Type} {f : α → Except ε β} {g : α → β} {l : List α}
    {bs : List β} (hf : ∀ a b, f a = .ok b → g a = b) (h : l.mapM f = .ok bs) : bs = l.map g := by
  induction l generalizing bs with
  | nil =>
    cases h
    rfl
  | cons a l ih =>
    rw [List.mapM_cons] at h
    obtain ⟨b, hfirst, h⟩ := except_bind_eq_ok.1 h
    obtain ⟨rest, hrest, hlast⟩ := except_bind_eq_ok.1 h
    cases hlast
    rw [List.map_cons, hf a b hfirst, ← ih hrest]

theorem except_mapError_eq_ok {ε ε' α : Type} {f : ε → ε'} {result : Except ε α} {a : α} :
    result.mapError f = .ok a ↔ result = .ok a := by
  cases result with
  | error e =>
    constructor
    · intro h
      cases h
    · intro h
      cases h
  | ok b =>
    constructor
    · intro h
      cases h
      rfl
    · intro h
      cases h
      rfl

instance decidableEqExcept {ε α : Type} [DecidableEq ε] [DecidableEq α] :
    DecidableEq (Except ε α)
  | .error e, .error f => decidable_of_iff (e = f) (by simp)
  | .ok a, .ok b => decidable_of_iff (a = b) (by simp)
  | .error _, .ok _ => isFalse nofun
  | .ok _, .error _ => isFalse nofun

theorem eq_ok_of_toOption {ε α : Type} {result : Except ε α} {a : α}
    (h : result.toOption = some a) : result = .ok a := by
  cases result with
  | error e => cases h
  | ok b =>
    cases h
    rfl

theorem eq_error_of_match {ε α : Type} [DecidableEq ε] {result : Except ε α} {e : ε}
    (h : (match result with | .error other => decide (other = e) | .ok _ => false) = true) :
    result = .error e := by
  cases result with
  | error other => rw [of_decide_eq_true h]
  | ok a => cases h

namespace Action

variable {α β : Type} {host after : Host}

/-- The action ends well on a host with a value, and leaves another host behind. -/
structure Gives (action : Action α) (host : Host) (value : α) (after : Host) : Prop where
  run_eq : (action.run).run host = (.ok value, after)

theorem gives_iff {action : Action α} {value : α} :
    Gives action host value after ↔ (action.run).run host = (.ok value, after) :=
  ⟨Gives.run_eq, Gives.mk⟩

theorem gives_of_toOption {action : Action α} {value : α}
    (h : ((action.run).run host).1.toOption = some value) :
    Gives action host value ((action.run).run host).2 :=
  ⟨Prod.ext (eq_ok_of_toOption h) rfl⟩

/-- An action leaves one value and one host behind. -/
theorem Gives.unique {action : Action α} {value other : α} {left : Host}
    (h : Gives action host value after) (ho : Gives action host other left) :
    value = other ∧ after = left := by
  have heq := h.run_eq.symm.trans ho.run_eq
  cases heq
  exact ⟨rfl, rfl⟩

/-! ## Steps -/

@[simp] theorem gives_pure {a value : α} :
    Gives (pure a) host value after ↔ a = value ∧ after = host := by
  rw [gives_iff]
  constructor
  · intro h
    cases h
    exact ⟨rfl, rfl⟩
  · rintro ⟨rfl, rfl⟩
    rfl

theorem run_bind {first : Action α} {rest : α → Action β} :
    ((first >>= rest).run).run host =
      match (first.run).run host with
      | (.ok a, middle) => ((rest a).run).run middle
      | (.error failure, middle) => (.error failure, middle) := by
  rcases hf : (first.run).run host with ⟨e | a, middle⟩
  · simp only [ExceptT.run_bind, StateT.run_bind, hf]
    rfl
  · simp only [ExceptT.run_bind, StateT.run_bind, hf]
    rfl

theorem gives_bind {first : Action α} {rest : α → Action β} {value : β} :
    Gives (first >>= rest) host value after ↔
      ∃ a middle, Gives first host a middle ∧ Gives (rest a) middle value after := by
  simp only [gives_iff]
  rw [run_bind]
  rcases (first.run).run host with ⟨e | a, middle⟩
  · constructor
    · intro h
      cases h
    · rintro ⟨_, _, h, _⟩
      cases h
  · constructor
    · intro h
      exact ⟨a, middle, rfl, h⟩
    · rintro ⟨_, _, h, hr⟩
      cases h
      exact hr

@[simp] theorem gives_get {value : Host} :
    Gives get host value after ↔ value = host ∧ after = host := by
  rw [gives_iff]
  constructor
  · intro h
    cases h
    exact ⟨rfl, rfl⟩
  · rintro ⟨rfl, rfl⟩
    rfl

theorem gives_get_bind {rest : Host → Action β} {value : β} :
    Gives (get >>= rest) host value after ↔ Gives (rest host) host value after := by
  rw [gives_bind]
  constructor
  · rintro ⟨_, _, hget, hrest⟩
    obtain ⟨rfl, rfl⟩ := gives_get.1 hget
    exact hrest
  · intro h
    exact ⟨_, _, gives_get.2 ⟨rfl, rfl⟩, h⟩

@[simp] theorem gives_modify {f : Host → Host} {value : PUnit} :
    Gives (modify f) host value after ↔ after = f host := by
  rw [gives_iff]
  constructor
  · intro h
    cases h
    rfl
  · rintro rfl
    rfl

@[simp] theorem gives_set {next : Host} {value : PUnit} :
    Gives (set next) host value after ↔ after = next := by
  rw [gives_iff]
  constructor
  · intro h
    cases h
    rfl
  · rintro rfl
    rfl

@[simp] theorem not_gives_fail {failure : Failure} {value : α} :
    ¬ Gives (fail failure) host value after := by
  rw [gives_iff]
  intro h
  cases h

/-- What is guarded against does not hold. -/
theorem gives_guard {condition : Prop} [Decidable condition] {failure : Failure}
    {rest : PUnit → Action β} {value : β} :
    Gives (if condition then fail failure >>= rest else rest ⟨⟩) host value after ↔
      ¬ condition ∧ Gives (rest ⟨⟩) host value after := by
  by_cases hc : condition
  · rw [if_pos hc, gives_bind]
    constructor
    · rintro ⟨_, _, hfail, _⟩
      exact absurd hfail not_gives_fail
    · rintro ⟨hnot, _⟩
      exact absurd hc hnot
  · rw [if_neg hc]
    exact ⟨fun h => ⟨hc, h⟩, And.right⟩

/-! ## Rows -/

theorem gives_mapM_nil {f : α → Action β} {values : List β} :
    Gives ([].mapM f) host values after ↔ values = [] ∧ after = host := by
  rw [List.mapM_nil, gives_pure]
  exact and_congr_left fun _ => eq_comm

/-- A row of actions is its first action, and the others after it. -/
theorem gives_mapM_cons {f : α → Action β} {a : α} {l : List α} {values : List β} :
    Gives ((a :: l).mapM f) host values after ↔
      ∃ value middle others, Gives (f a) host value middle ∧
        Gives (l.mapM f) middle others after ∧ values = value :: others := by
  rw [List.mapM_cons, gives_bind]
  constructor
  · rintro ⟨value, middle, hfirst, h⟩
    obtain ⟨others, _, hrest, hlast⟩ := gives_bind.1 h
    obtain ⟨rfl, rfl⟩ := gives_pure.1 hlast
    exact ⟨value, middle, others, hfirst, hrest, rfl⟩
  · rintro ⟨value, middle, others, hfirst, hrest, rfl⟩
    exact ⟨value, middle, hfirst, gives_bind.2 ⟨others, after, hrest, gives_pure.2 ⟨rfl, rfl⟩⟩⟩

/-! ## Checks -/

@[simp] theorem gives_ofExcept {result : Except Failure α} {value : α} :
    Gives (ofExcept result) host value after ↔ result = .ok value ∧ after = host := by
  cases result with
  | error e =>
    rw [gives_iff]
    constructor
    · intro h
      cases h
    · rintro ⟨h, _⟩
      cases h
  | ok a =>
    refine gives_pure.trans ⟨?_, ?_⟩
    · rintro ⟨rfl, rfl⟩
      exact ⟨rfl, rfl⟩
    · rintro ⟨h, rfl⟩
      cases h
      exact ⟨rfl, rfl⟩

end Action

end ProtoRefresh
