-- A relocation as a row of turns. In each turn a source places one file
-- that it gets, on the host that the turn before has left behind; every
-- source has a turn, and the placements are what the turns give.
import ProtoRefresh.Proofs.Regeneration.Calls
import ProtoRefresh.Proofs.Relocation.Steps

namespace ProtoRefresh.Relocation

open ProtoRefresh.Action

variable {host after : Host} {directory root : Path} {dryRun : Bool}

/-! ## Turns -/

structure Turn where
  source : Source
  file : Path
  /-- The host that the turn finds. -/
  host : Host
  placement : Placement

/-- Turns in a row lead from a host to another one. -/
inductive Runs (root : Path) (dryRun : Bool) : Host → List Turn → Host → Prop
  | nil {host : Host} : Runs root dryRun host [] host
  | cons {source : Source} {p : Path} {placement : Placement} {rest : List Turn}
      {host middle after : Host} (first : Gives (place root dryRun source p) host placement middle)
      (next : Runs root dryRun middle rest after) :
      Runs root dryRun host (⟨source, p, host, placement⟩ :: rest) after

theorem runs_append {turns rest : List Turn} :
    Runs root dryRun host (turns ++ rest) after ↔
      ∃ middle, Runs root dryRun host turns middle ∧ Runs root dryRun middle rest after := by
  constructor
  · intro h
    induction turns generalizing host with
    | nil => exact ⟨host, .nil, h⟩
    | cons turn turns ih =>
      obtain _ | ⟨first, next⟩ := h
      obtain ⟨middle, hturns, hrest⟩ := ih next
      exact ⟨middle, .cons first hturns, hrest⟩
  · rintro ⟨middle, hturns, hrest⟩
    induction hturns with
    | nil => exact hrest
    | cons first _ ih => exact .cons first (ih hrest)

/-- A row of turns up to one of them, this one, and those after it. -/
theorem Runs.at {before rest : List Turn} {turn : Turn}
    (h : Runs root dryRun host (before ++ turn :: rest) after) :
    Runs root dryRun host before turn.host ∧ ∃ middle,
      Gives (place root dryRun turn.source turn.file) turn.host turn.placement middle ∧
        Runs root dryRun middle rest after := by
  obtain ⟨_, hbefore, hrest⟩ := runs_append.1 h
  cases hrest with
  | cons first next => exact ⟨hbefore, _, first, next⟩

/-- Turns leave the current directory as it is. -/
theorem Runs.current {turns : List Turn} (h : Runs root dryRun host turns after) :
    after.current = host.current := by
  induction h with
  | nil => rfl
  | cons first _ ih => rw [ih, (quiet_place _ _ _ _).current first]

/-! ## The turns of a relocation -/

/-- Each source in its order has a turn for every file that it gets. -/
inductive Serves (directory root : Path) (dryRun : Bool) :
    List Source → List Path → Host → List Turn → Host → Prop
  | nil {claimed : List Path} {host : Host} : Serves directory root dryRun [] claimed host [] host
  | cons {source : Source} {rest : List Source} {claimed : List Path} {mine others : List Turn}
      {host middle after : Host}
      (gets : Gives (expand directory source.pattern claimed) host (mine.map Turn.file) host)
      (own : ∀ turn ∈ mine, turn.source = source) (places : Runs root dryRun host mine middle)
      (next : Serves directory root dryRun rest (claimed ++ mine.map Turn.file) middle others
        after) :
      Serves directory root dryRun (source :: rest) claimed host (mine ++ others) after

variable {sources : List Source} {claimed : List Path} {turns : List Turn}

theorem Serves.runs (h : Serves directory root dryRun sources claimed host turns after) :
    Runs root dryRun host turns after := by
  induction h with
  | nil => exact .nil
  | cons _ _ places _ ih => exact runs_append.2 ⟨_, places, ih⟩

/-- Each source has a turn. -/
theorem Serves.mem_iff (h : Serves directory root dryRun sources claimed host turns after)
    (source : Source) : source ∈ sources ↔ ∃ turn ∈ turns, turn.source = source := by
  induction h with
  | nil => simp
  | @cons first rest claimed mine others host middle after gets own places next ih =>
    have hsome := ne_nil_of_gives_expand gets
    simp only [List.mem_cons, List.mem_append, or_and_right, exists_or, ih]
    refine or_congr_left ⟨?_, ?_⟩
    · rintro rfl
      obtain ⟨turn, ht⟩ := List.exists_mem_of_ne_nil mine fun hnil => hsome (by rw [hnil]; rfl)
      exact ⟨turn, ht, own turn ht⟩
    · rintro ⟨turn, ht, rfl⟩
      exact own turn ht

/-- The files of one source are placed in turn. -/
theorem exists_turns_of_places {source : Source} {found : List Path} {placed : List Placement}
    (h : Gives (found.mapM (place root dryRun source)) host placed after) :
    ∃ turns, Runs root dryRun host turns after ∧ turns.map Turn.placement = placed ∧
      turns.map Turn.file = found ∧ ∀ turn ∈ turns, turn.source = source := by
  induction found generalizing host placed with
  | nil =>
    obtain ⟨rfl, rfl⟩ := gives_mapM_nil.1 h
    exact ⟨[], .nil, rfl, rfl, List.forall_mem_nil _⟩
  | cons p rest ih =>
    obtain ⟨placement, middle, _, hplace, hrest, rfl⟩ := gives_mapM_cons.1 h
    obtain ⟨turns, hruns, rfl, rfl, hsource⟩ := ih hrest
    exact ⟨_, .cons hplace hruns, rfl, rfl, List.forall_mem_cons.2 ⟨rfl, hsource⟩⟩

/-- The placements of some sources are what their turns give. -/
theorem exists_turns_of_placeSources {placements : List Placement}
    (h : Gives (placeSources directory root dryRun sources claimed) host placements after) :
    ∃ turns, Serves directory root dryRun sources claimed host turns after ∧
      turns.map Turn.placement = placements := by
  induction sources generalizing host claimed placements with
  | nil =>
    obtain ⟨rfl, rfl⟩ := gives_placeSources_nil.1 h
    exact ⟨[], .nil, rfl⟩
  | cons source rest ih =>
    obtain ⟨_, _, middle, _, hexpand, hplace, hrest, rfl⟩ := gives_placeSources_cons.1 h
    obtain ⟨mine, hmine, rfl, rfl, hsource⟩ := exists_turns_of_places hplace
    obtain ⟨others, hothers, rfl⟩ := ih hrest
    exact ⟨mine ++ others, .cons hexpand hsource hmine hothers, List.map_append⟩

end ProtoRefresh.Relocation
