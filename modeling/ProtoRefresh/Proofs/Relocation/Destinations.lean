-- What stands at the destinations in the end. A directory that stands at a
-- destination, or that a move makes there on the way to its own directory,
-- stays, and the file goes into it. Everywhere else the file arrives, and it
-- is there in the end unless a later source takes it from there.
import ProtoRefresh.Proofs.Relocation.Turns

namespace ProtoRefresh

open FileTree ProtoRefresh.Action

variable {current place : Location}

/-! ## Ways over a location -/

/-- A path leads over a location, or to it. -/
def Path.LeadsOver (p : Path) (current place : Location) : Prop :=
  ∃ k ≤ p.parts.length, (⟨p.slashes, p.parts.take k⟩ : Path).location current = place

instance (p : Path) (current place : Location) : Decidable (p.LeadsOver current place) :=
  inferInstanceAs (Decidable (∃ k ≤ p.parts.length, _))

/-- A path to a directory leads over directories. -/
theorem FileTree.directory_of_leadsOver {tree : FileTree} {p : Path}
    (hdir : tree.isDirectory current p = true) (hover : p.LeadsOver current place) :
    tree.get? place = some .directory := by
  obtain ⟨hwalks, hget⟩ := isDirectory_iff.1 hdir
  obtain ⟨k, hk, rfl⟩ := hover
  rcases Nat.eq_or_lt_of_le hk with rfl | hlt
  · rwa [List.take_length]
  · exact hwalks _ _ (List.take_append_getElem hlt ▸ List.take_prefix _ _)

/-- Directories come only where the path leads over. -/
theorem FileTree.Makes.directory_or_over {tree after : FileTree} {p : Path}
    (h : Makes current p tree after) (hdir : after.get? place = some .directory) :
    tree.get? place = some .directory ∨ p.LeadsOver current place := by
  rcases h.get? place with hsame | ⟨_, _, k, rfl⟩
  · exact Or.inl (hsame ▸ hdir)
  · refine Or.inr ⟨min k p.parts.length, Nat.min_le_right _ _, ?_⟩
    rw [← List.take_eq_take_min]

namespace Relocation

variable {host after : Host} {directory root p : Path} {source : Source} {placement : Placement}
  {turns : List Turn}

/-! ## One turn -/

/-- The directories after a turn are those before it and those that its source goes over. -/
theorem directory_of_gives_place_iff
    (h : Gives (Relocation.place root false source p) host placement after) (place : Location) :
    after.tree.get? place = some .directory ↔ host.tree.get? place = some .directory ∨
      (root.joinText source.dest).LeadsOver host.current place := by
  obtain ⟨_, made, goal, _, _, hmakes, hrename, _⟩ := gives_place_run h
  have hstays := directory_stays_of_rename hrename place
  constructor
  · intro hdir
    obtain ⟨_, _, _, _, hget⟩ := get?_of_rename hrename
    have hmade : made.get? place = some .directory := by
      rw [hget] at hdir
      split at hdir
      · cases hdir
      · split at hdir
        · cases hdir
        · exact hdir
    exact hmakes.directory_or_over hmade
  · rintro (hdir | hover)
    · exact hstays (hmakes.directory_stays place hdir)
    · exact hstays (directory_of_leadsOver hmakes.isDirectory hover)

/-- Where no directory is, a file that is placed arrives. -/
theorem isFile_of_gives_place (h : Gives (Relocation.place root false source p) host placement after)
    (hno : after.tree.get? (placement.destination.location host.current) ≠ some .directory) :
    after.tree.isFile host.current placement.destination = true := by
  obtain ⟨_, made, goal, _, rfl, hmakes, hrename, hgoal, _⟩ := gives_place_run h
  have hover : made.isDirectory host.current (source.target root p) ≠ true := by
    intro hdir
    exact hno (directory_stays_of_rename hrename _ (isDirectory_iff.1 hdir).2)
  rw [if_neg hover] at hgoal
  obtain ⟨rfl, _⟩ := hgoal
  obtain ⟨content, _, hwalks, _, hget⟩ := get?_of_rename hrename
  refine isFile_iff.2 ⟨content, read_eq_ok_iff.2 ⟨?_, by rw [hget, if_pos rfl]⟩⟩
  exact hwalks.mono (directory_stays_of_rename hrename)

/-- A file stays where it is, or another one comes there, when a third one is placed. -/
theorem file_stays_of_gives_place (h : Gives (Relocation.place root false source p) host placement after)
    (hfile : ∃ content, host.tree.get? place = some (.file content))
    (hother : p.location host.current ≠ place) :
    ∃ content, after.tree.get? place = some (.file content) := by
  obtain ⟨_, made, goal, _, _, hmakes, hrename, _⟩ := gives_place_run h
  obtain ⟨content, hfile⟩ := hfile
  obtain ⟨new, _, _, _, hget⟩ := get?_of_rename hrename
  rw [hget]
  by_cases hgoal : place = goal.location host.current
  · exact ⟨new, if_pos hgoal⟩
  · rw [if_neg hgoal, if_neg hother.symm]
    rcases hmakes.get? place with hsame | ⟨hnone, _⟩
    · exact ⟨content, hsame ▸ hfile⟩
    · rw [hfile] at hnone
      cases hnone

/-! ## Turns in a row -/

/-- The directories after some turns are those before them and those that their sources go over. -/
theorem Runs.directory_iff (h : Runs root false host turns after) (place : Location) :
    after.tree.get? place = some .directory ↔ host.tree.get? place = some .directory ∨
      ∃ turn ∈ turns, (root.joinText turn.source.dest).LeadsOver host.current place := by
  induction h with
  | nil => simp
  | cons first next ih =>
    rw [ih, directory_of_gives_place_iff first, (quiet_place _ _ _ _).current first]
    simp [or_assoc]

/-- Whenever a turn takes a file from a place, it or a turn after it is to bring one there. -/
def Refills (current place : Location) (turns : List Turn) : Prop :=
  ∀ before turn rest, turns = before ++ turn :: rest → turn.file.location current = place →
    ∃ other ∈ turn :: rest, other.placement.destination.location current = place

theorem Refills.tail {turn : Turn} (h : Refills current place (turn :: turns)) :
    Refills current place turns :=
  fun before other rest hsplit => h (turn :: before) other rest (by rw [hsplit]; rfl)

/-- Where no directory is, there is a file in the end if one was there or was to come, and none is
taken away without another one to come. -/
theorem Runs.file_stays (h : Runs root false host turns after)
    (hno : after.tree.get? place ≠ some .directory) (hrefills : Refills host.current place turns)
    (hsome : (∃ content, host.tree.get? place = some (.file content)) ∨
      ∃ turn ∈ turns, turn.placement.destination.location host.current = place) :
    ∃ content, after.tree.get? place = some (.file content) := by
  induction h with
  | nil => exact hsome.resolve_right (by simp)
  | @cons source p placement rest host middle after first next ih =>
    have hcurrent := (quiet_place root false source p).current first
    rw [hcurrent] at ih
    refine ih hno hrefills.tail ?_
    by_cases hlater : ∃ turn ∈ rest, turn.placement.destination.location host.current = place
    · exact Or.inr hlater
    · refine Or.inl ?_
      by_cases hhere : placement.destination.location host.current = place
      · have hmiddle : middle.tree.get? place ≠ some .directory :=
          fun hdir => hno ((next.directory_iff place).2 (Or.inl hdir))
        obtain ⟨content, hread⟩ := isFile_iff.1 (isFile_of_gives_place first (hhere ▸ hmiddle))
        exact ⟨content, hhere ▸ (read_eq_ok_iff.1 hread).2⟩
      · -- the turn brings nothing there, so it takes nothing from there either
        have hnone : ¬ ∃ turn ∈ (⟨source, p, host, placement⟩ : Turn) :: rest,
            turn.placement.destination.location host.current = place := by
          simpa [hhere] using hlater
        have hfile := hsome.resolve_right hnone
        exact file_stays_of_gives_place first hfile fun htakes =>
          hnone (hrefills [] ⟨source, p, host, placement⟩ rest rfl htakes)

/-! ## The whole relocation -/

/-- The directories after a relocation are those before it and those on the ways to the directories
of the moves. -/
theorem Serves.directory_iff {moves : List Move}
    (h : Serves directory root false (sourcesOf moves) [] host turns after) (place : Location) :
    after.tree.get? place = some .directory ↔ host.tree.get? place = some .directory ∨
      ∃ move ∈ moves, (root.joinText move.dest).LeadsOver host.current place := by
  rw [h.runs.directory_iff]
  refine or_congr_right ⟨?_, ?_⟩
  · rintro ⟨turn, ht, hover⟩
    have hmem := (h.mem_iff turn.source).2 ⟨turn, ht, rfl⟩
    obtain ⟨move, hmove, hsource⟩ := List.mem_flatMap.1 hmem
    obtain ⟨pattern, _, heq⟩ := List.mem_map.1 hsource
    rw [← heq] at hover
    exact ⟨move, hmove, hover⟩
  · rintro ⟨move, hmove, hover⟩
    obtain ⟨pattern, hpattern⟩ := List.exists_mem_of_ne_nil _ move.sources_ne_nil
    have hmem : (⟨pattern, move.dest, move.rename⟩ : Source) ∈ sourcesOf moves :=
      List.mem_flatMap.2 ⟨move, hmove, List.mem_map_of_mem hpattern⟩
    obtain ⟨turn, ht, heq⟩ := (h.mem_iff _).1 hmem
    exact ⟨turn, ht, by rw [heq]; exact hover⟩

/-- In the end a destination holds a file unless a directory was there from the start or was made
there on the way to the directory of a move, as long as no file is taken from there for good. -/
theorem a_destination_holds_a_file_or_a_directory {moves : List Move} {placements : List Placement}
    (hrun : Gives (relocate directory root moves false) host placements after) :
    ∃ turns, Serves directory root false (sourcesOf moves) [] host turns after ∧
      turns.map Turn.placement = placements ∧
      ∀ before turn later, turns = before ++ turn :: later →
        Refills host.current (turn.placement.destination.location host.current) later →
        (after.tree.isFile after.current turn.placement.destination = true ↔
          host.tree.get? (turn.placement.destination.location host.current) ≠ some .directory ∧
          ∀ move ∈ moves, ¬ (root.joinText move.dest).LeadsOver host.current
            (turn.placement.destination.location host.current)) := by
  obtain ⟨turns, hserves, hplacements⟩ := exists_turns_of_placeSources hrun
  refine ⟨turns, hserves, hplacements, ?_⟩
  rintro before turn later rfl hrefills
  have hdirectory := hserves.directory_iff (turn.placement.destination.location host.current)
  have hno : (after.tree.get? (turn.placement.destination.location host.current) ≠
      some .directory) ↔ _ := not_congr hdirectory
  simp only [not_or, not_exists, not_and] at hno
  rw [hserves.runs.current, ne_eq, ← hno]
  obtain ⟨hbefore, middle, hplace, hlater⟩ := hserves.runs.at
  have hcurrent : turn.host.current = host.current := hbefore.current
  have hmiddle : middle.current = host.current := by
    rw [← hcurrent]
    exact (quiet_place _ _ _ _).current hplace
  have hstays : ∀ place, middle.tree.get? place = some .directory →
      after.tree.get? place = some .directory :=
    fun place hdir => (hlater.directory_iff place).2 (Or.inl hdir)
  constructor
  · intro hfile hdir
    obtain ⟨content, hread⟩ := isFile_iff.1 hfile
    rw [(read_eq_ok_iff.1 hread).2] at hdir
    cases hdir
  · intro hnone
    have harrived : middle.tree.isFile host.current turn.placement.destination = true := by
      rw [← hcurrent] at hnone ⊢
      exact isFile_of_gives_place hplace fun hdir => hnone (hstays _ hdir)
    obtain ⟨content, hread⟩ := isFile_iff.1 harrived
    obtain ⟨hwalks, hget⟩ := read_eq_ok_iff.1 hread
    obtain ⟨last, hlast⟩ :=
      hlater.file_stays hnone (hmiddle.symm ▸ hrefills) (Or.inl ⟨content, hget⟩)
    exact isFile_iff.2 ⟨last, read_eq_ok_iff.2 ⟨hwalks.mono hstays, hlast⟩⟩

/-- A tree with a generated file, and with something at its destination. -/
def standingHost (standing : Entry) : Host where
  tree := ((FileTree.empty.withFile ["tmp", "a.rs"] (encode "a")).withDirectories ["src"]).set
    ["src", "a.rs"] standing
  current := []
  scratch := Path.here
  responses := []
  calls := []
  log := []

/-- The move of the generated file. -/
def standingMoves : List Move := [Source.move ⟨"a.rs", "src", none⟩]

theorem a_file_arrives_over_another_one : ∃ after,
    Gives (relocate (Path.ofText "tmp") Path.here standingMoves false) (standingHost (.file []))
      [⟨"a.rs", ⟨0, ["src", "a.rs"]⟩, true⟩] after ∧
    after.tree.isFile after.current ⟨0, ["src", "a.rs"]⟩ = true := by
  have hrun : Gives (relocate (Path.ofText "tmp") Path.here standingMoves false)
      (standingHost (.file [])) [⟨"a.rs", ⟨0, ["src", "a.rs"]⟩, true⟩] _ :=
    gives_of_toOption (by decide +kernel)
  refine ⟨_, hrun, ?_⟩
  obtain ⟨turns, _, hplacements, hholds⟩ := a_destination_holds_a_file_or_a_directory hrun
  obtain ⟨turn, rfl, hturn⟩ := List.map_eq_singleton_iff.1 hplacements
  have hlater : ∀ place, Refills [] place [] := fun place before other rest h => by simp at h
  have hiff := hholds [] turn [] rfl (hlater _)
  rw [hturn] at hiff
  exact hiff.2 ⟨by decide +kernel, by decide +kernel⟩

/-- Into a directory at its destination a file goes under its own name. -/
theorem a_file_goes_into_a_directory_at_its_destination : ∃ after,
    Gives (relocate (Path.ofText "tmp") Path.here standingMoves false) (standingHost .directory)
      [⟨"a.rs", ⟨0, ["src", "a.rs"]⟩, true⟩] after ∧
    after.tree.isFile after.current ⟨0, ["src", "a.rs"]⟩ = false ∧
    after.tree.read after.current ⟨0, ["src", "a.rs", "a.rs"]⟩ = .ok (encode "a") := by
  refine ⟨_, gives_of_toOption (by decide +kernel), ?_, ?_⟩
  · decide +kernel
  · exact eq_ok_of_toOption (by decide +kernel)

end Relocation

end ProtoRefresh
