-- What the flag of a placement tells. A destination and a file that are
-- alike but for four bytes have different checksums, so the placement is a
-- changed one; where they hold the same content it is an unchanged one.
import ProtoRefresh.Proofs.Checksum.Window
import ProtoRefresh.Proofs.Relocation.Again
import ProtoRefresh.Proofs.Relocation.Turns

namespace ProtoRefresh.Relocation

open FileTree ProtoRefresh.Action

variable {host after : Host} {directory root p : Path} {dryRun : Bool} {source : Source}
  {old new : Content}

/-- A placement tells whether the destination holds the same content when its turn comes. -/
theorem tells_of_gives_place {placement : Placement}
    (h : Gives (place root dryRun source p) host placement after) : placement.Tells host p := by
  cases dryRun with
  | true =>
    obtain ⟨_, hdiffers, rfl, _⟩ := gives_place_dry.1 h
    exact ⟨rfl, eq_false_iff_of_gives_differs hdiffers⟩
  | false =>
    obtain ⟨_, _, _, hdiffers, rfl, _⟩ := gives_place_run h
    exact ⟨rfl, eq_false_iff_of_gives_differs hdiffers⟩

/-- Where at most a window of four bytes may differ, the flag tells whether it does. -/
theorem changed_iff_of_gives_place (halike : Checksum.AlikeButFor 4 old new)
    {placement : Placement} (h : Gives (place root dryRun source p) host placement after)
    (hold : host.tree.read host.current placement.destination = .ok old)
    (hnew : host.tree.read host.current p = .ok new) : placement.changed = true ↔ old ≠ new := by
  rw [← Bool.not_eq_false, not_iff_not, (tells_of_gives_place h).unchanged_iff,
    ← Checksum.crc32c_eq_iff halike]
  constructor
  · rintro ⟨other, more, hother, hmore, heq⟩
    cases hold.symm.trans hother
    cases hnew.symm.trans hmore
    exact heq
  · exact fun heq => ⟨old, new, hold, hnew, heq⟩

/-- A source names a file that would go over another one. -/
structure Replaces (source : Source) (host : Host) (directory root p : Path) (old new : Content) :
    Prop where
  plain : source.Plain
  noPattern : Glob.isPattern source.pattern = false
  wellFormed : host.WellFormed
  namesOpen : host.tree.NamesOpen
  joined : directory.joinText source.pattern = p
  target : host.tree.read host.current (source.target root p) = .ok old
  file : host.tree.read host.current p = .ok new

theorem gives_relocate_of_replaces (h : Replaces source host directory root p old new) :
    ∃ after, Gives (relocate directory root [source.move] dryRun) host
      [⟨p.name, source.target root p, Checksum.crc32c old != Checksum.crc32c new⟩] after := by
  have hisName : IsName p.name :=
    h.wellFormed.tree.isName_of_read h.file fun _ => h.wellFormed.current
  have hexpand : Gives (expand directory source.pattern []) host [p] host := by
    rw [gives_expand, if_neg (by simp [h.noPattern]), h.joined]
    exact ⟨rfl, rfl, List.not_mem_nil, isFile_iff.2 ⟨new, h.file⟩⟩
  obtain ⟨tree, log, hplace, _⟩ := gives_place_of_reads dryRun h.plain hisName
    (h.namesOpen.isEnded_of_read h.file) (h.namesOpen.isEnded_of_read h.target) h.target h.file
  have hsources : sourcesOf [source.move] = [source] := by
    simp [sourcesOf, Source.move, isSingleName, h.noPattern]
  have hfiles := gives_mapM_cons.2 ⟨_, _, [], hplace, gives_mapM_nil.2 ⟨rfl, rfl⟩, rfl⟩
  unfold relocate
  rw [hsources]
  exact ⟨_, gives_placeSources_cons.2
    ⟨[p], _, _, [], hexpand, hfiles, gives_placeSources_nil.2 ⟨rfl, rfl⟩, rfl⟩⟩

/-- A change within four bytes is reported, and so is that there is none, for every file that is
placed over another one; and there is such a report for every two such contents. -/
theorem a_change_within_four_bytes_is_reported (halike : Checksum.AlikeButFor 4 old new)
    (directory root : Path) (dryRun : Bool) :
    (∀ moves host placements after,
      Gives (relocate directory root moves dryRun) host placements after →
      ∃ turns, Serves directory root dryRun (sourcesOf moves) [] host turns after ∧
        turns.map Turn.placement = placements ∧
        ∀ turn ∈ turns,
          turn.host.tree.read turn.host.current turn.placement.destination = .ok old →
          turn.host.tree.read turn.host.current turn.file = .ok new →
          (turn.placement.changed = true ↔ old ≠ new)) ∧
    ∀ source host p, Replaces source host directory root p old new →
      ∃ after, Gives (relocate directory root [source.move] dryRun) host
        [⟨p.name, source.target root p, decide (old ≠ new)⟩] after := by
  constructor
  · intro moves host placements after hrun
    obtain ⟨turns, hserves, hplacements⟩ := exists_turns_of_placeSources hrun
    refine ⟨turns, hserves, hplacements, fun turn ht hold hnew => ?_⟩
    obtain ⟨before, rest, rfl⟩ := List.append_of_mem ht
    obtain ⟨_, _, hplace, _⟩ := hserves.runs.at
    exact changed_iff_of_gives_place halike hplace hold hnew
  · intro source host p hreplaces
    have hflag : decide (old ≠ new) = (Checksum.crc32c old != Checksum.crc32c new) := by
      rw [Bool.eq_iff_iff, decide_eq_true_iff, bne_iff_ne, ne_eq, ne_eq,
        Checksum.crc32c_eq_iff halike]
    rw [hflag]
    exact gives_relocate_of_replaces hreplaces

/-- A tree in which a file of sixteen bytes differs from its destination in three of them. -/
def patchedHost : Host where
  tree := (FileTree.empty.withFile ["tmp", "a.rs"] (encode "pub fn new() {}\n")).withFile
    ["src", "a.rs"] (encode "pub fn old() {}\n")
  current := []
  scratch := Path.here
  responses := []
  calls := []
  log := []

theorem a_change_of_three_bytes_is_reported : ∃ after turns,
    Gives (relocate (Path.ofText "tmp") Path.here [Source.move ⟨"a.rs", "src", none⟩] false)
      patchedHost [⟨"a.rs", ⟨0, ["src", "a.rs"]⟩, true⟩] after ∧
    Serves (Path.ofText "tmp") Path.here false (sourcesOf [Source.move ⟨"a.rs", "src", none⟩]) []
      patchedHost turns after ∧ turns.map Turn.placement = [⟨"a.rs", ⟨0, ["src", "a.rs"]⟩, true⟩] := by
  have halike : Checksum.AlikeButFor 4 (encode "pub fn old() {}\n") (encode "pub fn new() {}\n") :=
    ⟨encode "pub fn ", encode "old", encode "new", encode "() {}\n", by decide, by decide,
      by decide, by decide⟩
  obtain ⟨hall, hone⟩ :=
    a_change_within_four_bytes_is_reported halike (Path.ofText "tmp") Path.here false
  obtain ⟨after, hrun⟩ := hone ⟨"a.rs", "src", none⟩ patchedHost ⟨0, ["tmp", "a.rs"]⟩
    ⟨by decide +kernel, by decide +kernel, ⟨by decide +kernel, nofun⟩, by decide +kernel,
      by decide +kernel, eq_ok_of_toOption (by decide +kernel),
      eq_ok_of_toOption (by decide +kernel)⟩
  obtain ⟨turns, hserves, hplacements, _⟩ := hall _ _ _ _ hrun
  exact ⟨after, turns, hrun, hserves, hplacements⟩

end ProtoRefresh.Relocation
