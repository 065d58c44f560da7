-- What a relocation does as a whole. Where the targets stay out of each
-- other's way, each placed file goes to its destination as it was, and
-- nothing else changes but that directories come above the destinations.
-- A dry run gives the same placements.
import Mathlib.Data.List.Forall2
import ProtoRefresh.Proofs.Relocation.Steps

namespace ProtoRefresh.Relocation

open FileTree ProtoRefresh.Action

variable {start host after : Host} {directory root : Path} {targets : List Path}
  {trips : List Trip} {source : Source}

/-! ## All steps -/

/-- A placement belongs to a trip that a source made. -/
structure Placed (start : Host) (directory root : Path) (source : Source) (trip : Trip)
    (placement : Placement) : Prop where
  finds : source.Finds start directory trip.source
  target_eq : trip.target = source.target root trip.source
  destination_eq : placement.destination = trip.target
  tells : placement.Tells start trip.source
  source_open : isEnded trip.source = false
  target_open : isEnded trip.target = false

/-- The trips that sources make in order: those of each source are the ones of the files that it gets
when the files of the sources before it are claimed. -/
inductive Takes (start : Host) (directory root : Path) : List Source → List Path → List Trip → Prop
  | nil {claimed : List Path} : Takes start directory root [] claimed []
  | cons {source : Source} {rest : List Source} {claimed : List Path} {mine others : List Trip}
      (gets : Gives (expand directory source.pattern claimed) start (mine.map Trip.source) start)
      (places : ∀ trip ∈ mine, ∃ placement, Placed start directory root source trip placement)
      (next : Takes start directory root rest (claimed ++ mine.map Trip.source) others) :
      Takes start directory root (source :: rest) claimed (mine ++ others)

theorem exists_related {α β : Type} {R : α → β → Prop} {l : List α} {m : List β}
    (h : List.Forall₂ R l m) : ∀ a ∈ l, ∃ b, R a b := by
  induction h with
  | nil => simp
  | cons hfirst _ ih => exact List.forall_mem_cons.2 ⟨⟨_, hfirst⟩, ih⟩

theorem map_target_eq {sources : List Source} {placements : List Placement}
    (h : List.Forall₂ (fun trip placement => ∃ source ∈ sources,
      Placed start directory root source trip placement) trips placements) :
    trips.map Trip.target = placements.map Placement.destination := by
  induction h with
  | nil => rfl
  | cons hplaced _ ih =>
    obtain ⟨_, _, hplaced⟩ := hplaced
    rw [List.map_cons, List.map_cons, ih, hplaced.destination_eq]

/-- The files of one source are carried one after the other. -/
theorem Carried.placeFiles (hclear : Clear start directory targets) (hwf : Sound start directory)
    (hwalks : start.tree.Walks start.current directory) (hplain : source.Plain)
    (found : List Path) :
    ∀ {trips : List Trip} {host after : Host} {placed : List Placement},
      Carried start directory targets trips host.tree → host.current = start.current →
      (∀ p ∈ found, source.Finds start directory p) →
      (∀ placement ∈ placed, placement.destination ∈ targets) →
      (trips.map Trip.target ++ placed.map Placement.destination).Pairwise
        (fun p q => p.location start.current ≠ q.location start.current) →
      Gives (found.mapM (Relocation.place root false source)) host placed after →
      ∃ more, more.map Trip.source = found ∧
        List.Forall₂ (fun trip placement => ∃ other ∈ [source],
          Placed start directory root other trip placement) more placed ∧
        Carried start directory targets (trips ++ more) after.tree ∧
        after.current = start.current ∧
        ∀ dry, SameFiles start dry → ∃ left, SameFiles start left ∧
          Gives (found.mapM (Relocation.place root true source)) dry placed left := by
  induction found with
  | nil =>
    intro trips host after placed h hcurrent _ _ _ hrun
    obtain ⟨rfl, rfl⟩ := gives_mapM_nil.1 hrun
    exact ⟨[], rfl, .nil, by rwa [List.append_nil], hcurrent,
      fun dry hsame => ⟨dry, hsame, gives_mapM_nil.2 ⟨rfl, rfl⟩⟩⟩
  | cons p rest ih =>
    intro trips host after placed h hcurrent hfinds htargets hdistinct hrun
    obtain ⟨placement, middle, others, hplace, hrest, rfl⟩ := gives_mapM_cons.1 hrun
    have hfresh : ∀ trip ∈ trips,
        placement.destination.location start.current ≠ trip.target.location start.current := by
      intro trip ht heq
      exact (List.pairwise_append.1 hdistinct).2.2 _ (List.mem_map_of_mem ht) _
        (List.mem_cons_self) heq.symm
    obtain ⟨hdestination, htells, ⟨content, hcarried⟩, hsource, htarget, hmiddle, hdry⟩ :=
      h.place hcurrent hclear hwf hwalks hplain (hfinds p List.mem_cons_self) hplace
        (htargets placement List.mem_cons_self) hfresh
    obtain ⟨more, hsources, hplaced, hcarried', hafter, hdryRest⟩ :=
      ih hcarried hmiddle (fun q hq => hfinds q (List.mem_cons_of_mem p hq))
        (fun q hq => htargets q (List.mem_cons_of_mem placement hq)) (by simpa using hdistinct)
        hrest
    refine ⟨⟨p, placement.destination, content⟩ :: more, by rw [List.map_cons, hsources],
      .cons ⟨source, List.mem_cons_self, hfinds p List.mem_cons_self, hdestination, rfl, htells,
        hsource, htarget⟩ hplaced, by simpa using hcarried', hafter, fun dry hsame => ?_⟩
    obtain ⟨between, hbetween, hfirst⟩ := hdry dry hsame
    obtain ⟨left, hleft, hothers⟩ := hdryRest between hbetween
    exact ⟨left, hleft, gives_mapM_cons.2 ⟨placement, between, others, hfirst, hothers, rfl⟩⟩

/-- The files of all sources are carried one after the other. -/
theorem Carried.placeSources (hclear : Clear start directory targets) (hwf : Sound start directory)
    (sources : List Source) :
    ∀ {trips : List Trip} {host after : Host} {placements : List Placement},
      Carried start directory targets trips host.tree → host.current = start.current →
      (∀ source ∈ sources, source.Plain) →
      (host.tree.Walks start.current directory → start.tree.Walks start.current directory) →
      (∀ placement ∈ placements, placement.destination ∈ targets) →
      (trips.map Trip.target ++ placements.map Placement.destination).Pairwise
        (fun p q => p.location start.current ≠ q.location start.current) →
      Gives (Relocation.placeSources directory root false sources (trips.map Trip.source)) host
        placements after →
      ∃ more,
        List.Forall₂ (fun trip placement => ∃ source ∈ sources,
          Placed start directory root source trip placement) more placements ∧
        Carried start directory targets (trips ++ more) after.tree ∧
        Takes start directory root sources (trips.map Trip.source) more ∧
        ∀ dry, SameFiles start dry → ∃ left,
          Gives (Relocation.placeSources directory root true sources (trips.map Trip.source)) dry
            placements left := by
  induction sources with
  | nil =>
    intro trips host after placements h _ _ _ _ _ hrun
    obtain ⟨rfl, rfl⟩ := gives_placeSources_nil.1 hrun
    exact ⟨[], .nil, by rwa [List.append_nil], .nil,
      fun dry _ => ⟨dry, gives_placeSources_nil.2 ⟨rfl, rfl⟩⟩⟩
  | cons source rest ih =>
    intro trips host after placements h hcurrent hplain hwalks htargets hdistinct hrun
    obtain ⟨found, placed, middle, others, hexpand, hplace, hrest, rfl⟩ :=
      gives_placeSources_cons.1 hrun
    have hsource := hplain source List.mem_cons_self
    obtain ⟨_, hstart, _, hfinds, hdryExpand⟩ :=
      h.expand hcurrent hclear hwf hsource hwalks hexpand
    rw [List.map_append, ← List.append_assoc] at hdistinct
    obtain ⟨more, rfl, hplaced, hcarried, hmiddle, hdryPlace⟩ :=
      Carried.placeFiles hclear hwf hstart hsource found h hcurrent hfinds
        (fun p hp => htargets p (List.mem_append_left _ hp))
        (hdistinct.sublist (List.sublist_append_left _ _)) hplace
    rw [← map_target_eq hplaced, ← List.map_append] at hdistinct
    rw [← List.map_append] at hrest
    obtain ⟨last, hplacedRest, hcarried', htakes, hdryRest⟩ := ih hcarried hmiddle
      (fun s hs => hplain s (List.mem_cons_of_mem source hs)) (fun _ => hstart)
      (fun p hp => htargets p (List.mem_append_right _ hp)) hdistinct hrest
    have hmore : ∀ trip ∈ more, ∃ placement, Placed start directory root source trip placement := by
      intro trip ht
      obtain ⟨placement, other, hother, h⟩ := exists_related hplaced trip ht
      rw [List.mem_singleton.1 hother] at h
      exact ⟨placement, h⟩
    rw [List.map_append] at htakes
    refine ⟨more ++ last, ?_, by rwa [← List.append_assoc],
      .cons (hdryExpand start ⟨rfl, rfl⟩) hmore htakes, fun dry hsame => ?_⟩
    · refine List.rel_append (hplaced.imp ?_) (hplacedRest.imp ?_)
      · rintro trip placement ⟨other, hother, h⟩
        rw [List.mem_singleton.1 hother] at h
        exact ⟨source, List.mem_cons_self, h⟩
      · rintro trip placement ⟨other, hother, h⟩
        exact ⟨other, List.mem_cons_of_mem source hother, h⟩
    · obtain ⟨between, hbetween, hfirst⟩ := hdryPlace dry hsame
      obtain ⟨left, hothers⟩ := hdryRest between hbetween
      rw [List.map_append] at hothers
      exact ⟨left, gives_placeSources_cons.2
        ⟨_, placed, between, others, hdryExpand dry hsame, hfirst, hothers, rfl⟩⟩

/-! ## The whole relocation -/

/-- A file that a source finds went where its placement tells, as it was. -/
structure Arrives (host after : Host) (directory root : Path) (moves : List Move) (p : Path)
    (placement : Placement) : Prop where
  finds : ∃ source ∈ sourcesOf moves, source.Finds host directory p ∧
    placement.destination = source.target root p
  tells : placement.Tells host p
  content : ∃ content, host.tree.read host.current p = .ok content ∧
    after.tree.read host.current placement.destination = .ok content
  gone : after.tree.get? (p.location host.current) = none

/-- The placements are all that happened to the files, and new directories are above their
destinations. -/
structure Relocated (host after : Host) (directory root : Path) (moves : List Move)
    (files : List Path) (placements : List Placement) : Prop where
  arrive : List.Forall₂ (Arrives host after directory root moves) files placements
  others : ∀ place, (∀ p ∈ files, place ≠ p.location host.current) →
    (∀ placement ∈ placements, place ≠ placement.destination.location host.current) →
    ∀ content, after.tree.get? place = some (.file content) ↔
      host.tree.get? place = some (.file content)
  directories : ∀ place, host.tree.get? place = some .directory →
    after.tree.get? place = some .directory
  newDirectories : ∀ place, after.tree.get? place = some .directory →
    host.tree.get? place = some .directory ∨
      ∃ placement ∈ placements, place <+: placement.destination.location host.current ∧
        place ≠ placement.destination.location host.current

theorem Carried.arrives {moves : List Move} {placements : List Placement}
    (h : Carried host directory targets trips after.tree)
    (hplaced : List.Forall₂ (fun trip placement => ∃ source ∈ sourcesOf moves,
      Placed host directory root source trip placement) trips placements) :
    List.Forall₂ (Arrives host after directory root moves) (trips.map Trip.source)
      placements := by
  have hall : ∀ trip ∈ trips, ∀ placement, (∃ source ∈ sourcesOf moves,
      Placed host directory root source trip placement) →
      Arrives host after directory root moves trip.source placement := by
    rintro trip ht placement ⟨source, hs, hplaced⟩
    exact ⟨⟨source, hs, hplaced.finds, hplaced.destination_eq.trans hplaced.target_eq⟩,
      hplaced.tells, ⟨trip.content, h.was trip ht, hplaced.destination_eq ▸ h.arrived trip ht⟩,
      h.gone trip ht⟩
  rw [List.forall₂_map_left_iff]
  clear h
  induction hplaced with
  | nil => exact .nil
  | cons hfirst _ ih =>
    exact .cons (hall _ List.mem_cons_self _ hfirst)
      (ih fun trip ht => hall trip (List.mem_cons_of_mem _ ht))

theorem gives_relocate {moves : List Move} {placements : List Placement}
    (hsound : Sound host directory) (hmoves : ∀ source ∈ sourcesOf moves, source.Plain)
    (hclear : Clear host directory (placements.map Placement.destination))
    (hrun : Gives (relocate directory root moves false) host placements after) :
    ∃ trips, List.Forall₂ (fun trip placement => ∃ source ∈ sourcesOf moves,
        Placed host directory root source trip placement) trips placements ∧
      Carried host directory (placements.map Placement.destination) trips after.tree ∧
      Takes host directory root (sourcesOf moves) [] trips ∧
      ∀ dry, SameFiles host dry →
        ∃ left, Gives (relocate directory root moves true) dry placements left :=
  Carried.placeSources hclear hsound (sourcesOf moves) (.refl host directory _) rfl hmoves id
    (fun _ hp => List.mem_map_of_mem hp) hclear.distinct hrun

/-- A relocation that ends well takes each file that it places to its destination as it was, and
nothing else changes but that directories come above the destinations. -/
theorem only_placed_files_move {host after : Host} {directory root : Path} {moves : List Move}
    {placements : List Placement} (hhost : host.WellFormed)
    (hmoves : ∀ source ∈ sourcesOf moves, source.Plain)
    (hclear : Clear host directory (placements.map Placement.destination))
    (hrun : Gives (relocate directory root moves false) host placements after) :
    ∃ files, Relocated host after directory root moves files placements := by
  obtain ⟨trips, hplaced, hcarried, _⟩ :=
    gives_relocate ⟨hhost.tree, fun _ => hhost.current⟩ hmoves hclear hrun
  refine ⟨trips.map Trip.source, hcarried.arrives hplaced, ?_, hcarried.directory_stays hclear, ?_⟩
  · intro place hfiles hplacements content
    have hplace : ∀ trip ∈ trips, place ≠ trip.source.location host.current ∧
        place ≠ trip.target.location host.current := by
      intro trip ht
      refine ⟨hfiles _ (List.mem_map_of_mem ht), ?_⟩
      have htarget : trip.target ∈ placements.map Placement.destination :=
        hcarried.target_mem trip ht
      obtain ⟨placement, hp, heq⟩ := List.mem_map.1 htarget
      rw [← heq]
      exact hplacements placement hp
    rcases hcarried.elsewhere place hplace with hsame | ⟨hnone, hdir, _⟩
    · rw [hsame]
    · rw [hnone, hdir]
      simp
  · intro place hdir
    rcases hcarried.directory_or_above hdir with hbefore | ⟨target, ht, habove⟩
    · exact Or.inl hbefore
    · obtain ⟨placement, hp, rfl⟩ := List.mem_map.1 ht
      exact Or.inr ⟨placement, hp, habove⟩

/-- Two files are generated, and one of them is a library already. -/
def mixedHost : Host where
  tree :=
    (((FileTree.empty.withFile ["tmp", "a.rs"] [1]).withFile ["tmp", "b.rs"] [2]).withFile
      ["lib", "mod.rs"] [1]).withDirectories ["src"]
  current := []
  scratch := Path.here
  responses := []
  calls := []
  log := []

/-- One file is named and gets a new name, and a pattern leads to the other one. -/
def mixedMoves : List Move :=
  [{ sources := ["a.rs"], dest := "src/../lib", rename := "mod.rs" },
   { sources := ["?.rs"], dest := "out/new" }]

def mixedPlacements : List Placement :=
  [⟨"a.rs", ⟨0, ["src", "..", "lib", "mod.rs"]⟩, false⟩,
   ⟨"b.rs", ⟨0, ["out", "new", "b.rs"]⟩, true⟩]

theorem mixed_files_move :
    mixedHost.WellFormed ∧ (∀ source ∈ sourcesOf mixedMoves, source.Plain) ∧
      Clear mixedHost (Path.ofText "tmp") (mixedPlacements.map Placement.destination) ∧
      ∃ after, Gives (relocate (Path.ofText "tmp") Path.here mixedMoves false) mixedHost
        mixedPlacements after ∧
      ∃ files, Relocated mixedHost after (Path.ofText "tmp") Path.here mixedMoves files
        mixedPlacements := by
  have hhost : mixedHost.WellFormed := ⟨by decide +kernel, by simp [mixedHost]⟩
  have hmoves : ∀ source ∈ sourcesOf mixedMoves, source.Plain := by decide +kernel
  have hclear :
      Clear mixedHost (Path.ofText "tmp") (mixedPlacements.map Placement.destination) := by
    decide +kernel
  have hrun : Gives (relocate (Path.ofText "tmp") Path.here mixedMoves false) mixedHost
      mixedPlacements _ := gives_of_toOption (by decide +kernel)
  exact ⟨hhost, hmoves, hclear, _, hrun, only_placed_files_move hhost hmoves hclear hrun⟩

/-! ## Ways over missing directories -/

/-- Two files are generated, and nothing else is there. -/
def bareHost : Host where
  tree := (FileTree.empty.withFile ["tmp", "a.rs"] [1]).withFile ["tmp", "b.rs"] [2]
  current := []
  scratch := Path.here
  responses := []
  calls := []
  log := []

/-- The way to the first target leads over a missing directory, where the second target is. -/
def crossingMoves : List Move :=
  [{ sources := ["a.rs"], dest := "x/../y" }, { sources := ["b.rs"], dest := ".", rename := "x" }]

def crossingPlacements : List Placement :=
  [⟨"a.rs", ⟨0, ["x", "..", "y", "a.rs"]⟩, true⟩, ⟨"b.rs", ⟨0, ["x"]⟩, true⟩]

/-- It is not enough that the targets are apart: a directory that is made on the way to one of them
takes the place of another one. -/
theorem a_directory_comes_in_the_way :
    bareHost.WellFormed ∧ (∀ source ∈ sourcesOf crossingMoves, source.Plain) ∧
      Apart bareHost (Path.ofText "tmp") (crossingPlacements.map Placement.destination) ∧
      ∃ after, Gives (relocate (Path.ofText "tmp") Path.here crossingMoves false) bareHost
        crossingPlacements after ∧
      ¬ ∃ files, Relocated bareHost after (Path.ofText "tmp") Path.here crossingMoves files
        crossingPlacements := by
  refine ⟨⟨by decide +kernel, by simp [bareHost]⟩, by decide +kernel, by decide +kernel, _,
    gives_of_toOption (by decide +kernel), ?_⟩
  rintro ⟨files, hfiles, _⟩
  have hlast : ∃ p, Arrives bareHost
      (((relocate (Path.ofText "tmp") Path.here crossingMoves false).run).run bareHost).2
      (Path.ofText "tmp") Path.here crossingMoves p ⟨"b.rs", ⟨0, ["x"]⟩, true⟩ := by
    cases hfiles with
    | cons _ hrest =>
      cases hrest with
      | cons hsecond _ => exact ⟨_, hsecond⟩
  obtain ⟨p, harrives⟩ := hlast
  obtain ⟨content, _, hread⟩ := harrives.content
  have hno : (((relocate (Path.ofText "tmp") Path.here crossingMoves false).run).run
      bareHost).2.tree.isFile [] ⟨0, ["x"]⟩ = false := by decide +kernel
  exact Bool.false_ne_true (hno.symm.trans (isFile_iff.2 ⟨content, hread⟩))

end ProtoRefresh.Relocation
