-- Each file of the crate is placed once. A file that is placed leaves all
-- other files where they are, so the source that takes what is left finds
-- all files that were there from the start. Two files have one destination
-- only where one of them has the new name of the renamed file.
import ProtoRefresh.Proofs.Relocation.Crate

namespace ProtoRefresh.Relocation

open FileTree ProtoRefresh.Action

variable {host middle after : Host} {directory root p q : Path} {dryRun : Bool} {source : Source}
  {gone more : List Path} {placements : List Placement}

/-! ## What placing leaves behind -/

/-- Some files may be gone, all others are still files. -/
structure Leaves (gone : List Path) (host after : Host) : Prop where
  current : after.current = host.current
  wellFormed : host.tree.WellFormed → after.tree.WellFormed
  stays : ∀ q, host.tree.isFile host.current q = true →
    (∀ p ∈ gone, q.location host.current ≠ p.location host.current) →
    after.tree.isFile host.current q = true

theorem Leaves.refl (host : Host) : Leaves [] host host := ⟨rfl, id, fun _ hq _ => hq⟩

theorem Leaves.trans (h : Leaves gone host middle) (hmore : Leaves more middle after) :
    Leaves (gone ++ more) host after := by
  refine ⟨hmore.current.trans h.current, hmore.wellFormed ∘ h.wellFormed, fun q hq hne => ?_⟩
  have hstill := h.stays q hq fun p hp => hne p (List.mem_append_left more hp)
  rw [← h.current] at hstill ⊢
  refine hmore.stays q hstill fun p hp => ?_
  rw [h.current]
  exact hne p (List.mem_append_right gone hp)

/-- A file that is placed is gone at most. -/
theorem leaves_place (hcurrent : host.current.Proper) (hroot : root.Proper) (hname : IsName p.name)
    {placement : Placement} (h : Gives (place root dryRun source p) host placement after) :
    Leaves [p] host after := by
  cases dryRun with
  | true =>
    obtain ⟨_, _, _, rfl⟩ := gives_place_dry.1 h
    exact ⟨rfl, id, fun _ hq _ => hq⟩
  | false =>
    obtain ⟨_, made, goal, _, _, hmakes, hrename, hgoal, _, hafter⟩ := gives_place_run h
    have htarget : (source.target root p).Proper := (hroot.joinText _).joinText _
    have hproper : goal.Proper := by
      split at hgoal
      · rw [hgoal]
        refine ⟨htarget.slashes, fun part hpart => ?_⟩
        rcases List.mem_append.1 hpart with hpart | hpart
        · exact htarget.part part hpart
        · rw [List.mem_singleton.1 hpart]
          exact Or.inr hname
      · rw [hgoal.1]
        exact htarget
    refine ⟨hafter, fun hwf => ?_, fun q hq hne => ?_⟩
    · exact (hmakes.wellFormed hwf hcurrent (hroot.joinText _)).rename
        (hproper.location hcurrent) hrename
    · obtain ⟨content, hread⟩ := isFile_iff.1 hq
      obtain ⟨hwalks, hfile⟩ := read_eq_ok_iff.1 hread
      have hmade : made.get? (q.location host.current) = some (.file content) := by
        rcases hmakes.get? (q.location host.current) with hsame | ⟨hnone, _⟩
        · rw [hsame, hfile]
        · rw [hfile] at hnone
          cases hnone
      have hway := (hwalks.mono hmakes.directory_stays).mono (directory_stays_of_rename hrename)
      obtain ⟨new, _, _, _, hget⟩ := get?_of_rename hrename
      by_cases hover : q.location host.current = goal.location host.current
      · exact isFile_iff.2 ⟨new, read_eq_ok_iff.2 ⟨hway, by rw [hget, if_pos hover]⟩⟩
      · refine isFile_iff.2 ⟨content, read_eq_ok_iff.2 ⟨hway, ?_⟩⟩
        rw [hget, if_neg hover, if_neg (hne p List.mem_cons_self), hmade]

theorem leaves_places (hcurrent : host.current.Proper) (hroot : root.Proper) {found : List Path}
    (hnames : ∀ p ∈ found, IsName p.name)
    (h : Gives (found.mapM (place root dryRun source)) host placements after) :
    Leaves found host after := by
  induction found generalizing host placements with
  | nil =>
    obtain ⟨_, rfl⟩ := gives_mapM_nil.1 h
    exact .refl after
  | cons p rest ih =>
    obtain ⟨_, middle, _, hfirst, hrest, _⟩ := gives_mapM_cons.1 h
    have hleaves := leaves_place hcurrent hroot (hnames p List.mem_cons_self) hfirst
    have hothers := ih (hleaves.current ▸ hcurrent)
      (fun q hq => hnames q (List.mem_cons_of_mem p hq)) hrest
    exact hleaves.trans hothers

/-- Sources that name files leave all but those files. -/
theorem leaves_placeSources_named {named : List Source} {claimed : List Path}
    (hnamed : ∀ source ∈ named, Glob.isPattern source.pattern = false ∧ IsName source.pattern)
    (hcurrent : host.current.Proper) (hroot : root.Proper)
    (h : Gives (placeSources directory root dryRun named claimed) host placements after) :
    Leaves (named.map (Source.named directory)) host after := by
  induction named generalizing host claimed placements with
  | nil =>
    obtain ⟨_, rfl⟩ := gives_placeSources_nil.1 h
    exact .refl after
  | cons source rest ih =>
    obtain ⟨found, _, middle, _, hexpand, hplace, hrest, _⟩ := gives_placeSources_cons.1 h
    obtain ⟨hpattern, hname⟩ := hnamed source List.mem_cons_self
    obtain ⟨_, hfound⟩ := gives_expand.1 hexpand
    rw [if_neg (by simp [hpattern])] at hfound
    obtain ⟨rfl, _⟩ := hfound
    have hleaves : Leaves [source.named directory] host middle := by
      refine leaves_places hcurrent hroot (fun p hp => ?_) hplace
      rw [List.mem_singleton.1 hp, Source.named, Path.joinText_of_isName _ hname, Path.name_child]
      exact hname
    have hothers := ih (fun other ho => hnamed other (List.mem_cons_of_mem source ho))
      (hleaves.current ▸ hcurrent) hrest
    exact hleaves.trans hothers

/-! ## The names and ways of the crate's files -/

/-- The names of the files that have a source of their own. -/
def crateNames : List String := crateFiles.map Source.pattern

theorem crateFiles_named : ∀ source ∈ crateFiles,
    Glob.isPattern source.pattern = false ∧ IsName source.pattern := by
  decide +kernel

theorem named_crateFiles (directory : Path) :
    crateFiles.map (Source.named directory) = crateNames.map directory.child := by
  rw [crateNames, List.map_map]
  exact List.map_congr_left fun source hs =>
    Path.joinText_of_isName directory (crateFiles_named source hs).2

/-- The files with a source of their own go the crate's ways under their names. -/
theorem routes_crateFiles (directory root : Path) :
    crateFiles.map (fun source => source.route root (source.named directory)) =
      (crateNames.zip crateWays).map (Prod.map id root.below) := by
  have hnames : crateFiles.map (fun source => (source.named directory).name) = crateNames := by
    have hnamed := congrArg (List.map Path.name) (named_crateFiles directory)
    rw [List.map_map, List.map_map] at hnamed
    refine hnamed.trans ((List.map_congr_left fun name _ => ?_).trans (List.map_id crateNames))
    exact Path.name_child directory name
  rw [← List.zip_map_right, ← targets_crateFiles directory root, ← hnames, List.zip_map']
  rfl

/-- Only a file with the new name of the renamed one goes the way of another file. -/
theorem ways_apart {found : List Path} (hnames : (found.map Path.name).Nodup) :
    (crateNames.zip crateWays ++ found.map fun p => (p.name, otherWay p)).Pairwise fun r s =>
      r.2 = s.2 → r.1 = "well_known_types_mod.rs" ∧ s.1 = "mod.rs" := by
  refine List.pairwise_append.2 ⟨by decide, ?_, ?_⟩
  · rw [List.pairwise_map]
    refine (List.pairwise_map.1 hnames).imp fun {p q} hne heq => ?_
    have hname : p.name = q.name := by simpa [otherWay] using heq
    exact absurd hname hne
  · intro r hr s hs heq
    obtain ⟨p, _, rfl⟩ := List.mem_map.1 hs
    -- only the renamed file goes among the well known types
    have hrenamed : ∀ r ∈ crateNames.zip crateWays, r.2[1]? = some "well_known_types" →
        r = ("well_known_types_mod.rs", ["src", "well_known_types", "mod.rs"]) := by
      decide
    obtain rfl := hrenamed r hr (by rw [heq]; rfl)
    have hname : "mod.rs" = p.name := by simpa [otherWay] using heq
    exact ⟨rfl, hname.symm⟩

/-! ## All files of the crate -/

/-- The last source finds the files that have no source of their own. -/
theorem mem_of_expand_crateRest (hwf : host.tree.WellFormed) {found : List Path}
    (h : Gives (expand directory crateRest.pattern (crateNames.map directory.child)) host found
      after) :
    p ∈ found ↔ ∃ name, ".rs".toList <:+ name.toList ∧ p = directory.child name ∧
      host.tree.isFile host.current p = true ∧ name ∉ crateNames := by
  obtain ⟨_, hfound⟩ := gives_expand.1 h
  rw [if_pos (by decide)] at hfound
  obtain ⟨query, hread, rfl, _⟩ := hfound
  have hquery : Glob.Query.ofText crateRest.pattern = .ok ⟨[.names ("*" ++ ".rs")], false⟩ := rfl
  obtain rfl := Except.ok.inj (hquery.symm.trans hread)
  have hinj : ∀ name, directory.child name ∈ crateNames.map directory.child ↔
      name ∈ crateNames := by
    intro name
    rw [List.mem_map]
    constructor
    · rintro ⟨other, ho, heq⟩
      have hname := congrArg Path.name heq
      rw [Path.name_child, Path.name_child] at hname
      rwa [← hname]
    · exact fun hname => ⟨name, hname, rfl⟩
  rw [List.mem_filter, Glob.mem_files_names hwf]
  constructor
  · rintro ⟨⟨name, _, rfl, hmatches, hfile⟩, hfresh⟩
    have hending := (Glob.nameMatches_star (by simp)).1 hmatches
    exact ⟨name, hending, rfl, hfile, fun hname => by simp [hinj, hname] at hfresh⟩
  · rintro ⟨name, hending, rfl, hfile, hfresh⟩
    refine ⟨⟨name, ?_, rfl, (Glob.nameMatches_star (by simp)).2 hending, hfile⟩, ?_⟩
    · rintro rfl
      exact absurd hending (by decide)
    · simp [hinj, hfresh]

/-- Names and ways of all files of the crate: some go their own way, the other ones go among the
well known types, and those are all files that were there from the start and some that came. -/
theorem routes_crateMoves (hwf : host.tree.WellFormed) (hcurrent : host.current.Proper)
    (hroot : root.Proper)
    (hrun : Gives (relocate directory root crateMoves dryRun) host placements after) :
    ∃ found : List Path,
      placements.map Placement.route =
        (crateNames.zip crateWays ++ found.map fun p => (p.name, otherWay p)).map
          (Prod.map id root.below) ∧
      (found.map Path.name).Nodup ∧ (∀ p ∈ found, p.name ≠ ".." ∧ p.name ∉ crateNames) ∧
      ∀ name, ".rs".toList <:+ name.toList →
        host.tree.isFile host.current (directory.child name) = true → name ∉ crateNames →
        name ∈ found.map Path.name := by
  unfold relocate at hrun
  rw [sourcesOf_crateMoves] at hrun
  obtain ⟨placed, middle, others, hfiles, hroutes, hrest, rfl⟩ :=
    gives_placeSources_named crateFiles_isPattern hrun
  have hleaves := leaves_placeSources_named crateFiles_named hcurrent hroot hfiles
  rw [List.nil_append, named_crateFiles] at hrest
  rw [named_crateFiles] at hleaves
  obtain ⟨found, hexpand, hplace⟩ := gives_placeSources_last hrest
  have hwf' := hleaves.wellFormed hwf
  have hfound := fun p => mem_of_expand_crateRest (p := p) hwf' hexpand
  have hends : ∀ {name : String}, ".rs".toList <:+ name.toList → name ≠ ".." := by
    rintro name hending rfl
    exact absurd hending (by decide)
  refine ⟨found, ?_, ?_, fun p hp => ?_, fun name hending hfile hfresh => ?_⟩
  · rw [List.map_append, List.map_append, hroutes, routes_crateFiles,
      routes_of_gives_places hplace, List.map_map]
    congr 1
    refine List.map_congr_left fun p hp => ?_
    obtain ⟨name, _, rfl, hfile, _⟩ := (hfound p).1 hp
    obtain ⟨_, hread⟩ := isFile_iff.1 hfile
    have hname := hwf'.isName_of_read hread fun heq => by
      exact absurd (congrArg Path.parts heq) (by simp [Path.child, Path.here])
    unfold Source.route
    rw [target_crateRest root hname]
    rfl
  · have hnodup : found.Nodup := by
      obtain ⟨_, query, _, rfl, _⟩ := gives_expand.1 hexpand
      exact (Glob.Query.files_nodup query _).filter _
    refine hnodup.map_on fun p hp q hq heq => ?_
    obtain ⟨name, _, rfl, _⟩ := (hfound p).1 hp
    obtain ⟨other, _, rfl, _⟩ := (hfound q).1 hq
    rw [Path.name_child, Path.name_child] at heq
    rw [heq]
  · obtain ⟨name, hending, rfl, _, hfresh⟩ := (hfound p).1 hp
    rw [Path.name_child]
    exact ⟨hends hending, hfresh⟩
  · refine List.mem_map.2 ⟨directory.child name, (hfound _).2 ⟨name, hending, rfl, ?_, hfresh⟩,
      Path.name_child directory name⟩
    rw [hleaves.current]
    refine hleaves.stays _ hfile fun p hp heq => ?_
    obtain ⟨other, hother, rfl⟩ := List.mem_map.1 hp
    have hback : ∀ other ∈ crateNames, other ≠ ".." := by decide
    rw [Path.location_child _ (hends hending), Path.location_child _ (hback other hother)] at heq
    rw [List.singleton_inj.1 (List.append_cancel_left heq)] at hfresh
    exact hfresh hother

/-- Each file of the crate that is there when the relocation starts is placed once, and of two
files that go to one place the first one is the renamed file and the second one has its new
name. -/
theorem each_file_of_the_crate_is_placed_once (hwf : host.tree.WellFormed)
    (hcurrent : host.current.Proper) (hroot : root.Proper)
    (hrun : Gives (relocate directory root crateMoves dryRun) host placements after) :
    (∀ name, ".rs".toList <:+ name.toList →
      host.tree.isFile host.current (directory.child name) = true →
      (placements.map Placement.source).count name = 1) ∧
    placements.Pairwise fun first second =>
      first.destination.location host.current = second.destination.location host.current →
      first.source = "well_known_types_mod.rs" ∧ second.source = "mod.rs" := by
  obtain ⟨found, hroutes, hnodup, hfound, hall⟩ := routes_crateMoves hwf hcurrent hroot hrun
  constructor
  · intro name hending hfile
    have hsources : placements.map Placement.source = crateNames ++ found.map Path.name := by
      have hfirst := congrArg (List.map Prod.fst) hroutes
      rw [List.map_map, List.map_map, List.map_append, List.map_map] at hfirst
      exact hfirst
    rw [hsources]
    refine List.count_eq_one_of_mem (List.nodup_append.2 ⟨by decide, hnodup, ?_⟩) ?_
    · rintro name hname _ hother rfl
      obtain ⟨p, hp, rfl⟩ := List.mem_map.1 hother
      exact (hfound p hp).2 hname
    · by_cases hname : name ∈ crateNames
      · exact List.mem_append_left _ hname
      · exact List.mem_append_right _ (hall name hending hfile hname)
  · have hback : ∀ r ∈ crateNames.zip crateWays ++ found.map fun p => (p.name, otherWay p),
        ".." ∉ r.2 := by
      intro r hr
      rcases List.mem_append.1 hr with hr | hr
      · have hways : ∀ r ∈ crateNames.zip crateWays, ".." ∉ r.2 := by decide
        exact hways r hr
      · obtain ⟨p, hp, rfl⟩ := List.mem_map.1 hr
        simp [otherWay, (hfound p hp).1.symm]
    have hpairs : (placements.map Placement.route).Pairwise fun r s =>
        r.2.location host.current = s.2.location host.current →
        r.1 = "well_known_types_mod.rs" ∧ s.1 = "mod.rs" := by
      rw [hroutes, List.pairwise_map]
      refine (ways_apart hnodup).imp_of_mem fun {r s} hr hs hapart heq => hapart ?_
      have hplaces : (root.below r.2).location host.current =
          (root.below s.2).location host.current := heq
      rw [Path.location_below root (hback r hr), Path.location_below root (hback s hs)] at hplaces
      exact List.append_cancel_left hplaces
    exact List.pairwise_map.1 hpairs

/-- A directory with the named files of the crate, and others. -/
def crateHost (directory : Location) (others : List String) : Host where
  tree := (crateNames ++ others).foldl
    (fun tree name => tree.withFile (directory ++ [name]) (encode name)) FileTree.empty
  current := []
  scratch := Path.here
  responses := []
  calls := []
  log := []

/-- Among the well known types the renamed file is found once more under its new name. -/
def foundAgain : List Placement :=
  (crateNames.zip crateWays).map (fun r => ⟨r.1, ⟨0, r.2⟩, true⟩) ++
    [⟨"mod.rs", ⟨0, ["src", "well_known_types", "mod.rs"]⟩, false⟩]

theorem the_renamed_file_is_placed_again :
    (crateHost ["src", "well_known_types"] []).tree.WellFormed ∧ Location.Proper [] ∧
      Path.here.Proper ∧ ∃ after,
        Gives (relocate (Path.ofText "src/well_known_types") Path.here crateMoves false)
          (crateHost ["src", "well_known_types"] []) foundAgain after ∧
        (foundAgain.map Placement.source).count "well_known_types_mod.rs" = 1 ∧
        foundAgain.Pairwise fun first second =>
          first.destination.location [] = second.destination.location [] →
          first.source = "well_known_types_mod.rs" ∧ second.source = "mod.rs" := by
  have hwf : (crateHost ["src", "well_known_types"] []).tree.WellFormed := by decide +kernel
  have hcurrent : Location.Proper [] := by decide
  have hrun : Gives (relocate (Path.ofText "src/well_known_types") Path.here crateMoves false)
      (crateHost ["src", "well_known_types"] []) foundAgain _ :=
    gives_of_toOption (by decide +kernel)
  obtain ⟨honce, hapart⟩ :=
    each_file_of_the_crate_is_placed_once hwf hcurrent Path.here_proper hrun
  exact ⟨hwf, hcurrent, Path.here_proper, _, hrun,
    honce "well_known_types_mod.rs" (by decide) (by decide +kernel), hapart⟩

/-- A file with the new name of the renamed one goes over it. -/
theorem two_files_of_the_crate_go_to_one_place : ∃ placements after,
    Gives (relocate (Path.ofText "tmp") Path.here crateMoves false)
      (crateHost ["tmp"] ["mod.rs"]) placements after ∧
    ¬ (placements.map Placement.destination).Nodup ∧
    after.tree.read [] ⟨0, ["src", "well_known_types", "mod.rs"]⟩ = .ok (encode "mod.rs") := by
  refine ⟨(crateNames.zip crateWays ++ [("mod.rs", ["src", "well_known_types", "mod.rs"])]).map
    (fun r => ⟨r.1, ⟨0, r.2⟩, true⟩), _, gives_of_toOption (by decide +kernel), ?_, ?_⟩
  · decide +kernel
  · exact eq_ok_of_toOption (by decide +kernel)

end ProtoRefresh.Relocation
