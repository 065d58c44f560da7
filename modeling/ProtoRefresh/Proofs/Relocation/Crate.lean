-- The relocation of the crate's files. All sources of the crate but the
-- last name a file, and the last one gets what is left. So where no file
-- has the new name of another one, and no target is a directory, the
-- targets are out of each other's way.
import ProtoRefresh.Proofs.Glob.Found
import ProtoRefresh.Proofs.Regeneration.Calls
import ProtoRefresh.Proofs.Relocation.Outcome

namespace ProtoRefresh.Relocation

open FileTree ProtoRefresh.Action

variable {start host after : Host} {directory root : Path} {dryRun : Bool}

/-! ## Routes -/

/-- What a placement tells of a file: its name and where it goes. -/
def Placement.route (placement : Placement) : String × Path :=
  (placement.source, placement.destination)

def Source.route (source : Source) (root p : Path) : String × Path :=
  (p.name, source.target root p)

theorem route_of_gives_place {source : Source} {p : Path} {placement : Placement}
    (h : Gives (place root dryRun source p) host placement after) :
    placement.route = source.route root p := by
  cases dryRun with
  | true =>
    obtain ⟨_, _, rfl, _⟩ := gives_place_dry.1 h
    rfl
  | false =>
    obtain ⟨_, _, _, _, rfl, _⟩ := gives_place_run h
    rfl

theorem routes_of_gives_places {source : Source} {found : List Path} :
    ∀ {host after : Host} {placed : List Placement},
      Gives (found.mapM (place root dryRun source)) host placed after →
      placed.map Placement.route = found.map (source.route root) := by
  induction found with
  | nil =>
    intro host after placed h
    obtain ⟨rfl, _⟩ := gives_mapM_nil.1 h
    rfl
  | cons p rest ih =>
    intro host after placed h
    obtain ⟨placement, _, others, hplace, hrest, rfl⟩ := gives_mapM_cons.1 h
    rw [List.map_cons, List.map_cons, route_of_gives_place hplace, ih hrest]

theorem destinations_of_routes {α : Type} {placed : List Placement} {l : List α}
    {route : α → String × Path} (h : placed.map Placement.route = l.map route) :
    placed.map Placement.destination = l.map fun a => (route a).2 := by
  have hsecond := congrArg (List.map Prod.snd) h
  rwa [List.map_map, List.map_map] at hsecond

/-- The last source places what it finds. -/
theorem gives_placeSources_last {source : Source} {claimed : List Path}
    {placements : List Placement}
    (h : Gives (placeSources directory root dryRun [source] claimed) host placements after) :
    ∃ found, Gives (expand directory source.pattern claimed) host found host ∧
      Gives (found.mapM (place root dryRun source)) host placements after := by
  obtain ⟨found, placed, _, _, hexpand, hplace, hnil, rfl⟩ := gives_placeSources_cons.1 h
  obtain ⟨rfl, rfl⟩ := gives_placeSources_nil.1 hnil
  rw [List.append_nil]
  exact ⟨found, hexpand, hplace⟩

/-! ## Sources that name files -/

/-- The file that a source names. -/
def Source.named (directory : Path) (source : Source) : Path := directory.joinText source.pattern

/-- Sources that name files come first: each of them places its file, then the others go on. -/
theorem gives_placeSources_named {named rest : List Source}
    (hnamed : ∀ source ∈ named, Glob.isPattern source.pattern = false) :
    ∀ {claimed : List Path} {host : Host} {placements : List Placement},
      Gives (placeSources directory root dryRun (named ++ rest) claimed) host placements after →
      ∃ placed middle others,
        Gives (placeSources directory root dryRun named claimed) host placed middle ∧
        placed.map Placement.route =
          named.map (fun source => source.route root (source.named directory)) ∧
        Gives (placeSources directory root dryRun rest
          (claimed ++ named.map (Source.named directory))) middle others after ∧
        placements = placed ++ others := by
  induction named with
  | nil =>
    intro claimed host placements h
    refine ⟨[], host, placements, gives_placeSources_nil.2 ⟨rfl, rfl⟩, rfl, ?_, rfl⟩
    simpa using h
  | cons source named ih =>
    intro claimed host placements h
    rw [List.cons_append] at h
    obtain ⟨found, first, between, _, hexpand, hplace, hrest, rfl⟩ := gives_placeSources_cons.1 h
    have hsource := hnamed source List.mem_cons_self
    obtain rfl : found = [source.named directory] := by
      have hfound := (gives_expand.1 hexpand).2
      rw [if_neg (by simp [hsource])] at hfound
      exact hfound.1
    obtain ⟨placed, middle, others, hnext, hroutes, hothers, rfl⟩ :=
      ih (fun other ho => hnamed other (List.mem_cons_of_mem source ho)) hrest
    refine ⟨first ++ placed, middle, others, ?_, ?_, ?_, (List.append_assoc _ _ _).symm⟩
    · exact gives_placeSources_cons.2 ⟨_, first, between, placed, hexpand, hplace, hnext, rfl⟩
    · rw [List.map_append, routes_of_gives_places hplace, hroutes]
      rfl
    · simpa using hothers

/-- The trips of sources that name files start at those files. -/
theorem Takes.sources_of_named {named : List Source} {claimed : List Path} {trips : List Trip}
    (h : Takes start directory root named claimed trips)
    (hnamed : ∀ source ∈ named, Glob.isPattern source.pattern = false) :
    trips.map Trip.source = named.map (Source.named directory) := by
  induction h with
  | nil => rfl
  | @cons source rest claimed mine others gets places next ih =>
    have hfound := (gives_expand.1 gets).2
    rw [if_neg (by simp [hnamed source List.mem_cons_self])] at hfound
    rw [List.map_append, hfound.1, ih fun other ho => hnamed other (List.mem_cons_of_mem source ho)]
    rfl

/-! ## Targets below a root -/

/-- A path that goes on by names steps back only where the path before it does. -/
theorem stepsBackInside_below {tree : FileTree} {current : Location} {name : String}
    (hwalks : tree.Walks current (root.child name)) {way : List String} (hback : ".." ∉ way) :
    tree.StepsBackInside current (root.below way) := by
  intro before hbefore
  have hroot : before ++ [".."] <+: root.parts := by
    rcases List.prefix_or_prefix_of_prefix hbefore (List.prefix_append root.parts way) with h | h
    · exact h
    · obtain ⟨rest, hrest⟩ := h
      rcases List.eq_nil_or_concat' rest with rfl | ⟨names, last, rfl⟩
      · rw [List.append_nil] at hrest
        exact ⟨[], by rw [hrest, List.append_nil]⟩
      · rw [← List.append_assoc] at hrest
        obtain ⟨_, hlast⟩ := List.append_inj' hrest rfl
        rw [← hrest, List.singleton_inj.1 hlast, List.append_assoc] at hbefore
        have hway := (List.prefix_append_right_inj root.parts).1 hbefore
        exact absurd (hway.subset (by simp)) hback
  have hchild : before ++ [".."] <+: (root.child name).parts :=
    hroot.trans (List.prefix_append _ _)
  refine isDirectory_iff.2 ⟨fun start part hp => hwalks start part ?_, hwalks before ".." hchild⟩
  exact hp.trans ((List.prefix_append _ _).trans hchild)

/-- Targets beside the directory with the generated files are out of each other's way if none of
them leads to a directory or over another one. -/
theorem clear_below {name : String} {ways : List (List String)} (hwf : start.tree.WellFormed)
    (hname : name ≠ "..") (hwalks : start.tree.Walks start.current (root.child name))
    (hback : ∀ way ∈ ways, ".." ∉ way) (hdistinct : ways.Nodup)
    (houtside : ∀ way ∈ ways, ¬ [name] <+: way)
    (hnoAncestor : ∀ way ∈ ways, ∀ other ∈ ways, way <+: other → way = other)
    (hnoDirectory : ∀ way ∈ ways, start.tree.isDirectory start.current (root.below way) = false) :
    Clear start (root.child name) (ways.map root.below) := by
  have hplace : ∀ way ∈ ways, (root.below way).location start.current =
      root.location start.current ++ way := fun way hway => Path.location_below root (hback way hway)
  refine ⟨⟨?_, ?_, ?_, ?_⟩, ?_⟩
  · rw [List.pairwise_map]
    refine hdistinct.imp_of_mem fun {way other} hway hother hne heq => hne ?_
    rw [hplace way hway, hplace other hother] at heq
    exact List.append_cancel_left heq
  · rw [List.forall_mem_map]
    intro way hway hleads
    rw [Path.location_child root hname, hplace way hway] at hleads
    exact houtside way hway ((List.prefix_append_right_inj _).1 hleads)
  · rw [List.forall_mem_map]
    intro way hway hdir
    have hwalks' := hwf.walks (stepsBackInside_below hwalks (hback way hway)) (by rw [hdir]; rfl)
    have hthere := isDirectory_iff.2 ⟨hwalks', hdir⟩
    rw [hnoDirectory way hway] at hthere
    cases hthere
  · simp only [List.forall_mem_map]
    intro way hway other hother hleads
    rw [hplace way hway, hplace other hother] at hleads ⊢
    rw [hnoAncestor way hway other hother ((List.prefix_append_right_inj _).1 hleads)]
  · rw [List.forall_mem_map]
    exact fun way hway => stepsBackInside_below hwalks (hback way hway)

/-! ## The crate's files -/

/-- The sources of the crate that name a file. -/
def crateFiles : List Source :=
  [⟨"descriptor.rs", "src", none⟩, ⟨"plugin.rs", "src", none⟩, ⟨"rustproto.rs", "src", none⟩,
   ⟨"doctest_pb.rs", "src", none⟩,
   ⟨"well_known_types_mod.rs", "src/well_known_types", some "mod.rs"⟩]

/-- The source of the crate that gets all other files. -/
def crateRest : Source := ⟨"*.rs", "src/well_known_types", none⟩

/-- Where the files that are named go. -/
def crateWays : List (List String) :=
  [["src", "descriptor.rs"], ["src", "plugin.rs"], ["src", "rustproto.rs"],
   ["src", "doctest_pb.rs"], ["src", "well_known_types", "mod.rs"]]

theorem crateWays_src : ∀ way ∈ crateWays, way.head? = some "src" := by decide

theorem not_below_of_src {name : String} {way : List String} (hsrc : name ≠ "src")
    (hway : way.head? = some "src") : ¬ [name] <+: way := by
  rintro ⟨rest, rfl⟩
  exact hsrc (Option.some.inj hway)

theorem sourcesOf_crateMoves : sourcesOf crateMoves = crateFiles ++ [crateRest] := rfl

theorem crateFiles_isPattern : ∀ source ∈ crateFiles, Glob.isPattern source.pattern = false := by
  decide +kernel

theorem crateMoves_plain : ∀ source ∈ sourcesOf crateMoves, source.Plain := by
  decide +kernel

/-- A file goes below the root, by the names of its directory and its own or new name. -/
theorem Source.target_eq_below (source : Source) (root p : Path) {names : List String}
    {name : String} (hdest : Path.ofText source.dest = ⟨0, names⟩) (hname : IsName name)
    (hnew : (source.rename.filter (· != "")).getD p.name = name) :
    source.target root p = root.below (names ++ [name]) := by
  unfold target
  rw [hnew, Path.joinText_of_isName _ hname]
  unfold Path.joinText
  rw [hdest, Path.join_eq_below _ rfl]
  exact Path.below_below root names [name]

theorem targets_crateFiles (directory root : Path) :
    crateFiles.map (fun source => source.target root (source.named directory)) =
      crateWays.map root.below := by
  have hsrc : Path.ofText "src" = ⟨0, ["src"]⟩ := by decide +kernel
  have htypes : Path.ofText "src/well_known_types" = ⟨0, ["src", "well_known_types"]⟩ := by
    decide +kernel
  have hkept : ∀ {name : String}, IsName name →
      (⟨name, "src", none⟩ : Source).target root (directory.joinText name) =
        root.below ["src", name] := by
    intro name hname
    rw [Path.joinText_of_isName directory hname]
    exact Source.target_eq_below ⟨name, "src", none⟩ root _ hsrc hname
      (Path.name_child directory name)
  have hmod := Source.target_eq_below
    ⟨"well_known_types_mod.rs", "src/well_known_types", some "mod.rs"⟩ root
    (directory.joinText "well_known_types_mod.rs") htypes (by decide : IsName "mod.rs") rfl
  simp only [crateFiles, crateWays, List.map_cons, List.map_nil, Source.named]
  rw [hkept (by decide), hkept (by decide), hkept (by decide), hkept (by decide), hmod]
  rfl

theorem target_crateRest (root : Path) {p : Path} (hname : IsName p.name) :
    crateRest.target root p = root.below ["src", "well_known_types", p.name] := by
  have htypes : Path.ofText "src/well_known_types" = ⟨0, ["src", "well_known_types"]⟩ := by
    decide +kernel
  exact Source.target_eq_below crateRest root p htypes hname rfl

/-- The sources of the crate find files that lie in the directory itself and are named like
generated files. -/
theorem crateMoves_finds (hwf : start.tree.WellFormed) {source : Source}
    (hsource : source ∈ sourcesOf crateMoves) {p : Path} (hfinds : source.Finds start directory p) :
    p = directory.child p.name ∧ p.name ≠ ".." ∧ ".rs".toList <:+ p.name.toList := by
  have hchild : ∀ {name : String}, name ≠ ".." → ".rs".toList <:+ name.toList →
      p = directory.child name →
      p = directory.child p.name ∧ p.name ≠ ".." ∧ ".rs".toList <:+ p.name.toList := by
    rintro name hback hending rfl
    rw [Path.name_child]
    exact ⟨rfl, hback, hending⟩
  rw [sourcesOf_crateMoves] at hsource
  unfold Source.Finds at hfinds
  rcases List.mem_append.1 hsource with hsource | hsource
  · have hnamed : ∀ source ∈ crateFiles,
        IsName source.pattern ∧ ".rs".toList <:+ source.pattern.toList := by decide +kernel
    obtain ⟨hname, hending⟩ := hnamed source hsource
    rw [if_neg (by simp [crateFiles_isPattern source hsource]),
      Path.joinText_of_isName _ hname] at hfinds
    exact hchild hname.2.2.1 hending hfinds.1
  · obtain rfl := List.mem_singleton.1 hsource
    rw [if_pos (by decide)] at hfinds
    obtain ⟨query, hread, hp⟩ := hfinds
    have hquery : Glob.Query.ofText crateRest.pattern = .ok ⟨[.names ("*" ++ ".rs")], false⟩ := rfl
    obtain rfl := Except.ok.inj (hquery.symm.trans hread)
    obtain ⟨name, hback, hp, hmatches, _⟩ := (Glob.mem_files_names hwf).1 hp
    exact hchild hback ((Glob.nameMatches_star (by simp)).1 hmatches) hp

/-- Where the other files of the crate go. -/
def otherWay (p : Path) : List String := ["src", "well_known_types", p.name]

theorem sound_child (hwf : start.tree.WellFormed) (root : Path) (name : String) :
    Sound start (root.child name) :=
  ⟨hwf, fun heq => absurd (congrArg Path.parts heq) (by simp [Path.child, Path.here])⟩

/-- The files that are named can only be placed from a directory that is there. -/
theorem walks_of_crateFiles {dryRun : Bool} {claimed : List Path} {placed : List Placement}
    (h : Gives (placeSources directory root dryRun crateFiles claimed) start placed after) :
    start.tree.Walks start.current directory := by
  unfold crateFiles placeSources at h
  obtain ⟨_, _, hexpand, _⟩ := gives_bind.1 h
  obtain ⟨_, _, hfile⟩ := (gives_expand.1 hexpand).2
  obtain ⟨_, hread⟩ := isFile_iff.1 hfile
  rw [Path.joinText_of_isName _ (by decide : IsName "descriptor.rs")] at hread
  exact ((Path.IsBelow.refl _).child (by decide)).walks (read_eq_ok_iff.1 hread).1

theorem noDirectory_of_destinations {placements : List Placement} {ways : List (List String)}
    (hdestinations : placements.map Placement.destination = ways.map root.below)
    (hnoDirectory : ∀ placement ∈ placements,
      start.tree.isDirectory start.current placement.destination = false) :
    ∀ way ∈ ways, start.tree.isDirectory start.current (root.below way) = false := by
  have hall : ∀ p ∈ placements.map Placement.destination,
      start.tree.isDirectory start.current p = false := List.forall_mem_map.2 hnoDirectory
  rw [hdestinations] at hall
  exact List.forall_mem_map.1 hall

theorem clear_crateWays {name : String} (hwf : start.tree.WellFormed) (hname : IsName name)
    (hsrc : name ≠ "src") (hwalks : start.tree.Walks start.current (root.child name))
    (hnoDirectory : ∀ way ∈ crateWays,
      start.tree.isDirectory start.current (root.below way) = false) :
    Clear start (root.child name) (crateWays.map root.below) := by
  have houtside : ∀ way ∈ crateWays, ¬ [name] <+: way := fun way hway =>
    not_below_of_src hsrc (crateWays_src way hway)
  exact clear_below hwf hname.2.2.1 hwalks (by decide) (by decide) houtside (by decide) hnoDirectory

/-- The files of the crate go where they are named to go, and the other ones, which were there from
the start, go among the well known types. -/
theorem destinations_crateMoves {name : String} {placements : List Placement}
    (hwf : start.tree.WellFormed) (hname : IsName name) (hsrc : name ≠ "src")
    (hrun : Gives (relocate (root.child name) root crateMoves false) start placements after)
    (hnoDirectory : ∀ placement ∈ placements,
      start.tree.isDirectory start.current placement.destination = false) :
    start.tree.Walks start.current (root.child name) ∧
      ∃ others : List Path, others.Nodup ∧
        (∀ p ∈ others, crateRest.Finds start (root.child name) p) ∧
        placements.map Placement.destination =
          (crateWays ++ others.map otherWay).map root.below := by
  unfold relocate at hrun
  rw [sourcesOf_crateMoves] at hrun
  obtain ⟨placed, middle, rest, hfiles, hroutes, hrest, rfl⟩ :=
    gives_placeSources_named crateFiles_isPattern hrun
  have hplaced := (destinations_of_routes hroutes).trans (targets_crateFiles _ root)
  have hwalks := walks_of_crateFiles hfiles
  have hsound := sound_child hwf root name
  have hplain := crateMoves_plain
  rw [sourcesOf_crateMoves] at hplain
  -- the named files go first, and their targets are known
  have hclear : Clear start (root.child name) (placed.map Placement.destination) := by
    have hno := noDirectory_of_destinations hplaced fun placement hp =>
      hnoDirectory placement (List.mem_append_left _ hp)
    rw [hplaced]
    exact clear_crateWays hwf hname hsrc hwalks hno
  obtain ⟨trips, _, hcarried, htakes, _⟩ := Carried.placeSources hclear hsound crateFiles
    (.refl start _ _) rfl (fun source hs => hplain source (List.mem_append_left _ hs)) id
    (fun _ hp => List.mem_map_of_mem hp) hclear.distinct hfiles
  have hcurrent : middle.current = start.current := by
    rw [quiet_placeSources _ _ _ _ _ (ends_ok_iff.2 hfiles)]
  -- what is left is found as it would have been at the start
  rw [List.nil_append, ← htakes.sources_of_named crateFiles_isPattern] at hrest
  obtain ⟨found, hexpand, hplace⟩ := gives_placeSources_last hrest
  obtain ⟨_, _, _, hfinds, _⟩ := hcarried.expand hcurrent hclear hsound
    (hplain crateRest (by simp)) (fun _ => hwalks) hexpand
  refine ⟨hwalks, found, ?_, hfinds, ?_⟩
  · obtain ⟨query, _, rfl, _⟩ := (gives_expand.1 hexpand).2
    exact (Glob.Query.files_nodup query _).filter _
  · rw [List.map_append, hplaced, destinations_of_routes (routes_of_gives_places hplace),
      List.map_append, List.map_map]
    congr 1
    refine List.map_congr_left fun p hp => ?_
    obtain ⟨_, hread⟩ := isFile_iff.1 (hfinds p hp).isFile
    exact target_crateRest root
      (hsound.isName ((hfinds p hp).isBelow (hplain crateRest (by simp)) hwf) hread)

/-- Ways among the well known types have three names, all others have two. -/
def HasDepth (way : List String) : Prop :=
  2 ≤ way.length ∧ way.length = if way[1]? = some "well_known_types" then 3 else 2

instance (way : List String) : Decidable (HasDepth way) := inferInstanceAs (Decidable (_ ∧ _))

theorem HasDepth.eq_of_leads {way other : List String} (hway : HasDepth way)
    (hother : HasDepth other) (h : way <+: other) : way = other := by
  refine h.eq_of_length ?_
  have hsecond : way[1]? = other[1]? := by
    rw [List.getElem?_eq_getElem hway.1]
    exact (List.prefix_iff_getElem?.1 h 1 hway.1).symm
  rw [hway.2, hother.2, hsecond]

/-- Where no generated file has the new name of the renamed one, and no target is a directory, the
targets of the crate's files are out of each other's way. -/
theorem clear_crateMoves {name : String} {placements : List Placement} (hwf : start.tree.WellFormed)
    (hname : IsName name) (hsrc : name ≠ "src")
    (hrun : Gives (relocate (root.child name) root crateMoves false) start placements after)
    (hnoDirectory : ∀ placement ∈ placements,
      start.tree.isDirectory start.current placement.destination = false)
    (hmod : start.tree.isFile start.current ((root.child name).child "mod.rs") = false) :
    Clear start (root.child name) (placements.map Placement.destination) := by
  obtain ⟨hwalks, others, hdistinct, hothers, hdestinations⟩ :=
    destinations_crateMoves hwf hname hsrc hrun hnoDirectory
  -- each of the other files has a name of its own, and none is named like the renamed file
  have hnames : ∀ p ∈ others, p = (root.child name).child p.name ∧ p.name ≠ ".." ∧
      p.name ≠ "mod.rs" := by
    intro p hp
    obtain ⟨hchild, hback, _⟩ := crateMoves_finds hwf (by simp [sourcesOf_crateMoves]) (hothers p hp)
    refine ⟨hchild, hback, fun hnew => ?_⟩
    rw [← hnew, ← hchild, (hothers p hp).isFile] at hmod
    cases hmod
  rw [hdestinations]
  have hways : ∀ {P : List String → Prop}, (∀ way ∈ crateWays, P way) →
      (∀ p ∈ others, P (otherWay p)) → ∀ way ∈ crateWays ++ others.map otherWay, P way := by
    intro P hcrate hrest way hway
    rcases List.mem_append.1 hway with hway | hway
    · exact hcrate way hway
    · obtain ⟨p, hp, rfl⟩ := List.mem_map.1 hway
      exact hrest p hp
  have hdepth := hways (P := HasDepth) (by decide) fun p _ => ⟨Nat.le_succ 2, rfl⟩
  refine clear_below hwf hname.2.2.1 hwalks (hways (by decide) fun p hp => ?_) ?_
    (fun way hway => not_below_of_src hsrc (hways crateWays_src (fun _ _ => rfl) way hway))
    (fun way hway other hother => (hdepth way hway).eq_of_leads (hdepth other hother))
    (noDirectory_of_destinations hdestinations hnoDirectory)
  · simp [otherWay, (hnames p hp).2.1.symm]
  · refine List.nodup_append.2 ⟨by decide, hdistinct.map_on fun p hp q hq heq => ?_, ?_⟩
    · rw [(hnames p hp).1, (hnames q hq).1, (List.cons.inj (List.cons.inj (List.cons.inj heq).2).2).1]
    · intro way hway other hother heq
      obtain ⟨p, hp, rfl⟩ := List.mem_map.1 hother
      have hnew := (hnames p hp).2.2
      simp [heq, crateWays, otherWay, hnew] at hway

/-- Each placement of the crate's files brings a file of the directory to its destination. -/
theorem arrivals_crateMoves {name : String} {placements : List Placement}
    (hwf : start.tree.WellFormed) (hname : IsName name) (hsrc : name ≠ "src")
    (hrun : Gives (relocate (root.child name) root crateMoves false) start placements after)
    (hnoDirectory : ∀ placement ∈ placements,
      start.tree.isDirectory start.current placement.destination = false)
    (hmod : start.tree.isFile start.current ((root.child name).child "mod.rs") = false) :
    ∀ placement ∈ placements, placement.source ≠ ".." ∧ ".rs".toList <:+ placement.source.toList ∧
      ∃ content,
        start.tree.read start.current ((root.child name).child placement.source) = .ok content ∧
        after.tree.read after.current placement.destination = .ok content := by
  have hcurrent : after.current = start.current := by
    rw [quiet_placeSources _ _ _ _ _ (ends_ok_iff.2 hrun)]
  have hclear := clear_crateMoves hwf hname hsrc hrun hnoDirectory hmod
  obtain ⟨trips, hplaced, hcarried, _⟩ :=
    gives_relocate (sound_child hwf root name) crateMoves_plain hclear hrun
  intro placement hp
  obtain ⟨p, ⟨source, hsource, hfinds, _⟩, htells, ⟨content, hread, harrived⟩, _⟩ :=
    exists_related (hcarried.arrives hplaced).flip placement hp
  obtain ⟨hchild, hback, hending⟩ := crateMoves_finds hwf hsource hfinds
  rw [htells.source_eq, hcurrent]
  exact ⟨hback, hending, content, by rwa [← hchild], harrived⟩

end ProtoRefresh.Relocation
