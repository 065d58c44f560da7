-- The steps of a relocation, and of a dry run beside it. While files leave
-- the directory a step finds, compares and reports what it would have
-- found, compared and reported with all files in their places.
import ProtoRefresh.Proofs.Glob.Search
import ProtoRefresh.Proofs.Path.Spelling
import ProtoRefresh.Proofs.Relocation.Carried

namespace ProtoRefresh.Relocation

open FileTree ProtoRefresh.Action

/-! ## Sources -/

/-- The pattern of a source is relative and does not step back, and a new name is a name. -/
structure Source.Plain (source : Source) : Prop where
  relative : (Path.ofText source.pattern).isAbsolute = false
  noBack : ".." ∉ (Path.ofText source.pattern).parts
  isName : ∀ name ∈ source.rename, IsName name

instance (source : Source) : Decidable source.Plain :=
  decidable_of_iff ((Path.ofText source.pattern).isAbsolute = false ∧
    ".." ∉ (Path.ofText source.pattern).parts ∧ ∀ name ∈ source.rename, IsName name)
    ⟨fun h => ⟨h.1, h.2.1, h.2.2⟩, fun h => ⟨h.relative, h.noBack, h.isName⟩⟩

/-- The move of one source. A pattern leaves the names of its files as they are. -/
def Source.move (source : Source) : Move where
  sources := [source.pattern]
  dest := source.dest
  rename := if isSingleName [source.pattern] then source.rename else none
  sources_ne_nil := List.cons_ne_nil _ _
  rename_single := by
    split
    · exact fun _ => ‹_›
    · exact fun h => absurd h (by simp)

/-- A source names a file or matches it. -/
def Source.Finds (source : Source) (host : Host) (directory p : Path) : Prop :=
  if Glob.isPattern source.pattern then
    ∃ query, Glob.Query.ofText source.pattern = .ok query ∧
      p ∈ query.files host.tree host.current directory
  else p = directory.joinText source.pattern ∧ host.tree.isFile host.current p = true

variable {start host after : Host} {directory root p : Path} {targets : List Path}
  {trips : List Trip} {source : Source}

theorem Source.Finds.isFile (h : source.Finds host directory p) :
    host.tree.isFile host.current p = true := by
  unfold Finds at h
  split at h
  · obtain ⟨query, _, hp⟩ := h
    exact Glob.Query.isFile_of_mem_files hp
  · exact h.2

theorem Source.Finds.isBelow (h : source.Finds host directory p) (hplain : source.Plain)
    (hwf : host.tree.WellFormed) : p.IsBelow directory := by
  unfold Finds at h
  split at h
  · obtain ⟨query, hquery, hp⟩ := h
    exact Glob.Query.isBelow_of_mem_files hwf (Glob.Query.noBack_of_ofText hquery hplain.noBack) hp
  · rw [h.1]
    exact ⟨_, hplain.noBack, Path.join_eq_below _ hplain.relative⟩

/-! ## What a source gets -/

theorem gives_search {pattern : String} {found : List Path} :
    Gives (Glob.search directory pattern) host found after ↔
      ∃ query, Glob.Query.ofText pattern = .ok query ∧
        query.files host.tree host.current directory = found ∧ after = host := by
  unfold Glob.search
  rw [gives_bind]
  constructor
  · rintro ⟨query, _, hread, hfound⟩
    obtain ⟨hquery, rfl⟩ := gives_ofExcept.1 hread
    rw [gives_get_bind, gives_pure] at hfound
    exact ⟨query, except_mapError_eq_ok.1 hquery, hfound⟩
  · rintro ⟨query, hquery, hfound⟩
    refine ⟨query, host, gives_ofExcept.2 ⟨except_mapError_eq_ok.2 hquery, rfl⟩, ?_⟩
    rw [gives_get_bind, gives_pure]
    exact hfound

/-- What a source gets: all that its pattern leads to, or the file that it names, and in either
case only what no source has got before. -/
theorem gives_expand {pattern : String} {claimed found : List Path} :
    Gives (expand directory pattern claimed) host found after ↔
      after = host ∧
        if Glob.isPattern pattern then
          ∃ query, Glob.Query.ofText pattern = .ok query ∧
            (query.files host.tree host.current directory).filter
              (fun p => !claimed.contains p) = found ∧ found ≠ []
        else
          found = [directory.joinText pattern] ∧ directory.joinText pattern ∉ claimed ∧
            host.tree.isFile host.current (directory.joinText pattern) = true := by
  unfold expand
  by_cases hpattern : Glob.isPattern pattern = true
  · rw [if_pos hpattern, if_pos hpattern, gives_bind]
    constructor
    · rintro ⟨all, _, hsearch, hrest⟩
      obtain ⟨query, hquery, rfl, rfl⟩ := gives_search.1 hsearch
      obtain ⟨hsome, hfound⟩ := gives_guard.1 hrest
      obtain ⟨rfl, rfl⟩ := gives_pure.1 hfound
      exact ⟨rfl, query, hquery, rfl, fun hnil => hsome (by rw [hnil]; rfl)⟩
    · rintro ⟨rfl, query, hquery, rfl, hsome⟩
      refine ⟨_, _, gives_search.2 ⟨query, hquery, rfl, rfl⟩, gives_guard.2 ⟨?_, ?_⟩⟩
      · rw [List.isEmpty_iff]
        exact hsome
      · exact gives_pure.2 ⟨rfl, rfl⟩
  · rw [if_neg hpattern, if_neg hpattern]
    constructor
    · intro h
      obtain ⟨hfresh, hrest⟩ := gives_guard.1 h
      obtain ⟨_, _, hisFile, hlast⟩ := gives_bind.1 hrest
      obtain ⟨rfl, rfl⟩ := gives_isFile.1 hisFile
      obtain ⟨hfile, hfound⟩ := gives_guard.1 hlast
      obtain ⟨rfl, rfl⟩ := gives_pure.1 hfound
      exact ⟨rfl, rfl, by simpa using hfresh, by simpa using hfile⟩
    · rintro ⟨rfl, rfl, hfresh, hfile⟩
      refine gives_guard.2 ⟨by simpa using hfresh, ?_⟩
      refine gives_bind.2 ⟨_, _, gives_isFile.2 ⟨rfl, rfl⟩, gives_guard.2 ⟨?_, ?_⟩⟩
      · simpa using hfile
      · exact gives_pure.2 ⟨rfl, rfl⟩

theorem ne_nil_of_gives_expand {pattern : String} {claimed found : List Path}
    (h : Gives (expand directory pattern claimed) host found after) : found ≠ [] := by
  obtain ⟨_, hfound⟩ := gives_expand.1 h
  split at hfound
  · obtain ⟨_, _, _, hsome⟩ := hfound
    exact hsome
  · rw [hfound.1]
    exact List.cons_ne_nil _ _

theorem gives_placeSources_nil {dryRun : Bool} {claimed : List Path} {placements : List Placement} :
    Gives (placeSources directory root dryRun [] claimed) host placements after ↔
      placements = [] ∧ after = host := by
  unfold placeSources
  rw [gives_pure]
  exact and_congr_left fun _ => eq_comm

/-- The first source gets its files and places them, then the others go on. -/
theorem gives_placeSources_cons {dryRun : Bool} {rest : List Source} {claimed : List Path}
    {placements : List Placement} :
    Gives (placeSources directory root dryRun (source :: rest) claimed) host placements after ↔
      ∃ found placed middle others, Gives (expand directory source.pattern claimed) host found host ∧
        Gives (found.mapM (place root dryRun source)) host placed middle ∧
        Gives (placeSources directory root dryRun rest (claimed ++ found)) middle others after ∧
        placements = placed ++ others := by
  constructor
  · intro h
    unfold placeSources at h
    obtain ⟨found, expanded, hexpand, h⟩ := gives_bind.1 h
    obtain ⟨placed, middle, hplace, h⟩ := gives_bind.1 h
    obtain ⟨others, _, hrest, hlast⟩ := gives_bind.1 h
    obtain ⟨rfl, rfl⟩ := gives_pure.1 hlast
    obtain rfl := (gives_expand.1 hexpand).1
    exact ⟨found, placed, middle, others, hexpand, hplace, hrest, rfl⟩
  · rintro ⟨found, placed, middle, others, hexpand, hplace, hrest, rfl⟩
    unfold placeSources
    exact gives_bind.2 ⟨found, host, hexpand, gives_bind.2 ⟨placed, middle, hplace,
      gives_bind.2 ⟨others, after, hrest, gives_pure.2 ⟨rfl, rfl⟩⟩⟩⟩

theorem gives_fileChecksum {value : UInt32} : Gives (fileChecksum p) host value after ↔
    isEnded p = false ∧ after = host ∧
      ∃ content, host.tree.read host.current p = .ok content ∧
        Checksum.crc32c content = value := by
  unfold fileChecksum
  rw [gives_bind]
  constructor
  · rintro ⟨content, _, hread, hvalue⟩
    obtain ⟨hended, hcontent, rfl⟩ := gives_readFile.1 hread
    obtain ⟨rfl, rfl⟩ := gives_pure.1 hvalue
    exact ⟨hended, rfl, content, hcontent, rfl⟩
  · rintro ⟨hended, rfl, content, hcontent, rfl⟩
    exact ⟨content, _, gives_readFile.2 ⟨hended, hcontent, rfl⟩, gives_pure.2 ⟨rfl, rfl⟩⟩

theorem gives_differs {target : Path} {value : Bool} :
    Gives (differs target p) host value after ↔ after = host ∧
      if host.tree.isFile host.current target then
        isEnded target = false ∧ isEnded p = false ∧
          ∃ old new, host.tree.read host.current target = .ok old ∧
            host.tree.read host.current p = .ok new ∧
            (Checksum.crc32c old != Checksum.crc32c new) = value
      else value = true := by
  unfold differs
  rw [gives_bind]
  constructor
  · rintro ⟨_, _, hisFile, hrest⟩
    obtain ⟨rfl, rfl⟩ := gives_isFile.1 hisFile
    split at hrest
    · rename_i hfile
      obtain ⟨_, _, htarget, hrest⟩ := gives_bind.1 hrest
      obtain ⟨hended, rfl, old, hold, rfl⟩ := gives_fileChecksum.1 htarget
      obtain ⟨_, _, hsource, hlast⟩ := gives_bind.1 hrest
      obtain ⟨hended', rfl, new, hnew, rfl⟩ := gives_fileChecksum.1 hsource
      obtain ⟨rfl, rfl⟩ := gives_pure.1 hlast
      rw [if_pos hfile]
      exact ⟨rfl, hended, hended', old, new, hold, hnew, rfl⟩
    · rename_i hfile
      obtain ⟨rfl, rfl⟩ := gives_pure.1 hrest
      rw [if_neg hfile]
      exact ⟨rfl, rfl⟩
  · rintro ⟨rfl, hcase⟩
    refine ⟨_, _, gives_isFile.2 ⟨rfl, rfl⟩, ?_⟩
    split at hcase
    · rename_i hfile
      obtain ⟨hended, hended', old, new, hold, hnew, rfl⟩ := hcase
      rw [if_pos hfile]
      exact gives_bind.2 ⟨_, _, gives_fileChecksum.2 ⟨hended, rfl, old, hold, rfl⟩,
        gives_bind.2 ⟨_, _, gives_fileChecksum.2 ⟨hended', rfl, new, hnew, rfl⟩,
          gives_pure.2 ⟨rfl, rfl⟩⟩⟩
    · rename_i hfile
      rw [if_neg hfile, hcase]
      exact gives_pure.2 ⟨rfl, rfl⟩

/-! ## Steps beside a dry run -/

/-- A host with the same files as another one. -/
structure SameFiles (host dry : Host) : Prop where
  tree : dry.tree = host.tree
  current : dry.current = host.current

/-- Where some files of the directory are gone a source gets what it gets where they are there, as
long as they are claimed. -/
theorem gives_expand_thinned {gone : List Location} {claimed found : List Path} (hplain : source.Plain)
    (hthin : Thinned start.current directory gone start.tree host.tree)
    (hcurrent : host.current = start.current) (hwf : start.tree.WellFormed)
    (hgone : ∀ place ∈ gone, ∃ p ∈ claimed, p.IsBelow directory ∧
      p.location start.current = place) :
    Gives (expand directory source.pattern claimed) host found host ↔
      Gives (expand directory source.pattern claimed) start found start := by
  -- below the directory one place has one path, so what is gone is claimed
  have hkept : ∀ p : Path, p.IsBelow directory → p ∉ claimed →
      kept start.current gone p = true := by
    intro p hp hfresh
    refine kept_iff.2 fun hmem => ?_
    obtain ⟨other, ho, hother, heq⟩ := hgone _ hmem
    exact hfresh (hother.eq_of_location hp heq ▸ ho)
  rw [gives_expand, gives_expand, hcurrent]
  refine and_congr (iff_of_true rfl rfl) ?_
  split
  · refine exists_congr fun query => and_congr_right fun hquery => ?_
    have hnoBack := Glob.Query.noBack_of_ofText hquery hplain.noBack
    have hfiles : (query.files host.tree start.current directory).filter
        (fun p => !claimed.contains p) =
        (query.files start.tree start.current directory).filter fun p => !claimed.contains p := by
      cases hdir : start.tree.isDirectory start.current directory with
      | true =>
        rw [Glob.Query.files_thinned hthin hwf hnoBack (hthin.kept_of_isDirectory hdir),
          List.filter_filter]
        refine List.filter_congr fun p hp => ?_
        rw [Bool.and_eq_left_iff_imp]
        intro hfresh
        exact hkept p (Glob.Query.isBelow_of_mem_files hwf hnoBack hp) (by simpa using hfresh)
      | false =>
        have hno := hthin.isDirectory_eq (.refl directory)
        rw [hdir] at hno
        have hnil : ∀ tree : FileTree, tree.isDirectory start.current directory = false →
            query.files tree start.current directory = [] := by
          intro tree hnone
          refine List.eq_nil_iff_forall_not_mem.2 fun p hp => ?_
          rw [Glob.Query.isDirectory_of_mem_files hp] at hnone
          cases hnone
        rw [hnil _ hdir, hnil _ hno]
    rw [hfiles]
  · have hbelow : (directory.joinText source.pattern).IsBelow directory :=
      ⟨_, hplain.noBack, Path.join_eq_below _ hplain.relative⟩
    refine and_congr_right fun _ => and_congr_right fun hfresh => ?_
    rw [hthin.isFile_iff hbelow, hkept _ hbelow hfresh]
    exact and_iff_right rfl

/-- What a source gets on the way it would get from the start, where the files that went count as
claimed. -/
theorem Carried.expand (h : Carried start directory targets trips host.tree)
    (hcurrent : host.current = start.current) (hclear : Clear start directory targets)
    (hwf : Sound start directory) (hplain : source.Plain)
    (hwalks : host.tree.Walks start.current directory → start.tree.Walks start.current directory)
    {found : List Path}
    (hrun : Gives (expand directory source.pattern (trips.map Trip.source)) host found after) :
    after = host ∧ start.tree.Walks start.current directory ∧ found ≠ [] ∧
      (∀ p ∈ found, source.Finds start directory p) ∧
      ∀ dry, SameFiles start dry →
        Gives (Relocation.expand directory source.pattern (trips.map Trip.source)) dry found
          dry := by
  obtain ⟨rfl, hfound⟩ := gives_expand.1 hrun
  rw [hcurrent] at hfound
  have hstart : start.tree.Walks start.current directory := by
    split at hfound
    · obtain ⟨query, _, hfiltered, hsome⟩ := hfound
      obtain ⟨p, hp⟩ := List.exists_mem_of_ne_nil _ hsome
      rw [← hfiltered] at hp
      have hdir := Glob.Query.isDirectory_of_mem_files (List.mem_filter.1 hp).1
      exact hwalks (isDirectory_iff.1 hdir).1
    · obtain ⟨_, _, hfile⟩ := hfound
      have hbelow : (directory.joinText source.pattern).IsBelow directory :=
        ⟨_, hplain.noBack, Path.join_eq_below _ hplain.relative⟩
      obtain ⟨content, hread⟩ := isFile_iff.1 hfile
      exact hwalks (hbelow.walks (read_eq_ok_iff.1 hread).1)
  have hatStart := (gives_expand_thinned hplain (h.thinned hclear hstart) hcurrent hwf.tree
    fun place hplace => by
      obtain ⟨trip, ht, rfl⟩ := List.mem_map.1 hplace
      exact ⟨trip.source, List.mem_map_of_mem ht, h.below trip ht, rfl⟩).1 hrun
  have hgets := (gives_expand.1 hatStart).2
  refine ⟨rfl, hstart, ne_nil_of_gives_expand hrun, ?_, ?_⟩
  · intro p hp
    unfold Source.Finds
    split at hgets
    · rename_i hpattern
      obtain ⟨query, hquery, rfl, _⟩ := hgets
      rw [if_pos hpattern]
      exact ⟨query, hquery, (List.mem_filter.1 hp).1⟩
    · rename_i hpattern
      obtain ⟨rfl, _, hfile⟩ := hgets
      rw [if_neg hpattern, List.mem_singleton.1 hp]
      exact ⟨rfl, hfile⟩
  · intro dry hdry
    rw [gives_expand, hdry.tree, hdry.current]
    exact ⟨rfl, hgets⟩

/-! ## One file -/

/-- A file goes under a proper name into the directory of its move. -/
theorem Source.target_eq (root : Path) (hplain : source.Plain) (hname : IsName p.name) :
    ∃ name, IsName name ∧ source.target root p = (root.joinText source.dest).child name := by
  have hisName : IsName ((source.rename.filter (· != "")).getD p.name) := by
    cases hr : source.rename with
    | none => exact hname
    | some name =>
      have hnew := hplain.isName name hr
      rw [Option.filter_some, if_pos (by simpa using hnew.1)]
      exact hnew
  exact ⟨_, hisName, Path.joinText_of_isName _ hisName⟩

/-- A placement tells the name of a file, and whether its destination did not hold the same content
at the start. -/
structure Placement.Tells (placement : Placement) (start : Host) (p : Path) : Prop where
  source_eq : placement.source = p.name
  unchanged_iff : placement.changed = false ↔
    ∃ old new, start.tree.read start.current placement.destination = .ok old ∧
      start.tree.read start.current p = .ok new ∧ Checksum.crc32c old = Checksum.crc32c new

theorem gives_place_dry {placement : Placement} :
    Gives (place root true source p) host placement after ↔
      ∃ changed, Gives (differs (source.target root p) p) host changed host ∧
        placement = ⟨p.name, source.target root p, changed⟩ ∧
        after = { host with log := host.log ++ [⟨.debug, p.name ++ " -> " ++
          (source.target root p).text ++ (if changed then "" else " (unchanged)")⟩] } := by
  unfold place
  rw [gives_bind]
  constructor
  · rintro ⟨changed, _, hdiffers, hrest⟩
    obtain ⟨rfl, _⟩ := gives_differs.1 hdiffers
    obtain ⟨_, _, hlog, hlast⟩ := gives_bind.1 hrest
    obtain ⟨rfl, rfl⟩ := gives_pure.1 hlast
    exact ⟨changed, hdiffers, rfl, gives_log.1 hlog⟩
  · rintro ⟨changed, hdiffers, rfl, rfl⟩
    exact ⟨changed, host, hdiffers,
      gives_bind.2 ⟨(), _, gives_log.2 rfl, gives_pure.2 ⟨rfl, rfl⟩⟩⟩

/-- A file is compared with its target, then the directory of the target is made, then the file
goes to the target or into a directory there. -/
theorem gives_place_run {placement : Placement}
    (h : Gives (place root false source p) host placement after) :
    ∃ changed made goal,
      Gives (differs (source.target root p) p) host changed host ∧
      placement = ⟨p.name, source.target root p, changed⟩ ∧
      Makes host.current (root.joinText source.dest) host.tree made ∧
      made.rename host.current p goal = .ok after.tree ∧
      (if made.isDirectory host.current (source.target root p) then
        goal = (source.target root p).child p.name
      else goal = source.target root p ∧ isEnded (source.target root p) = false) ∧
      isEnded p = false ∧ after.current = host.current := by
  unfold place at h
  obtain ⟨changed, compared, hdiffers, hrest⟩ := gives_bind.1 h
  obtain ⟨hcompared, _⟩ := gives_differs.1 hdiffers
  subst hcompared
  obtain ⟨_, ensured, hensure, hrest⟩ := gives_bind.1 hrest
  obtain ⟨made, hmakes, rfl⟩ := gives_makeDirectories hensure
  obtain ⟨_, moved, hmove, hrest⟩ := gives_bind.1 hrest
  obtain ⟨hopen, goal, tree, hrename, rfl, hgoal⟩ := gives_moveFile hmove
  obtain ⟨_, _, hlog, hlast⟩ := gives_bind.1 hrest
  obtain ⟨rfl, rfl⟩ := gives_pure.1 hlast
  rw [gives_log.1 hlog]
  exact ⟨changed, made, goal, hdiffers, rfl, hmakes, hrename, hgoal, hopen, rfl⟩

/-- The comparison with a target comes out as it would have at the start. -/
theorem Carried.differs (h : Carried start directory targets trips host.tree)
    (hcurrent : host.current = start.current) (hclear : Clear start directory targets)
    (hwf : start.tree.WellFormed) (hwalks : start.tree.Walks start.current directory)
    (hp : p.IsBelow directory) {target : Path} (ht : target ∈ targets)
    (hfresh : ∀ trip ∈ trips, target.location start.current ≠ trip.target.location start.current)
    {changed : Bool} (hrun : Gives (Relocation.differs target p) host changed after) :
    ∀ dry, SameFiles start dry → Gives (Relocation.differs target p) dry changed dry := by
  have htarget : ∀ content, host.tree.read start.current target = .ok content ↔
      start.tree.read start.current target = .ok content :=
    fun content => h.read_target_iff hclear hwf ht hfresh
  have hisFile :
      host.tree.isFile start.current target = start.tree.isFile start.current target := by
    rw [Bool.eq_iff_iff, isFile_iff, isFile_iff]
    exact exists_congr htarget
  intro dry hdry
  obtain ⟨_, hcase⟩ := gives_differs.1 hrun
  rw [hcurrent, hisFile] at hcase
  rw [gives_differs, hdry.tree, hdry.current]
  refine ⟨rfl, ?_⟩
  split
  · rename_i hfile
    rw [if_pos hfile] at hcase
    obtain ⟨hended, hended', old, new, hold, hnew, hvalue⟩ := hcase
    have hsource := ((h.thinned hclear hwalks).read_eq_ok_iff hp).1 hnew
    exact ⟨hended, hended', old, new, (htarget old).1 hold, hsource.2, hvalue⟩
  · rename_i hfile
    rwa [if_neg hfile] at hcase

/-- The comparison of a file with a target tells whether the target holds the same content. -/
theorem eq_false_iff_of_gives_differs {target : Path} {changed : Bool}
    (h : Gives (differs target p) host changed after) :
    changed = false ↔ ∃ old new, host.tree.read host.current target = .ok old ∧
      host.tree.read host.current p = .ok new ∧ Checksum.crc32c old = Checksum.crc32c new := by
  obtain ⟨_, hcase⟩ := gives_differs.1 h
  split at hcase
  · obtain ⟨_, _, old, new, hold, hnew, rfl⟩ := hcase
    rw [bne_eq_false_iff_eq]
    constructor
    · exact fun heq => ⟨old, new, hold, hnew, heq⟩
    · rintro ⟨other, more, hother, hmore, heq⟩
      cases hold.symm.trans hother
      cases hnew.symm.trans hmore
      exact heq
  · rename_i hfile
    rw [hcase]
    constructor
    · intro hno
      cases hno
    · rintro ⟨old, _, hold, _⟩
      exact absurd (isFile_iff.2 ⟨old, hold⟩) hfile

/-- A file that is placed is carried to its target, and a dry run places it likewise. -/
theorem Carried.place (h : Carried start directory targets trips host.tree)
    (hcurrent : host.current = start.current) (hclear : Clear start directory targets)
    (hwf : Sound start directory) (hwalks : start.tree.Walks start.current directory)
    (hplain : source.Plain) (hfinds : source.Finds start directory p) {placement : Placement}
    (hrun : Gives (Relocation.place root false source p) host placement after)
    (ht : placement.destination ∈ targets)
    (hfresh : ∀ trip ∈ trips,
      placement.destination.location start.current ≠ trip.target.location start.current) :
    placement.destination = source.target root p ∧ placement.Tells start p ∧
      (∃ content, Carried start directory targets
        (trips ++ [⟨p, placement.destination, content⟩]) after.tree) ∧
      isEnded p = false ∧ isEnded placement.destination = false ∧ after.current = start.current ∧
      ∀ dry, SameFiles start dry → ∃ left, SameFiles start left ∧
        Gives (Relocation.place root true source p) dry placement left := by
  have hbelow := hfinds.isBelow hplain hwf.tree
  obtain ⟨was, hwas⟩ := isFile_iff.1 hfinds.isFile
  obtain ⟨name, hname, htarget⟩ := source.target_eq root hplain (hwf.isName hbelow hwas)
  obtain ⟨changed, made, goal, hdiffers, rfl, hmakes, hrename, hgoal, hopen, hafter⟩ :=
    gives_place_run hrun
  have hdry := h.differs hcurrent hclear hwf.tree hwalks hbelow ht hfresh hdiffers
  rw [hcurrent] at hmakes hrename hgoal hafter
  -- no directory comes to be where the target is, so the file goes there
  have hcarried := h.makes hclear hname.2.2.1 (htarget ▸ ht) hmakes
  have hno : made.isDirectory start.current (source.target root p) = false := by
    rw [Bool.eq_false_iff, ne_eq, isDirectory_iff]
    exact fun hdir => hcarried.target_noDirectory hclear ht hfresh hdir.2
  rw [if_neg (by simp [hno])] at hgoal
  rw [hgoal.1] at hrename
  obtain ⟨content, _, hcarried'⟩ := hcarried.moves hclear hwalks hbelow ht hfresh hrename
  refine ⟨rfl, ⟨rfl, ?_⟩, ⟨content, hcarried'⟩, hopen, hgoal.2, hafter, fun dry hsame => ?_⟩
  · exact eq_false_iff_of_gives_differs (hdry start ⟨rfl, rfl⟩)
  · refine ⟨_, ?_, gives_place_dry.2 ⟨changed, hdry dry hsame, rfl, rfl⟩⟩
    exact ⟨hsame.tree, hsame.current⟩

end ProtoRefresh.Relocation
