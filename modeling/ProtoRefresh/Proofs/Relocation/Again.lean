-- A relocation of the same files once more. The targets hold the files
-- already, so every placement is unchanged, and all that happens is that
-- the files leave the directory again.
import ProtoRefresh.Proofs.Relocation.Outcome

namespace ProtoRefresh

open FileTree ProtoRefresh.Action

/-! ## Directories that are there -/

/-- A directory that is there need not be made. -/
theorem Action.gives_ensureDirectory_of_isDirectory {host : Host} {p : Path}
    (hopen : isEnded p = false) (hdir : host.tree.isDirectory host.current p = true) :
    Gives (ensureDirectory p) host () host := by
  obtain ⟨hwalks, hget⟩ := isDirectory_iff.1 hdir
  have hmake : host.tree.makeDirectory host.current p = .error .alreadyExists := by
    unfold makeDirectory
    rw [locate_eq_ok_iff.2 ⟨hwalks, rfl⟩]
    simp only [bind, Except.bind, hget]
    rfl
  have hthere : Gives (if (true && host.tree.isDirectory host.current p) = true then Pure.pure ()
      else Action.fail (.file .alreadyExists p.text)) host () host := by
    rw [hdir]
    exact gives_pure.2 ⟨rfl, rfl⟩
  unfold ensureDirectory
  cases p.parts.length with
  | zero | succ _ =>
    unfold makeDirectories
    refine gives_guard.2 ⟨by simp [hopen], gives_get_bind.2 ?_⟩
    rw [hmake]
    exact hthere

namespace Relocation

variable {start host after : Host} {directory root : Path} {trips : List Trip} {source : Source}

/-! ## Files at their targets -/

/-- The content of a trip is at its target when the directory is filled anew. -/
structure Settled (start after : Host) (directory : Path) (trip : Trip) : Prop where
  below : trip.source.IsBelow directory
  was : start.tree.read start.current trip.source = .ok trip.content
  arrived : after.tree.read start.current trip.target = .ok trip.content
  outside : ¬ directory.location start.current <+: trip.target.location start.current
  source_open : isEnded trip.source = false
  target_open : isEnded trip.target = false

/-- In the directory a tree is as at the start, but for some files that are gone, and elsewhere it
is as after the relocation. -/
structure Refilled (start after : Host) (directory : Path) (gone : List Location)
    (host : Host) : Prop where
  current : host.current = start.current
  inside : Thinned start.current directory gone start.tree host.tree
  outside : ∀ place, ¬ directory.location start.current <+: place →
    host.tree.get? place = after.tree.get? place
  noNew : ∀ place, directory.location start.current <+: place →
    after.tree.get? place = some .directory → start.tree.get? place = some .directory

/-- The placement of a file that is at its target already. -/
def Trip.unchanged (trip : Trip) : Placement := ⟨trip.source.name, trip.target, false⟩

variable {gone : List Location} {trip : Trip}

theorem Refilled.read_source (h : Refilled start after directory gone host)
    (hsettled : Settled start after directory trip)
    (hthere : trip.source.location start.current ∉ gone) :
    host.tree.read start.current trip.source = .ok trip.content :=
  (h.inside.read_eq_ok_iff hsettled.below).2 ⟨kept_iff.2 hthere, hsettled.was⟩

/-- All directories are there that were there after the relocation. -/
theorem Refilled.directory_stays (h : Refilled start after directory gone host) (place : Location)
    (hdir : after.tree.get? place = some .directory) :
    host.tree.get? place = some .directory := by
  by_cases hp : directory.location start.current <+: place
  · exact (h.inside.directory_iff hp).2 (h.noNew place hp hdir)
  · rw [h.outside place hp, hdir]

theorem Refilled.read_target (h : Refilled start after directory gone host)
    (hsettled : Settled start after directory trip) :
    host.tree.read start.current trip.target = .ok trip.content := by
  obtain ⟨hwalks, hget⟩ := read_eq_ok_iff.1 hsettled.arrived
  refine read_eq_ok_iff.2 ⟨hwalks.mono h.directory_stays, ?_⟩
  rw [h.outside _ hsettled.outside, hget]

/-- A file moves to its target again, and nothing changes but that it is gone. -/
theorem Refilled.rename (h : Refilled start after directory gone host)
    (hsettled : Settled start after directory trip)
    (hthere : trip.source.location start.current ∉ gone) :
    ∃ tree, host.tree.rename start.current trip.source trip.target = .ok tree ∧
      Refilled start after directory (gone ++ [trip.source.location start.current])
        { host with tree := tree } := by
  have hsource := h.read_source hsettled hthere
  have htarget := h.read_target hsettled
  obtain ⟨hwalks, hget⟩ := read_eq_ok_iff.1 htarget
  have hplace : host.tree.placeForFile start.current trip.target =
      .ok (trip.target.location start.current) :=
    placeForFile_eq_ok_iff.2 ⟨hwalks, rfl, Or.inl ⟨_, hget⟩⟩
  have hrename := rename_eq_ok_iff.2 ⟨trip.content, hsource, hplace, rfl⟩
  obtain ⟨content, hread, _, _, hafter⟩ := get?_of_rename hrename
  cases hsource.symm.trans hread
  refine ⟨_, hrename, h.current, ?_, fun place hp => ?_, h.noNew⟩
  · refine ⟨h.inside.walks_whole, h.inside.walks_tree.mono (directory_stays_of_rename hrename),
      fun place hp => ?_, ?_⟩
    · have hne : place ≠ trip.target.location start.current := by
        rintro rfl
        exact hsettled.outside hp
      simp only [hafter, if_neg hne, h.inside.get?_eq place hp, List.mem_append,
        List.mem_singleton]
      by_cases hsame : place = trip.source.location start.current
      · simp [hsame]
      · simp [hsame]
    · refine List.forall_mem_append.2 ⟨h.inside.noDirectory, List.forall_mem_singleton.2 ?_⟩
      rw [(read_eq_ok_iff.1 hsettled.was).2]
      simp
  · have hne : place ≠ trip.source.location start.current := by
      rintro rfl
      exact hp hsettled.below.leads_down
    rw [hafter, if_neg hne]
    split
    · rename_i heq
      rw [heq, (read_eq_ok_iff.1 hsettled.arrived).2]
    · exact h.outside place hp

/-! ## Placing once more -/

/-- Where files are no more when a relocation has placed them once more; a dry run leaves them. -/
def goneAgain (dryRun : Bool) (current : Location) (trips : List Trip) : List Location :=
  if dryRun then [] else Carried.leftPlaces current trips

/-- A file is placed when it is compared, its directory is made and it moves. -/
theorem gives_place_of_steps {p : Path} {changed : Bool} {made moved : Host}
    (hdiffers : Gives (Relocation.differs (source.target root p) p) host changed host)
    (hensure : Gives (ensureDirectory (root.joinText source.dest)) host () made)
    (hmove : Gives (moveFile p (source.target root p)) made () moved) :
    ∃ log, Gives (Relocation.place root false source p) host ⟨p.name, source.target root p, changed⟩
      { moved with log := log } := by
  unfold Relocation.place
  exact ⟨_, gives_bind.2 ⟨changed, host, hdiffers, gives_bind.2 ⟨(), made, hensure,
    gives_bind.2 ⟨(), moved, hmove, gives_bind.2 ⟨(), _, gives_log.2 rfl,
      gives_pure.2 ⟨rfl, rfl⟩⟩⟩⟩⟩⟩

/-- A file that would go over another one can be placed: it is compared with the other one, and
goes over it unless the run is dry. -/
theorem gives_place_of_reads (dryRun : Bool) {p : Path} {old new : Content} (hplain : source.Plain)
    (hname : IsName p.name) (hopen : isEnded p = false)
    (hended : isEnded (source.target root p) = false)
    (hold : host.tree.read host.current (source.target root p) = .ok old)
    (hnew : host.tree.read host.current p = .ok new) :
    ∃ tree log, Gives (Relocation.place root dryRun source p) host
        ⟨p.name, source.target root p, Checksum.crc32c old != Checksum.crc32c new⟩
        { host with tree := tree, log := log } ∧
      if dryRun then tree = host.tree
      else host.tree.rename host.current p (source.target root p) = .ok tree := by
  have hdiffers : Gives (Relocation.differs (source.target root p) p) host
      (Checksum.crc32c old != Checksum.crc32c new) host := by
    rw [gives_differs, if_pos (isFile_iff.2 ⟨old, hold⟩)]
    exact ⟨rfl, hended, hopen, old, new, hold, hnew, rfl⟩
  cases dryRun with
  | true => exact ⟨_, _, gives_place_dry.2 ⟨_, hdiffers, rfl, rfl⟩, rfl⟩
  | false =>
    obtain ⟨hwalks, hget⟩ := read_eq_ok_iff.1 hold
    obtain ⟨moved, hrename⟩ : ∃ moved,
        host.tree.rename host.current p (source.target root p) = .ok moved :=
      ⟨_, rename_eq_ok_iff.2 ⟨new, hnew,
        placeForFile_eq_ok_iff.2 ⟨hwalks, rfl, Or.inl ⟨old, hget⟩⟩, rfl⟩⟩
    obtain ⟨name, hisName, hchild⟩ := source.target_eq root hplain hname
    have hdest : host.tree.isDirectory host.current (root.joinText source.dest) = true := by
      rw [hchild] at hwalks
      exact isDirectory_iff.2 (walks_snoc.1 hwalks)
    have hdestOpen : isEnded (root.joinText source.dest) = false := by
      rw [hchild] at hended
      unfold isEnded Path.child at hended
      rw [List.any_append, Bool.or_eq_false_iff] at hended
      exact hended.1
    have hnoDirectory : host.tree.isDirectory host.current (source.target root p) = false := by
      rw [Bool.eq_false_iff, ne_eq, isDirectory_iff, hget]
      rintro ⟨_, hdir⟩
      cases hdir
    have hmove : Gives (moveFile p (source.target root p)) host () { host with tree := moved } := by
      unfold moveFile
      refine gives_bind.2 ⟨false, host, gives_isDirectory.2 ⟨hnoDirectory, rfl⟩, ?_⟩
      simp only [if_neg Bool.false_ne_true]
      refine gives_guard.2 ⟨by simp [hended], ?_⟩
      exact gives_bind.2 ⟨new, host, gives_readFile.2 ⟨hopen, hnew, rfl⟩,
        gives_change.2 ⟨moved, hrename, rfl⟩⟩
    obtain ⟨log, hplace⟩ := gives_place_of_steps hdiffers
      (gives_ensureDirectory_of_isDirectory hdestOpen hdest) hmove
    exact ⟨_, log, hplace, hrename⟩

theorem Refilled.place (dryRun : Bool) (h : Refilled start after directory gone host)
    (hsettled : Settled start after directory trip) (hplain : source.Plain)
    (hname : IsName trip.source.name) (htarget : trip.target = source.target root trip.source)
    (hthere : trip.source.location start.current ∉ gone) :
    ∃ left, Gives (Relocation.place root dryRun source trip.source) host trip.unchanged left ∧
      Refilled start after directory (gone ++ goneAgain dryRun start.current [trip]) left := by
  have hold := h.read_target hsettled
  have hnew := h.read_source hsettled hthere
  have hended := hsettled.target_open
  obtain ⟨moved, hrename, hmoved⟩ := h.rename hsettled hthere
  rw [← h.current, htarget] at hold hrename
  rw [← h.current] at hnew
  rw [htarget] at hended
  obtain ⟨tree, log, hplace, htree⟩ :=
    gives_place_of_reads dryRun hplain hname hsettled.source_open hended hold hnew
  rw [bne_self_eq_false, ← htarget] at hplace
  refine ⟨_, hplace, ?_⟩
  cases dryRun with
  | true =>
    cases htree
    rw [goneAgain, if_pos rfl, List.append_nil]
    exact ⟨h.current, h.inside, h.outside, h.noNew⟩
  | false =>
    cases hrename.symm.trans htree
    rw [goneAgain, if_neg Bool.false_ne_true]
    exact ⟨hmoved.current, hmoved.inside, hmoved.outside, hmoved.noNew⟩

theorem goneAgain_append (dryRun : Bool) (current : Location) (trips more : List Trip) :
    goneAgain dryRun current (trips ++ more) =
      goneAgain dryRun current trips ++ goneAgain dryRun current more := by
  cases dryRun with
  | true => rfl
  | false => exact List.map_append

theorem mem_goneAgain {dryRun : Bool} {current place : Location}
    (h : place ∈ goneAgain dryRun current trips) :
    ∃ trip ∈ trips, trip.source.location current = place := by
  unfold goneAgain at h
  split at h
  · cases h
  · exact List.mem_map.1 h

/-- The files of one source are placed once more, one after the other. -/
theorem Refilled.placeFiles (dryRun : Bool) (hsound : Sound start directory) (hplain : source.Plain)
    (mine : List Trip) :
    ∀ {gone : List Location} {host : Host}, Refilled start after directory gone host →
      (∀ trip ∈ mine, Settled start after directory trip) →
      (∀ trip ∈ mine, trip.target = source.target root trip.source) →
      (∀ trip ∈ mine, trip.source.location start.current ∉ gone) →
      mine.Pairwise (fun trip other =>
        trip.source.location start.current ≠ other.source.location start.current) →
      ∃ left, Gives ((mine.map Trip.source).mapM (Relocation.place root dryRun source)) host
          (mine.map Trip.unchanged) left ∧
        Refilled start after directory (gone ++ goneAgain dryRun start.current mine) left := by
  induction mine with
  | nil =>
    intro gone host h _ _ _ _
    refine ⟨host, gives_pure.2 ⟨rfl, rfl⟩, ?_⟩
    have hnil : goneAgain dryRun start.current [] = [] := ite_self _
    rwa [hnil, List.append_nil]
  | cons trip rest ih =>
    intro gone host h hsettled htargets hthere hdistinct
    obtain ⟨hfirst, hothers⟩ := List.pairwise_cons.1 hdistinct
    have htrip := hsettled trip List.mem_cons_self
    obtain ⟨middle, hplace, hmiddle⟩ := h.place dryRun htrip hplain
      (hsound.isName htrip.below htrip.was) (htargets trip List.mem_cons_self)
      (hthere trip List.mem_cons_self)
    have hthere' : ∀ other ∈ rest, other.source.location start.current ∉
        gone ++ goneAgain dryRun start.current [trip] := by
      intro other ho hmem
      rcases List.mem_append.1 hmem with hmem | hmem
      · exact hthere other (List.mem_cons_of_mem trip ho) hmem
      · obtain ⟨_, ht, heq⟩ := mem_goneAgain hmem
        rw [List.mem_singleton.1 ht] at heq
        exact hfirst other ho heq
    obtain ⟨left, hrest, hleft⟩ := ih hmiddle
      (fun other ho => hsettled other (List.mem_cons_of_mem trip ho))
      (fun other ho => htargets other (List.mem_cons_of_mem trip ho)) hthere' hothers
    rw [List.append_assoc, ← goneAgain_append] at hleft
    refine ⟨left, ?_, hleft⟩
    exact gives_mapM_cons.2 ⟨_, middle, _, hplace, hrest, rfl⟩

/-- The files of all sources are placed once more, one after the other. -/
theorem Refilled.placeSources (dryRun : Bool) (hsound : Sound start directory)
    {sources : List Source} {claimed : List Path} {more : List Trip}
    (htakes : Takes start directory root sources claimed more) :
    ∀ {gone : List Location} {host : Host}, Refilled start after directory gone host →
      (∀ place ∈ gone, ∃ p ∈ claimed, p.IsBelow directory ∧ p.location start.current = place) →
      (∀ source ∈ sources, source.Plain) →
      (∀ trip ∈ more, Settled start after directory trip) →
      (∀ trip ∈ more, trip.source.location start.current ∉ gone) →
      more.Pairwise (fun trip other =>
        trip.source.location start.current ≠ other.source.location start.current) →
      ∃ left, Gives (Relocation.placeSources directory root dryRun sources claimed) host
          (more.map Trip.unchanged) left ∧
        Refilled start after directory (gone ++ goneAgain dryRun start.current more) left := by
  induction htakes with
  | nil =>
    intro gone host h _ _ _ _ _
    refine ⟨host, gives_pure.2 ⟨rfl, rfl⟩, ?_⟩
    have hnil : goneAgain dryRun start.current [] = [] := ite_self _
    rwa [hnil, List.append_nil]
  | @cons source rest claimed mine others gets places next ih =>
    intro gone host h hgone hplain hsettled hthere hdistinct
    obtain ⟨hmine, hothers, hapart⟩ := List.pairwise_append.1 hdistinct
    have hsource := hplain source List.mem_cons_self
    have htargets : ∀ trip ∈ mine, trip.target = source.target root trip.source := by
      intro trip ht
      obtain ⟨placement, hplaced⟩ := places trip ht
      exact hplaced.target_eq
    have hexpand := (gives_expand_thinned hsource h.inside h.current hsound.tree hgone).2 gets
    obtain ⟨middle, hplace, hmiddle⟩ := Refilled.placeFiles dryRun hsound hsource mine h
      (fun trip ht => hsettled trip (List.mem_append_left _ ht)) htargets
      (fun trip ht => hthere trip (List.mem_append_left _ ht)) hmine
    have hgone' : ∀ place ∈ gone ++ goneAgain dryRun start.current mine,
        ∃ p ∈ claimed ++ mine.map Trip.source, p.IsBelow directory ∧
          p.location start.current = place := by
      intro place hmem
      rcases List.mem_append.1 hmem with hmem | hmem
      · obtain ⟨p, hp, hfacts⟩ := hgone place hmem
        exact ⟨p, List.mem_append_left _ hp, hfacts⟩
      · obtain ⟨trip, ht, heq⟩ := mem_goneAgain hmem
        exact ⟨trip.source, List.mem_append_right _ (List.mem_map_of_mem ht),
          (hsettled trip (List.mem_append_left _ ht)).below, heq⟩
    have hthere' : ∀ other ∈ others, other.source.location start.current ∉
        gone ++ goneAgain dryRun start.current mine := by
      intro other ho hmem
      rcases List.mem_append.1 hmem with hmem | hmem
      · exact hthere other (List.mem_append_right _ ho) hmem
      · obtain ⟨trip, ht, heq⟩ := mem_goneAgain hmem
        exact hapart trip ht other ho heq
    obtain ⟨left, hrest, hleft⟩ := ih hmiddle hgone'
      (fun other ho => hplain other (List.mem_cons_of_mem source ho))
      (fun trip ht => hsettled trip (List.mem_append_right _ ht)) hthere' hothers
    rw [List.append_assoc, ← goneAgain_append] at hleft
    refine ⟨left, ?_, hleft⟩
    exact gives_placeSources_cons.2
      ⟨_, _, middle, _, hexpand, hplace, hrest, List.map_append⟩

/-! ## The whole relocation once more -/

/-- When the directory is filled anew, a relocation of the same moves finds each file at its target
already; it places them all and changes nothing outside the directory. -/
theorem relocate_again {moves : List Move} {placements : List Placement}
    (hsound : Sound start directory) (hmoves : ∀ source ∈ sourcesOf moves, source.Plain)
    (hclear : Clear start directory (placements.map Placement.destination))
    (hrun : Gives (relocate directory root moves false) start placements after)
    (hcurrent : host.current = start.current)
    (hinside : Thinned start.current directory [] start.tree host.tree)
    (houtside : ∀ place, ¬ directory.location start.current <+: place →
      host.tree.get? place = after.tree.get? place) :
    ∃ again : List Placement, (∀ placement ∈ again, placement.changed = false) ∧
      ∀ dryRun, ∃ left, Gives (relocate directory root moves dryRun) host again left ∧
        ∀ place, ¬ directory.location start.current <+: place →
          left.tree.get? place = after.tree.get? place := by
  obtain ⟨trips, hplaced, hcarried, htakes, _⟩ := gives_relocate hsound hmoves hclear hrun
  have hfilled : Refilled start after directory [] host := by
    refine ⟨hcurrent, hinside, houtside, fun place hp hdir => ?_⟩
    rcases hcarried.directory_or_above hdir with hstart | ⟨target, ht, habove, _⟩
    · exact hstart
    · exact absurd (hp.trans habove) (hclear.outside target ht)
  have hsettled : ∀ trip ∈ trips, Settled start after directory trip := by
    intro trip ht
    obtain ⟨placement, source, _, hplaced⟩ := exists_related hplaced trip ht
    exact ⟨hcarried.below trip ht, hcarried.was trip ht, hcarried.arrived trip ht,
      hclear.outside _ (hcarried.target_mem trip ht), hplaced.source_open, hplaced.target_open⟩
  refine ⟨trips.map Trip.unchanged, fun placement hp => ?_, fun dryRun => ?_⟩
  · obtain ⟨trip, _, rfl⟩ := List.mem_map.1 hp
    rfl
  · obtain ⟨left, hagain, hleft⟩ := hfilled.placeSources dryRun hsound htakes (by simp) hmoves
      hsettled (by simp) hcarried.distinct
    exact ⟨left, hagain, hleft.outside⟩

end Relocation

end ProtoRefresh
