-- What a relocation has done to the files after some of its moves: the
-- files that it moved are where they went and gone from where they were,
-- all others are as they were, and what is new is a directory on the way
-- to one of the targets. This holds as long as the targets stay out of
-- each other's way.
import ProtoRefresh.Proofs.Host.Files
import ProtoRefresh.Proofs.FileTree.Thinned
import ProtoRefresh.Relocation.Relocate

namespace ProtoRefresh.Relocation

open FileTree

/-! ## Targets -/

/-- The targets of a relocation are apart: from each other, from the directory with the generated
files and from all directories. -/
structure Apart (start : Host) (directory : Path) (targets : List Path) : Prop where
  distinct : targets.Pairwise fun p q => p.location start.current ≠ q.location start.current
  outside : ∀ p ∈ targets, ¬ directory.location start.current <+: p.location start.current
  noDirectory : ∀ p ∈ targets, start.tree.get? (p.location start.current) ≠ some .directory
  noAncestor : ∀ p ∈ targets, ∀ q ∈ targets,
    p.location start.current <+: q.location start.current →
      p.location start.current = q.location start.current

theorem apart_iff {start : Host} {directory : Path} {targets : List Path} :
    Apart start directory targets ↔
      targets.Pairwise (fun p q => p.location start.current ≠ q.location start.current) ∧
      (∀ p ∈ targets, ¬ directory.location start.current <+: p.location start.current ∧
        start.tree.get? (p.location start.current) ≠ some .directory) ∧
      ∀ p ∈ targets, ∀ q ∈ targets, p.location start.current <+: q.location start.current →
        p.location start.current = q.location start.current :=
  ⟨fun h => ⟨h.distinct, fun p hp => ⟨h.outside p hp, h.noDirectory p hp⟩, h.noAncestor⟩,
    fun h => ⟨h.1, fun p hp => (h.2.1 p hp).1, fun p hp => (h.2.1 p hp).2, h.2.2⟩⟩

instance (start : Host) (directory : Path) (targets : List Path) :
    Decidable (Apart start directory targets) := decidable_of_iff _ apart_iff.symm

/-- The targets are apart, and their paths step back only out of directories that are there. -/
structure Clear (start : Host) (directory : Path) (targets : List Path) : Prop
    extends Apart start directory targets where
  stepsBack : ∀ p ∈ targets, start.tree.StepsBackInside start.current p

instance (start : Host) (directory : Path) (targets : List Path) :
    Decidable (Clear start directory targets) :=
  decidable_of_iff (Apart start directory targets ∧
    ∀ p ∈ targets, start.tree.StepsBackInside start.current p)
    ⟨fun h => ⟨h.1, h.2⟩, fun h => ⟨h.toApart, h.stepsBack⟩⟩

/-! ## Starts -/

/-- The tree at the start is well formed, and no file is in the place of a current directory that
files are to leave. -/
structure Sound (start : Host) (directory : Path) : Prop where
  tree : start.tree.WellFormed
  here : directory = Path.here → ∀ content, start.tree.get? start.current ≠ some (.file content)

theorem Sound.isName {start : Host} {directory p : Path} {content : Content}
    (h : Sound start directory) (hp : p.IsBelow directory)
    (hread : start.tree.read start.current p = .ok content) : IsName p.name := by
  refine h.tree.isName_of_read hread fun hhere => h.here ?_
  obtain ⟨names, _, rfl⟩ := hp
  obtain ⟨slashes, parts⟩ := directory
  obtain ⟨hslashes, hparts⟩ := Path.mk.inj hhere
  rw [Path.here, Path.mk.injEq]
  exact ⟨hslashes, (List.append_eq_nil_iff.1 hparts).1⟩

/-! ## Trips -/

/-- The way of a file from one path to another. -/
structure Trip where
  source : Path
  target : Path
  content : Content

/-- Files of a directory were carried to some of the targets, and nothing else happened but that
directories were made above the targets. -/
structure Carried (start : Host) (directory : Path) (targets : List Path) (trips : List Trip)
    (tree : FileTree) : Prop where
  below : ∀ trip ∈ trips, trip.source.IsBelow directory
  target_mem : ∀ trip ∈ trips, trip.target ∈ targets
  was : ∀ trip ∈ trips, start.tree.read start.current trip.source = .ok trip.content
  distinct : trips.Pairwise fun trip other =>
    trip.source.location start.current ≠ other.source.location start.current
  arrived : ∀ trip ∈ trips, tree.read start.current trip.target = .ok trip.content
  gone : ∀ trip ∈ trips, tree.get? (trip.source.location start.current) = none
  elsewhere : ∀ place, (∀ trip ∈ trips, place ≠ trip.source.location start.current ∧
      place ≠ trip.target.location start.current) →
    tree.get? place = start.tree.get? place ∨
      start.tree.get? place = none ∧ tree.get? place = some .directory ∧
        ∃ target ∈ targets, place <+: target.location start.current ∧
          place ≠ target.location start.current

namespace Carried

variable {start : Host} {directory : Path} {targets : List Path} {trips : List Trip}
  {tree : FileTree}

theorem refl (start : Host) (directory : Path) (targets : List Path) :
    Carried start directory targets [] start.tree where
  below := by simp
  target_mem := by simp
  was := by simp
  distinct := .nil
  arrived := by simp
  gone := by simp
  elsewhere := fun _ _ => Or.inl rfl

/-! ## What stays -/

/-- What was elsewhere is there still. -/
theorem stays (h : Carried start directory targets trips tree) {place : Location} {entry : Entry}
    (hentry : start.tree.get? place = some entry)
    (hplace : ∀ trip ∈ trips, place ≠ trip.source.location start.current ∧
      place ≠ trip.target.location start.current) : tree.get? place = some entry := by
  rcases h.elsewhere place hplace with hsame | ⟨hnone, _⟩
  · rw [hsame, hentry]
  · rw [hentry] at hnone
    cases hnone

theorem directory_stays (h : Carried start directory targets trips tree)
    (hclear : Clear start directory targets) (place : Location)
    (hdir : start.tree.get? place = some .directory) : tree.get? place = some .directory := by
  refine h.stays hdir fun trip ht => ⟨?_, ?_⟩
  · rintro rfl
    obtain ⟨_, hfile⟩ := read_eq_ok_iff.1 (h.was trip ht)
    rw [hdir] at hfile
    cases hfile
  · rintro rfl
    exact hclear.noDirectory _ (h.target_mem trip ht) hdir

theorem not_source (h : Carried start directory targets trips tree)
    (hclear : Clear start directory targets) {p : Path} (hp : p ∈ targets) {trip : Trip}
    (ht : trip ∈ trips) : p.location start.current ≠ trip.source.location start.current := by
  intro heq
  refine hclear.outside p hp ?_
  rw [heq]
  exact (h.below trip ht).leads_down

/-- A directory was there before, or it has come above a target. -/
theorem directory_or_above (h : Carried start directory targets trips tree) {place : Location}
    (hdir : tree.get? place = some .directory) : start.tree.get? place = some .directory ∨
      ∃ target ∈ targets, place <+: target.location start.current ∧
        place ≠ target.location start.current := by
  have hplace : ∀ trip ∈ trips, place ≠ trip.source.location start.current ∧
      place ≠ trip.target.location start.current := by
    intro trip ht
    constructor
    · rintro rfl
      rw [h.gone trip ht] at hdir
      cases hdir
    · rintro rfl
      rw [(read_eq_ok_iff.1 (h.arrived trip ht)).2] at hdir
      cases hdir
  rcases h.elsewhere place hplace with hsame | ⟨_, _, habove⟩
  · exact Or.inl (hsame ▸ hdir)
  · exact Or.inr habove

/-- No directory comes where a file is to go. -/
theorem target_noDirectory (h : Carried start directory targets trips tree)
    (hclear : Clear start directory targets) {p : Path} (hp : p ∈ targets)
    (hfresh : ∀ trip ∈ trips, p.location start.current ≠ trip.target.location start.current) :
    tree.get? (p.location start.current) ≠ some .directory := by
  intro hdir
  rcases h.elsewhere _ fun trip ht => ⟨h.not_source hclear hp ht, hfresh trip ht⟩ with
    hsame | ⟨_, _, target, ht, habove, hne⟩
  · exact hclear.noDirectory p hp (hsame ▸ hdir)
  · exact hne (hclear.noAncestor p hp target ht habove)

/-- The file at a target is the one that was there, until a trip goes there. -/
theorem read_target_iff (h : Carried start directory targets trips tree)
    (hclear : Clear start directory targets) (hwf : start.tree.WellFormed) {p : Path}
    (hp : p ∈ targets)
    (hfresh : ∀ trip ∈ trips, p.location start.current ≠ trip.target.location start.current)
    {content : Content} : tree.read start.current p = .ok content ↔
      start.tree.read start.current p = .ok content := by
  have hplace : ∀ trip ∈ trips, p.location start.current ≠ trip.source.location start.current ∧
      p.location start.current ≠ trip.target.location start.current :=
    fun trip ht => ⟨h.not_source hclear hp ht, hfresh trip ht⟩
  rw [read_eq_ok_iff, read_eq_ok_iff]
  constructor
  · rintro ⟨_, hfile⟩
    have hstart : start.tree.get? (p.location start.current) = some (.file content) := by
      rcases h.elsewhere _ hplace with hsame | ⟨_, hdir, _⟩
      · rw [← hsame, hfile]
      · rw [hfile] at hdir
        cases hdir
    exact ⟨hwf.walks (hclear.stepsBack p hp) (by rw [hstart]; rfl), hstart⟩
  · rintro ⟨hwalks, hfile⟩
    exact ⟨hwalks.mono (h.directory_stays hclear), h.stays hfile hplace⟩

/-! ## The directory that files leave -/

/-- Where the files were that went. -/
def leftPlaces (current : Location) (trips : List Trip) : List Location :=
  trips.map fun trip => trip.source.location current

/-- Nothing happens in the directory but that files leave it. -/
theorem thinned (h : Carried start directory targets trips tree)
    (hclear : Clear start directory targets) (hwalks : start.tree.Walks start.current directory) :
    Thinned start.current directory (leftPlaces start.current trips) start.tree tree where
  walks_whole := hwalks
  walks_tree := hwalks.mono (h.directory_stays hclear)
  get?_eq := by
    intro place hplace
    split
    · rename_i hleft
      obtain ⟨trip, ht, rfl⟩ := List.mem_map.1 hleft
      exact h.gone trip ht
    · rename_i hleft
      have hother : ∀ trip ∈ trips, place ≠ trip.source.location start.current ∧
          place ≠ trip.target.location start.current := by
        intro trip ht
        constructor
        · rintro rfl
          exact hleft (List.mem_map_of_mem ht)
        · rintro rfl
          exact hclear.outside _ (h.target_mem trip ht) hplace
      rcases h.elsewhere place hother with hsame | ⟨_, _, target, ht, habove, _⟩
      · exact hsame
      · exact absurd (hplace.trans habove) (hclear.outside target ht)
  noDirectory := by
    intro place hleft hdir
    obtain ⟨trip, ht, rfl⟩ := List.mem_map.1 hleft
    obtain ⟨_, hfile⟩ := read_eq_ok_iff.1 (h.was trip ht)
    rw [hdir] at hfile
    cases hfile

/-! ## One more trip -/

/-- Directories may be made above a target. -/
theorem makes (h : Carried start directory targets trips tree)
    (hclear : Clear start directory targets) {dest : Path} {name : String} (hname : name ≠ "..")
    (hp : dest.child name ∈ targets) {made : FileTree}
    (hmakes : Makes start.current dest tree made) :
    Carried start directory targets trips made := by
  have hback := (hclear.stepsBack _ hp).parent
  have hnew : ∀ place, made.get? place = tree.get? place ∨ tree.get? place = none ∧
      made.get? place = some .directory ∧
        place <+: (dest.child name).location start.current ∧
          place ≠ (dest.child name).location start.current := by
    intro place
    rcases hmakes.get? place with hsame | ⟨hnone, hdir, k, rfl⟩
    · exact Or.inl hsame
    · have habove := hback.prefix_of_missing (k := k) fun hthere => by
        rw [h.directory_stays hclear _ hthere] at hnone
        cases hnone
      rw [Path.location_child dest hname]
      refine Or.inr ⟨hnone, hdir, habove.trans (List.prefix_append _ _), fun heq => ?_⟩
      have hle := habove.length_le
      rw [heq, List.length_append, List.length_singleton] at hle
      omega
  refine ⟨h.below, h.target_mem, h.was, h.distinct, fun trip ht => ?_, fun trip ht => ?_,
    fun place hplace => ?_⟩
  · obtain ⟨hwalks, hfile⟩ := read_eq_ok_iff.1 (h.arrived trip ht)
    refine read_eq_ok_iff.2 ⟨hwalks.mono hmakes.directory_stays, ?_⟩
    rcases hnew (trip.target.location start.current) with hsame | ⟨hnone, _⟩
    · rw [hsame, hfile]
    · rw [hfile] at hnone
      cases hnone
  · rcases hnew (trip.source.location start.current) with hsame | ⟨_, _, habove, _⟩
    · rw [hsame, h.gone trip ht]
    · exact absurd ((h.below trip ht).leads_down.trans habove) (hclear.outside _ hp)
  · rcases hnew place with hsame | ⟨hnone, hdir, habove⟩
    · rw [hsame]
      exact h.elsewhere place hplace
    · rcases h.elsewhere place hplace with hstart | ⟨_, hthere, _⟩
      · exact Or.inr ⟨hstart ▸ hnone, hdir, _, hp, habove⟩
      · rw [hnone] at hthere
        cases hthere

/-- A file of the directory may go to a target that no file has gone to. -/
theorem moves (h : Carried start directory targets trips tree)
    (hclear : Clear start directory targets) (hwalks : start.tree.Walks start.current directory)
    {p target : Path} (hp : p.IsBelow directory) (ht : target ∈ targets)
    (hfresh : ∀ trip ∈ trips, target.location start.current ≠ trip.target.location start.current)
    {after : FileTree} (hrename : tree.rename start.current p target = .ok after) :
    ∃ content, start.tree.read start.current p = .ok content ∧
      Carried start directory targets (trips ++ [⟨p, target, content⟩]) after := by
  obtain ⟨content, hread, htargetWalks, _, hget⟩ := get?_of_rename hrename
  have hstays := directory_stays_of_rename hrename
  have hsource := ((h.thinned hclear hwalks).read_eq_ok_iff hp).1 hread
  have hleft : ∀ trip ∈ trips, p.location start.current ≠ trip.source.location start.current :=
    fun trip htrip heq => kept_iff.1 hsource.1 (heq ▸ List.mem_map_of_mem htrip)
  have hinside : ∀ other ∈ targets, other.location start.current ≠ p.location start.current :=
    fun other ho heq => hclear.outside other ho (heq ▸ hp.leads_down)
  refine ⟨content, hsource.2, ?_, ?_, ?_, ?_, ?_, ?_, ?_⟩
  · exact List.forall_mem_append.2 ⟨h.below, List.forall_mem_singleton.2 hp⟩
  · exact List.forall_mem_append.2 ⟨h.target_mem, List.forall_mem_singleton.2 ht⟩
  · exact List.forall_mem_append.2 ⟨h.was, List.forall_mem_singleton.2 hsource.2⟩
  · refine List.pairwise_append.2 ⟨h.distinct, List.pairwise_singleton _ _, fun trip htrip => ?_⟩
    exact List.forall_mem_singleton.2 (hleft trip htrip).symm
  · refine List.forall_mem_append.2 ⟨fun trip htrip => ?_, List.forall_mem_singleton.2 ?_⟩
    · obtain ⟨hw, harrived⟩ := read_eq_ok_iff.1 (h.arrived trip htrip)
      refine read_eq_ok_iff.2 ⟨hw.mono hstays, ?_⟩
      rw [hget, if_neg (hfresh trip htrip).symm, if_neg (hinside _ (h.target_mem trip htrip)),
        harrived]
    · exact read_eq_ok_iff.2 ⟨htargetWalks.mono hstays, by rw [hget, if_pos rfl]⟩
  · refine List.forall_mem_append.2 ⟨fun trip htrip => ?_, List.forall_mem_singleton.2 ?_⟩
    · rw [hget, if_neg (h.not_source hclear ht htrip).symm, if_neg (hleft trip htrip).symm,
        h.gone trip htrip]
    · rw [hget, if_neg (hinside target ht).symm, if_pos rfl]
  · intro place hother
    obtain ⟨hnotSource, hnotTarget⟩ := hother ⟨p, target, content⟩ (by simp)
    rw [hget, if_neg hnotTarget, if_neg hnotSource]
    exact h.elsewhere place fun trip htrip => hother trip (List.mem_append_left _ htrip)

end Carried

end ProtoRefresh.Relocation
