-- Where a path leads. By its spelling alone a path has a location; the
-- tree lets a walk get there where every step of it starts in a directory.
-- In a well-formed tree that is so for whatever is there, but for steps
-- back out of something that is no directory.
import ProtoRefresh.Proofs.FileTree.Entries
import ProtoRefresh.Proofs.Host.Outcome
import ProtoRefresh.Toolchain.Basic

namespace ProtoRefresh

/-! ## Locations of paths -/

/-- Where a path leads by its spelling. -/
def Path.location (p : Path) (current : Location) : Location := (p.resolve current).parts

/-- Where a step leads from a location. -/
def Location.after (place : Location) (part : String) : Location :=
  if part = ".." then place.dropLast else place ++ [part]

variable {current : Location}

theorem Path.location_eq (p : Path) :
    p.location current = p.parts.foldl Location.after (if p.isAbsolute then [] else current) := rfl

theorem Path.location_snoc (slashes : Nat) (parts : List String) (part : String) :
    (⟨slashes, parts ++ [part]⟩ : Path).location current =
      Location.after ((⟨slashes, parts⟩ : Path).location current) part := by
  simp [location_eq, Path.isAbsolute, List.foldl_append]

/-- Names lead further down. -/
theorem Path.location_append (slashes : Nat) (parts : List String) {names : List String}
    (h : ".." ∉ names) :
    (⟨slashes, parts ++ names⟩ : Path).location current =
      (⟨slashes, parts⟩ : Path).location current ++ names := by
  induction names using List.reverseRecOn with
  | nil => simp
  | append_singleton rest name ih =>
    simp only [List.mem_append, List.mem_singleton, not_or] at h
    rw [← List.append_assoc, location_snoc, ih h.1, Location.after, if_neg (Ne.symm h.2),
      List.append_assoc]

/-! ## Walks -/

namespace FileTree

/-- Each step of a path starts in a directory. -/
def Walks (tree : FileTree) (current : Location) (p : Path) : Prop :=
  ∀ before part, before ++ [part] <+: p.parts →
    tree.get? ((⟨p.slashes, before⟩ : Path).location current) = some .directory

theorem requireDirectory_eq_ok_iff {tree : FileTree} {place : Location} :
    tree.requireDirectory place = .ok () ↔ tree.get? place = some .directory := by
  unfold requireDirectory
  cases tree.get? place with
  | none => simp
  | some entry => cases entry <;> simp

theorem step_eq_ok_iff {tree : FileTree} {place next : Location} {part : String} :
    tree.step place part = .ok next ↔
      tree.get? place = some .directory ∧ next = place.after part := by
  unfold step
  rw [except_bind_eq_ok]
  constructor
  · rintro ⟨_, hdir, hnext⟩
    cases hnext
    exact ⟨requireDirectory_eq_ok_iff.1 hdir, rfl⟩
  · rintro ⟨hdir, rfl⟩
    exact ⟨(), requireDirectory_eq_ok_iff.2 hdir, rfl⟩

theorem walks_snoc {tree : FileTree} {slashes : Nat} {parts : List String} {part : String} :
    tree.Walks current ⟨slashes, parts ++ [part]⟩ ↔
      tree.Walks current ⟨slashes, parts⟩ ∧
        tree.get? ((⟨slashes, parts⟩ : Path).location current) = some .directory := by
  constructor
  · intro h
    refine ⟨fun before p hp => h before p (hp.trans (List.prefix_append _ _)), ?_⟩
    exact h parts part List.prefix_rfl
  · rintro ⟨h, hdir⟩ before p hp
    rcases List.prefix_concat_iff.1 (by simpa using hp) with heq | hp
    · obtain ⟨rfl, _⟩ := List.append_inj' heq rfl
      exact hdir
    · exact h before p hp

/-- A path is located where its spelling says, once each step starts in a directory. -/
theorem locate_eq_ok_iff {tree : FileTree} {p : Path} {place : Location} :
    tree.locate current p = .ok place ↔ tree.Walks current p ∧ place = p.location current := by
  obtain ⟨slashes, parts⟩ := p
  unfold locate
  induction parts using List.reverseRecOn generalizing place with
  | nil =>
    simp only [List.foldlM_nil]
    constructor
    · intro h
      cases h
      exact ⟨fun before part hp => by simp at hp, rfl⟩
    · rintro ⟨_, rfl⟩
      rfl
  | append_singleton parts part ih =>
    rw [List.foldlM_append, except_bind_eq_ok, walks_snoc, Path.location_snoc]
    simp only [List.foldlM_cons, List.foldlM_nil, bind_pure]
    constructor
    · rintro ⟨middle, hm, hs⟩
      obtain ⟨hw, rfl⟩ := ih.1 hm
      obtain ⟨hdir, rfl⟩ := step_eq_ok_iff.1 hs
      exact ⟨⟨hw, hdir⟩, rfl⟩
    · rintro ⟨⟨hw, hdir⟩, rfl⟩
      exact ⟨_, ih.2 ⟨hw, rfl⟩, step_eq_ok_iff.2 ⟨hdir, rfl⟩⟩

theorem stat_eq_ok_iff {tree : FileTree} {p : Path} {entry : Entry} :
    tree.stat current p = .ok entry ↔
      tree.Walks current p ∧ tree.get? (p.location current) = some entry := by
  unfold stat
  rw [except_bind_eq_ok]
  constructor
  · rintro ⟨place, hl, he⟩
    obtain ⟨hw, rfl⟩ := locate_eq_ok_iff.1 hl
    refine ⟨hw, ?_⟩
    cases hg : tree.get? (p.location current) with
    | none => simp [hg] at he
    | some other =>
      simp only [hg] at he
      cases he
      rfl
  · rintro ⟨hw, hg⟩
    refine ⟨_, locate_eq_ok_iff.2 ⟨hw, rfl⟩, ?_⟩
    simp only [hg]
    rfl

theorem read_eq_ok_iff {tree : FileTree} {p : Path} {content : Content} :
    tree.read current p = .ok content ↔
      tree.Walks current p ∧ tree.get? (p.location current) = some (.file content) := by
  rw [← stat_eq_ok_iff]
  unfold read
  rw [except_bind_eq_ok]
  constructor
  · rintro ⟨entry, hs, he⟩
    cases entry with
    | file other =>
      cases he
      exact hs
    | directory => cases he
  · intro hs
    exact ⟨_, hs, rfl⟩

theorem isFile_iff {tree : FileTree} {p : Path} :
    tree.isFile current p = true ↔ ∃ content, tree.read current p = .ok content := by
  unfold isFile
  simp only [read_eq_ok_iff, ← stat_eq_ok_iff]
  cases hs : tree.stat current p with
  | error e => simp
  | ok entry => cases entry <;> simp

theorem isDirectory_iff {tree : FileTree} {p : Path} :
    tree.isDirectory current p = true ↔
      tree.Walks current p ∧ tree.get? (p.location current) = some .directory := by
  unfold isDirectory
  rw [← stat_eq_ok_iff]
  cases hs : tree.stat current p with
  | error e => simp
  | ok entry => cases entry <;> simp

theorem pathExists_iff {tree : FileTree} {p : Path} :
    tree.pathExists current p = true ↔
      tree.Walks current p ∧ (tree.get? (p.location current)).isSome := by
  rw [Option.isSome_iff_exists, ← exists_and_left]
  simp only [← stat_eq_ok_iff]
  unfold pathExists
  cases hs : tree.stat current p <;> simp

theorem list_eq (tree : FileTree) (p : Path) :
    tree.list current p =
      if tree.isDirectory current p then tree.names (p.location current) else [] := by
  unfold list
  cases hl : tree.locate current p with
  | error e =>
    rw [if_neg]
    rw [isDirectory_iff]
    rintro ⟨hw, _⟩
    rw [locate_eq_ok_iff.2 ⟨hw, rfl⟩] at hl
    cases hl
  | ok place =>
    obtain ⟨hw, rfl⟩ := locate_eq_ok_iff.1 hl
    simp [isDirectory_iff, hw, isDirectoryAt]

/-- A path to a file is no path to a directory. -/
theorem ne_of_read {tree : FileTree} {p q : Path} {content : Content}
    (hread : tree.read current p = .ok content) (hdir : tree.isDirectory current q = true) :
    p ≠ q := by
  rintro rfl
  have hfile := (read_eq_ok_iff.1 hread).2
  rw [(isDirectory_iff.1 hdir).2] at hfile
  cases hfile

/-! ## Walks in other trees -/

/-- A walk goes as well where no directory is missing. -/
theorem Walks.mono {tree other : FileTree} {p : Path} (h : tree.Walks current p)
    (hkept : ∀ place, tree.get? place = some .directory → other.get? place = some .directory) :
    other.Walks current p := fun before part hp => hkept _ (h before part hp)

/-- A directory is there as well where no directory is missing. -/
theorem isDirectory_mono {tree other : FileTree} {p : Path} (h : tree.isDirectory current p = true)
    (hkept : ∀ place, tree.get? place = some .directory → other.get? place = some .directory) :
    other.isDirectory current p = true := by
  obtain ⟨hwalks, hget⟩ := isDirectory_iff.1 h
  exact isDirectory_iff.2 ⟨hwalks.mono hkept, hkept _ hget⟩

/-- A path steps back only out of directories that are there. -/
def StepsBackInside (tree : FileTree) (current : Location) (p : Path) : Prop :=
  ∀ before, before ++ [".."] <+: p.parts → tree.isDirectory current ⟨p.slashes, before⟩ = true

theorem stepsBackInside_iff {tree : FileTree} {p : Path} :
    tree.StepsBackInside current p ↔ ∀ k < p.parts.length, p.parts[k]? = some ".." →
      tree.isDirectory current ⟨p.slashes, p.parts.take k⟩ = true := by
  constructor
  · intro h k hk hback
    refine h _ ⟨p.parts.drop (k + 1), ?_⟩
    have hget : p.parts[k] = ".." := by simpa [hk] using hback
    rw [← hget, List.take_append_getElem hk, List.take_append_drop]
  · rintro h before ⟨rest, hrest⟩
    have hparts : p.parts = before ++ ".." :: rest := by simp [← hrest]
    have hdir := h before.length (by simp [hparts]) (by simp [hparts])
    rwa [hparts, List.take_left' rfl] at hdir

instance (tree : FileTree) (p : Path) : Decidable (tree.StepsBackInside current p) :=
  decidable_of_iff _ stepsBackInside_iff.symm

theorem StepsBackInside.parent {tree : FileTree} {p : Path} {name : String}
    (h : tree.StepsBackInside current (p.child name)) : tree.StepsBackInside current p :=
  fun before hb => h before (hb.trans (List.prefix_append _ _))

/-- What a path steps back out of is there, so from a directory that is missing it leads down. -/
theorem StepsBackInside.prefix_of_missing {tree : FileTree} {p : Path}
    (h : tree.StepsBackInside current p) {k : Nat}
    (hmissing : tree.get? ((⟨p.slashes, p.parts.take k⟩ : Path).location current) ≠
      some .directory) :
    (⟨p.slashes, p.parts.take k⟩ : Path).location current <+: p.location current := by
  have hdown : ".." ∉ p.parts.drop k := by
    intro hmem
    obtain ⟨names, rest, hrest⟩ := List.append_of_mem hmem
    have hparts : p.parts = p.parts.take k ++ names ++ ".." :: rest := by
      rw [List.append_assoc, ← hrest, List.take_append_drop]
    have hprefix : p.parts.take k ++ names ++ [".."] <+: p.parts :=
      ⟨rest, by rw [List.append_assoc, List.singleton_append, ← hparts]⟩
    obtain ⟨hwalks, hdir⟩ := isDirectory_iff.1 (h _ hprefix)
    cases names with
    | nil =>
      rw [List.append_nil] at hdir
      exact hmissing hdir
    | cons name names =>
      exact hmissing (hwalks (p.parts.take k) name ⟨names, by simp⟩)
  have hlocation : p.location current =
      (⟨p.slashes, p.parts.take k⟩ : Path).location current ++ p.parts.drop k := by
    rw [← Path.location_append _ _ hdown, List.take_append_drop]
  exact ⟨_, hlocation.symm⟩

/-- What is there in a well-formed tree can be walked to. -/
theorem WellFormed.walks {tree : FileTree} (h : tree.WellFormed) {p : Path}
    (hback : tree.StepsBackInside current p) (hs : (tree.get? (p.location current)).isSome) :
    tree.Walks current p := by
  obtain ⟨slashes, parts⟩ := p
  induction parts using List.reverseRecOn with
  | nil => exact fun before part hp => by simp at hp
  | append_singleton parts part ih =>
    rw [walks_snoc]
    by_cases hp : part = ".."
    · have hdir := hback parts (by simp [hp])
      exact isDirectory_iff.1 hdir
    · rw [Path.location_snoc, Location.after, if_neg hp] at hs
      have hdir := h.parent _ _ hs
      refine ⟨ih (fun before hb => hback before ?_) (by rw [hdir]; rfl), hdir⟩
      exact hb.trans (List.prefix_append _ _)

end FileTree

end ProtoRefresh
