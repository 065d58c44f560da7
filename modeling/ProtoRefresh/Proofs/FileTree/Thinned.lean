-- A tree and what is left of it when some files below a path are gone. The
-- directories below the path are the same ones, and what the paths there
-- lead to is the same but for the files that are gone.
import ProtoRefresh.Proofs.Path.Below

namespace ProtoRefresh

variable {current : Location}

namespace FileTree

/-! ## Trees without some files -/

/-- Below a path a tree is a whole tree without some files. -/
structure Thinned (current : Location) (base : Path) (gone : List Location)
    (whole tree : FileTree) : Prop where
  walks_whole : whole.Walks current base
  walks_tree : tree.Walks current base
  get?_eq : ∀ place, base.location current <+: place →
    tree.get? place = if place ∈ gone then none else whole.get? place
  noDirectory : ∀ place ∈ gone, whole.get? place ≠ some .directory

variable {base p : Path} {gone : List Location} {whole tree : FileTree}

/-- Whether a path leads to something that is not gone. -/
def kept (current : Location) (gone : List Location) (p : Path) : Bool :=
  !gone.contains (p.location current)

theorem kept_iff : kept current gone p = true ↔ p.location current ∉ gone := by
  unfold kept
  rw [Bool.not_eq_true', List.contains_eq_mem, decide_eq_false_iff_not]

namespace Thinned

theorem directory_iff (h : Thinned current base gone whole tree) {place : Location}
    (hp : base.location current <+: place) :
    tree.get? place = some .directory ↔ whole.get? place = some .directory := by
  rw [h.get?_eq _ hp]
  by_cases hg : place ∈ gone
  · simp [hg, h.noDirectory _ hg]
  · rw [if_neg hg]

theorem kept_of_isDirectory (h : Thinned current base gone whole tree)
    (hdir : whole.isDirectory current p = true) : kept current gone p = true :=
  kept_iff.2 fun hg => h.noDirectory _ hg (isDirectory_iff.1 hdir).2

theorem walks_iff (h : Thinned current base gone whole tree) (hp : p.IsBelow base) :
    tree.Walks current p ↔ whole.Walks current p := by
  obtain ⟨names, hn, rfl⟩ := hp
  induction names using List.reverseRecOn with
  | nil =>
    rw [Path.below_nil]
    exact iff_of_true h.walks_tree h.walks_whole
  | append_singleton names name ih =>
    simp only [List.mem_append, List.mem_singleton, not_or] at hn
    have hdir := h.directory_iff (Path.IsBelow.leads_down ⟨names, hn.1, rfl⟩)
    unfold Path.below at ih hdir ⊢
    rw [← List.append_assoc, walks_snoc, walks_snoc, ih hn.1, hdir]

theorem isDirectory_eq (h : Thinned current base gone whole tree) (hp : p.IsBelow base) :
    tree.isDirectory current p = whole.isDirectory current p := by
  rw [Bool.eq_iff_iff, isDirectory_iff, isDirectory_iff, h.walks_iff hp,
    h.directory_iff hp.leads_down]

theorem read_eq_ok_iff (h : Thinned current base gone whole tree) (hp : p.IsBelow base)
    {content : Content} : tree.read current p = .ok content ↔
      kept current gone p = true ∧ whole.read current p = .ok content := by
  rw [FileTree.read_eq_ok_iff, FileTree.read_eq_ok_iff, h.walks_iff hp,
    h.get?_eq _ hp.leads_down, kept_iff]
  by_cases hg : p.location current ∈ gone
  · simp [hg]
  · simp [hg]

theorem isFile_iff (h : Thinned current base gone whole tree) (hp : p.IsBelow base) :
    tree.isFile current p = true ↔
      kept current gone p = true ∧ whole.isFile current p = true := by
  rw [FileTree.isFile_iff, FileTree.isFile_iff, ← exists_and_left]
  exact exists_congr fun content => h.read_eq_ok_iff hp

theorem pathExists_iff (h : Thinned current base gone whole tree) (hp : p.IsBelow base) :
    tree.pathExists current p = true ↔
      kept current gone p = true ∧ whole.pathExists current p = true := by
  rw [FileTree.pathExists_iff, FileTree.pathExists_iff, h.walks_iff hp,
    h.get?_eq _ hp.leads_down, kept_iff]
  by_cases hg : p.location current ∈ gone
  · simp [hg]
  · simp [hg]

theorem names_eq (h : Thinned current base gone whole tree) {place : Location}
    (hp : base.location current <+: place) :
    tree.names place = (whole.names place).filter fun name => !gone.contains (place ++ [name]) := by
  have hsorted := (whole.names_sorted place).filter fun name => !gone.contains (place ++ [name])
  refine List.Perm.eq_of_pairwise (fun a b _ _ hab hba => absurd hba (String.lt_asymm hab))
    (tree.names_sorted place) hsorted ?_
  refine (List.perm_ext_iff_of_nodup ((tree.names_sorted place).imp ?_) (hsorted.imp ?_)).2 ?_
  · rintro a _ hlt rfl
    exact String.lt_irrefl a hlt
  · rintro a _ hlt rfl
    exact String.lt_irrefl a hlt
  · intro name
    rw [List.mem_filter, mem_names_iff, mem_names_iff,
      h.get?_eq _ (hp.trans (List.prefix_append _ _))]
    by_cases hg : place ++ [name] ∈ gone
    · simp [hg]
    · simp [hg]

end Thinned

/-- The names in a directory of a well-formed tree are proper. -/
theorem WellFormed.isName_of_mem_list {tree : FileTree} (h : tree.WellFormed) {p : Path}
    {name : String} (hn : name ∈ tree.list current p) : IsName name := by
  rw [list_eq] at hn
  split at hn
  · exact h.isName _ _ ((mem_names_iff tree _ name).1 hn)
  · cases hn

theorem Thinned.list_eq (h : Thinned current base gone whole tree) (hwf : whole.WellFormed)
    (hp : p.IsBelow base) : tree.list current p =
      (whole.list current p).filter fun name => kept current gone (p.child name) := by
  have hkept : ∀ name ∈ whole.list current p,
      kept current gone (p.child name) = !gone.contains (p.location current ++ [name]) := by
    intro name hn
    unfold kept
    rw [Path.location_child p (hwf.isName_of_mem_list hn).2.2.1]
  rw [List.filter_congr hkept, FileTree.list_eq, FileTree.list_eq, h.isDirectory_eq hp]
  split
  · exact h.names_eq hp.leads_down
  · rfl

end FileTree

end ProtoRefresh
