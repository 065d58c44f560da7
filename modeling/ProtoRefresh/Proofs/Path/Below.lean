-- Paths that lead further down from a path, and the order of paths. Names
-- that lead down are told apart by where they lead, and paths in order
-- stay in order when some of them are left out.
import ProtoRefresh.Proofs.FileTree.Walk

namespace ProtoRefresh.Path

variable {current : Location}

/-! ## Paths below a path -/

/-- A path with more names. -/
def below (p : Path) (names : List String) : Path := ⟨p.slashes, p.parts ++ names⟩

@[simp] theorem below_nil (p : Path) : p.below [] = p := by
  unfold below
  rw [List.append_nil]

@[simp] theorem below_below (p : Path) (names more : List String) :
    (p.below names).below more = p.below (names ++ more) := by
  unfold below
  rw [List.append_assoc]

@[simp] theorem name_child (p : Path) (name : String) : (p.child name).name = name := by
  unfold Path.name child
  rw [List.getLast?_concat, Option.getD_some]

theorem location_below (p : Path) {names : List String} (h : ".." ∉ names) :
    (p.below names).location current = p.location current ++ names :=
  location_append p.slashes p.parts h

theorem location_child (p : Path) {name : String} (h : name ≠ "..") :
    (p.child name).location current = p.location current ++ [name] :=
  location_below p (by simpa using h.symm)

/-- A path leads down from another one by names. -/
def IsBelow (p start : Path) : Prop := ∃ names, ".." ∉ names ∧ p = start.below names

theorem IsBelow.refl (p : Path) : p.IsBelow p := ⟨[], by simp, (below_nil p).symm⟩

theorem IsBelow.trans {p middle start : Path} (h : p.IsBelow middle) (hm : middle.IsBelow start) :
    p.IsBelow start := by
  obtain ⟨names, hn, rfl⟩ := h
  obtain ⟨more, hmore, rfl⟩ := hm
  exact ⟨more ++ names, by simp [hn, hmore], below_below _ _ _⟩

theorem IsBelow.child {p start : Path} (h : p.IsBelow start) {name : String} (hn : name ≠ "..") :
    (p.child name).IsBelow start :=
  IsBelow.trans ⟨[name], by simpa using hn.symm, rfl⟩ h

theorem IsBelow.parent {p start : Path} (h : p.IsBelow start) (hne : p ≠ start) :
    p.parent.IsBelow start := by
  obtain ⟨names, hn, rfl⟩ := h
  rcases List.eq_nil_or_concat' names with rfl | ⟨before, name, rfl⟩
  · exact absurd (below_nil start) hne
  · refine ⟨before, fun hmem => hn (List.mem_append_left _ hmem), ?_⟩
    unfold below Path.parent
    rw [← List.append_assoc, List.dropLast_concat]

theorem IsBelow.leads_down {p start : Path} (h : p.IsBelow start) :
    start.location current <+: p.location current := by
  obtain ⟨names, hn, rfl⟩ := h
  rw [location_below _ hn]
  exact List.prefix_append _ _

/-- A walk further down passes the path that it starts with. -/
theorem IsBelow.walks {p start : Path} (h : p.IsBelow start) {tree : FileTree}
    (hwalks : tree.Walks current p) : tree.Walks current start := by
  obtain ⟨names, _, rfl⟩ := h
  exact fun before part hb => hwalks before part (hb.trans (List.prefix_append _ _))

/-- Below one path, paths that lead to one place are one. -/
theorem IsBelow.eq_of_location {p q start : Path} (hp : p.IsBelow start) (hq : q.IsBelow start)
    (h : p.location current = q.location current) : p = q := by
  obtain ⟨names, hn, rfl⟩ := hp
  obtain ⟨others, ho, rfl⟩ := hq
  rw [location_below _ hn, location_below _ ho] at h
  rw [List.append_cancel_left h]

theorem join_eq_below (p : Path) {q : Path} (h : q.isAbsolute = false) :
    p.join q = p.below q.parts := by
  unfold join
  rw [if_neg (by simp [h])]
  rfl

/-! ## Order -/

theorem le_trans {p q r : Path} (hpq : p.le q = true) (hqr : q.le r = true) : p.le r = true := by
  simp only [le, Bool.not_eq_true', decide_eq_false_iff_not, List.not_lt] at *
  exact List.le_trans hpq hqr

theorem le_total (p q : Path) : (p.le q || q.le p) = true := by
  simp only [le, Bool.or_eq_true, Bool.not_eq_true', decide_eq_false_iff_not, List.not_lt]
  exact List.le_total _ _

theorem le_antisymm {p q : Path} (hs : p.slashes = q.slashes) (hpq : p.le q = true)
    (hqp : q.le p = true) : p = q := by
  simp only [le, Bool.not_eq_true', decide_eq_false_iff_not, List.not_lt] at hpq hqp
  have hkey : p.key = q.key := List.le_antisymm hpq hqp
  obtain ⟨slashes, parts⟩ := p
  obtain ⟨_, others⟩ := q
  cases hs
  unfold key isAbsolute at hkey
  simp only at hkey
  split at hkey
  · rw [(List.cons.inj hkey).2]
  · rw [hkey]

theorem sort_pairwise (paths : List Path) : (sort paths).Pairwise fun p q => p.le q = true := by
  have hsorted : ∀ l : List Path, (l.mergeSort le).Pairwise fun p q => p.le q = true :=
    List.pairwise_mergeSort (fun _ _ _ => le_trans) le_total
  exact hsorted paths

/-- Of paths with one root, those in order that are kept are those kept in order. -/
theorem sort_filter {paths : List Path} {slashes : Nat} (h : ∀ p ∈ paths, p.slashes = slashes)
    (keep : Path → Bool) : sort (paths.filter keep) = (sort paths).filter keep := by
  refine List.Perm.eq_of_pairwise ?_ (sort_pairwise _) ((sort_pairwise paths).filter _) ?_
  · intro p q hp hq
    rw [sort, List.mem_mergeSort, List.mem_filter] at hp
    rw [sort, List.mem_filter, List.mem_mergeSort] at hq
    exact le_antisymm ((h p hp.1).trans (h q hq.1).symm)
  · exact (List.mergeSort_perm _ _).trans ((List.mergeSort_perm paths le).filter keep).symm

end ProtoRefresh.Path
