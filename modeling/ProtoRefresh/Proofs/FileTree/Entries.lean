-- What stands where after a change of a tree, and which names a directory
-- holds. A tree is well formed when all in it stands in directories and
-- has a proper name; every change by path keeps that.
import Mathlib.Data.List.Basic
import Mathlib.Data.List.Induction
import ProtoRefresh.FileTree.Access

namespace ProtoRefresh

/-! ## Entries in order -/

theorem lookup_cons_eq (place other : Location) (entry : Entry) (l : List (Location × Entry)) :
    ((place, entry) :: l).lookup other = if other = place then some entry else l.lookup other := by
  rw [List.lookup_cons]
  by_cases h : other = place
  · simp [h]
  · simp [h, beq_eq_false_iff_ne.2 h]

theorem lookup_insertEntry (place other : Location) (entry : Entry)
    (l : List (Location × Entry)) :
    (insertEntry place entry l).lookup other =
      if other = place then some entry else l.lookup other := by
  induction l with
  | nil => simp [insertEntry, lookup_cons_eq]
  | cons x rest ih =>
    obtain ⟨p, e⟩ := x
    unfold insertEntry
    split
    · simp [lookup_cons_eq]
    · split
      · rename_i h1 h2
        have hne : place ≠ p := fun he => List.lt_irrefl p (he ▸ h2)
        rw [lookup_cons_eq, ih, lookup_cons_eq]
        by_cases h : other = place
        · simp [h, hne]
        · simp [h]
      · rename_i h1 h2
        have heq : place = p := List.le_antisymm (List.not_lt.1 h2) (List.not_lt.1 h1)
        subst heq
        by_cases h : other = place <;> simp [lookup_cons_eq, h]

theorem lookup_filter (picked : Location → Bool) (place : Location)
    (l : List (Location × Entry)) :
    (l.filter fun x => !picked x.1).lookup place =
      if picked place then none else l.lookup place := by
  induction l with
  | nil => simp
  | cons x rest ih =>
    obtain ⟨p, e⟩ := x
    rw [List.filter_cons, lookup_cons_eq]
    by_cases hp : place = p
    · subst hp
      cases hk : picked place <;> simp [hk, ih]
    · cases hk : picked p <;> simp [ih, lookup_cons_eq, hp]

namespace FileTree

/-! ## What stands where -/

@[simp] theorem get?_nil (tree : FileTree) : tree.get? [] = some .directory := rfl

theorem ne_nil_of_not_directory {tree : FileTree} {place : Location}
    (h : tree.get? place ≠ some .directory) : place ≠ [] := by
  rintro rfl
  exact h rfl

theorem get?_of_ne_nil (tree : FileTree) {place : Location} (h : place ≠ []) :
    tree.get? place = tree.entries.lookup place := by
  simp [get?, h]

theorem get?_set (tree : FileTree) {place : Location} (hp : place ≠ []) (other : Location)
    (entry : Entry) :
    (tree.set place entry).get? other = if other = place then some entry else tree.get? other := by
  by_cases ho : other = []
  · simp [ho, hp.symm]
  · rw [get?_of_ne_nil _ ho, get?_of_ne_nil _ ho]
    exact lookup_insertEntry place other entry tree.entries

theorem get?_remove (tree : FileTree) (picked : Location → Bool) {place : Location}
    (h : place ≠ []) :
    (tree.remove picked).get? place = if picked place then none else tree.get? place := by
  rw [get?_of_ne_nil _ h, get?_of_ne_nil _ h]
  exact lookup_filter picked place tree.entries

theorem get?_erase (tree : FileTree) (place : Location) {other : Location} (h : other ≠ []) :
    (tree.erase place).get? other = if other = place then none else tree.get? other := by
  rw [erase, get?_remove _ _ h]
  simp

theorem get?_erase_of_ne_nil (tree : FileTree) {place : Location} (h : place ≠ [])
    (other : Location) :
    (tree.erase place).get? other = if other = place then none else tree.get? other := by
  by_cases ho : other = []
  · rw [ho, if_neg h.symm, get?_nil, get?_nil]
  · rw [get?_erase _ _ ho]

/-- A location is looked up where it stands. -/
theorem mem_entries_iff_lookup (tree : FileTree) (place : Location) (entry : Entry) :
    (place, entry) ∈ tree.entries ↔ tree.entries.lookup place = some entry := by
  have hsorted := tree.sorted
  revert hsorted
  generalize tree.entries = l
  intro hsorted
  induction l with
  | nil => simp
  | cons x rest ih =>
    obtain ⟨p, e⟩ := x
    obtain ⟨hfirst, hrest⟩ := List.pairwise_cons.1 hsorted
    rw [lookup_cons_eq, List.mem_cons]
    by_cases hp : place = p
    · subst hp
      have hnot : (place, entry) ∉ rest := fun hm => List.lt_irrefl place (hfirst _ hm)
      simp [hnot, eq_comm]
    · simp [hp, ih hrest]

/-- What stands somewhere is one of the entries. -/
theorem mem_entries_iff (tree : FileTree) {place : Location} (h : place ≠ []) (entry : Entry) :
    (place, entry) ∈ tree.entries ↔ tree.get? place = some entry := by
  rw [get?_of_ne_nil _ h, mem_entries_iff_lookup]

/-- Trees in which the same stands everywhere are equal. -/
theorem eq_of_lookup_eq {tree other : FileTree}
    (h : ∀ place, tree.entries.lookup place = other.entries.lookup place) : tree = other := by
  have hsame : ∀ x, x ∈ tree.entries ↔ x ∈ other.entries := by
    rintro ⟨place, entry⟩
    rw [mem_entries_iff_lookup, mem_entries_iff_lookup, h]
  have hnodup : ∀ {l : List (Location × Entry)}, l.Pairwise (fun x y => x.1 < y.1) → l.Nodup := by
    intro l hsorted
    refine hsorted.imp ?_
    rintro x _ hlt rfl
    exact List.lt_irrefl x.1 hlt
  have hentries : tree.entries = other.entries :=
    List.Perm.eq_of_pairwise (fun x y _ _ hxy hyx => absurd hyx (List.lt_asymm hxy)) tree.sorted
      other.sorted ((List.perm_ext_iff_of_nodup (hnodup tree.sorted) (hnodup other.sorted)).2 hsame)
  cases tree
  cases other
  cases hentries
  rfl

/-! ## Names -/

theorem mem_names_iff (tree : FileTree) (place : Location) (name : String) :
    name ∈ tree.names place ↔ (tree.get? (place ++ [name])).isSome := by
  have hne : place ++ [name] ≠ [] := by simp
  unfold names
  rw [List.mem_filterMap]
  constructor
  · rintro ⟨⟨p, e⟩, hm, hname⟩
    simp only [ite_eq_iff, reduceCtorEq, and_false, or_false] at hname
    obtain ⟨hdrop, hlast⟩ := hname
    have hp : p = place ++ [name] := by
      rw [← hdrop]
      exact (List.dropLast_append_getLast? name hlast).symm
    rw [Option.isSome_iff_exists]
    exact ⟨e, (mem_entries_iff tree hne e).1 (hp ▸ hm)⟩
  · intro h
    obtain ⟨e, he⟩ := Option.isSome_iff_exists.1 h
    exact ⟨(place ++ [name], e), (mem_entries_iff tree hne e).2 he, by simp⟩

theorem last_lt_of_append_lt {place : Location} {a b : String}
    (h : place ++ [a] < place ++ [b]) : a < b := by
  induction place with
  | nil =>
    rcases List.cons_lt_cons_iff.1 h with hlt | ⟨_, hlt⟩
    · exact hlt
    · exact absurd hlt (List.not_lt_nil _)
  | cons c place ih => exact ih (List.cons_lt_cons_self.1 h)

/-- The names of a directory come in order, none of them twice. -/
theorem names_sorted (tree : FileTree) (place : Location) :
    (tree.names place).Pairwise (· < ·) := by
  unfold names
  rw [List.pairwise_filterMap]
  refine tree.sorted.imp ?_
  rintro ⟨p, e⟩ ⟨q, f⟩ hlt a ha b hb
  simp only [ite_eq_iff, reduceCtorEq, and_false, or_false] at ha hb
  have hp : p = place ++ [a] := by
    rw [← ha.1]
    exact (List.dropLast_append_getLast? a ha.2).symm
  have hq : q = place ++ [b] := by
    rw [← hb.1]
    exact (List.dropLast_append_getLast? b hb.2).symm
  simp only [hp, hq] at hlt
  exact last_lt_of_append_lt hlt

/-! ## Well-formed trees -/

end FileTree

/-- A text that can be the name of a file. -/
def IsName (name : String) : Prop :=
  name ≠ "" ∧ name ≠ "." ∧ name ≠ ".." ∧ '/' ∉ name.toList

instance (name : String) : Decidable (IsName name) := inferInstanceAs (Decidable (_ ∧ _))

namespace FileTree

/-- All that stands in a tree stands in a directory and has a proper name. -/
structure WellFormed (tree : FileTree) : Prop where
  parent : ∀ place name, (tree.get? (place ++ [name])).isSome → tree.get? place = some .directory
  isName : ∀ place name, (tree.get? (place ++ [name])).isSome → IsName name

/-- An entry stands in a directory and has a proper name. -/
def EntryFits (tree : FileTree) (entry : Location × Entry) : Prop :=
  entry.1 = [] ∨ tree.get? entry.1.dropLast = some .directory ∧ IsName (entry.1.getLast?.getD "")

theorem wellFormed_iff (tree : FileTree) :
    tree.WellFormed ↔ ∀ entry ∈ tree.entries, EntryFits tree entry := by
  constructor
  · rintro h ⟨place, entry⟩ hm
    rcases List.eq_nil_or_concat' place with rfl | ⟨above, name, rfl⟩
    · exact Or.inl rfl
    · have hsome : (tree.get? (above ++ [name])).isSome := by
        rw [(mem_entries_iff tree (by simp) entry).1 hm]
        rfl
      right
      simpa using ⟨h.parent above name hsome, h.isName above name hsome⟩
  · intro h
    have hfits : ∀ place name, (tree.get? (place ++ [name])).isSome →
        tree.get? place = some .directory ∧ IsName name := by
      intro place name hsome
      obtain ⟨entry, he⟩ := Option.isSome_iff_exists.1 hsome
      have hne : place ++ [name] ≠ [] := by simp
      rcases h _ ((mem_entries_iff tree hne entry).2 he) with hnil | hfits
      · exact absurd hnil hne
      · simpa using hfits
    exact ⟨fun place name hs => (hfits place name hs).1,
      fun place name hs => (hfits place name hs).2⟩

instance (tree : FileTree) : Decidable tree.WellFormed :=
  have (entry : Location × Entry) : Decidable (EntryFits tree entry) :=
    inferInstanceAs (Decidable (_ ∨ _))
  decidable_of_iff _ (wellFormed_iff tree).symm

end FileTree

end ProtoRefresh
