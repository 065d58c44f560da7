-- The basic changes of a tree, by what stands where before and after. Each
-- of them keeps a tree well formed, as long as the paths that it is given
-- are made of proper names and double dots.
import ProtoRefresh.Proofs.FileTree.Walk

namespace ProtoRefresh

variable {current : Location}

/-! ## Proper paths -/

/-- All names of a location are proper. -/
def Location.Proper (place : Location) : Prop := ∀ name ∈ place, IsName name

/-- A path as every path is that a text spells: it has two leading slashes at most, and is made of
proper names and double dots. -/
structure Path.Proper (p : Path) : Prop where
  slashes : p.slashes ≤ 2
  part : ∀ part ∈ p.parts, part = ".." ∨ IsName part

instance (place : Location) : Decidable place.Proper :=
  inferInstanceAs (Decidable (∀ name ∈ place, IsName name))

instance (p : Path) : Decidable p.Proper :=
  decidable_of_iff (p.slashes ≤ 2 ∧ ∀ part ∈ p.parts, part = ".." ∨ IsName part)
    ⟨fun h => ⟨h.1, h.2⟩, fun h => ⟨h.slashes, h.part⟩⟩

theorem Location.Proper.after {place : Location} (h : place.Proper) {part : String}
    (hp : part = ".." ∨ IsName part) : (place.after part).Proper := by
  unfold Location.after
  split
  · exact fun name hn => h name (place.dropLast_subset hn)
  · rename_i hne
    intro name hn
    rcases List.mem_append.1 hn with hn | hn
    · exact h name hn
    · rw [List.mem_singleton.1 hn]
      exact hp.resolve_left hne

theorem Path.location_proper {p : Path} (h : ∀ part ∈ p.parts, part = ".." ∨ IsName part)
    (hc : current.Proper) : (p.location current).Proper := by
  obtain ⟨slashes, parts⟩ := p
  induction parts using List.reverseRecOn with
  | nil =>
    rw [Path.location_eq]
    simp only [List.foldl_nil]
    split
    · exact fun name hn => by simp at hn
    · exact hc
  | append_singleton parts part ih =>
    rw [Path.location_snoc]
    refine (ih fun x hx => h x (List.mem_append_left _ hx)).after (h part (by simp))

theorem Path.Proper.location {p : Path} (h : p.Proper) (hc : current.Proper) :
    (p.location current).Proper := location_proper h.part hc

theorem Path.Proper.parent {p : Path} (h : p.Proper) : p.parent.Proper :=
  ⟨h.slashes, fun part hpart => h.part part (List.dropLast_subset _ hpart)⟩

namespace FileTree

/-! ## What a change finds -/

theorem placeForFile_eq_ok_iff {tree : FileTree} {p : Path} {place : Location} :
    tree.placeForFile current p = .ok place ↔
      tree.Walks current p ∧ place = p.location current ∧
        ((∃ content, tree.get? place = some (.file content)) ∨
          tree.get? place = none ∧ tree.get? place.dropLast = some .directory) := by
  unfold placeForFile
  rw [except_bind_eq_ok]
  constructor
  · rintro ⟨found, hl, h⟩
    obtain ⟨hw, rfl⟩ := locate_eq_ok_iff.1 hl
    cases hg : tree.get? (p.location current) with
    | none =>
      simp only [hg] at h
      obtain ⟨_, hdir, hp⟩ := except_bind_eq_ok.1 h
      cases hp
      exact ⟨hw, rfl, Or.inr ⟨hg, requireDirectory_eq_ok_iff.1 hdir⟩⟩
    | some entry =>
      cases entry with
      | directory =>
        simp only [hg] at h
        cases h
      | file content =>
        simp only [hg] at h
        cases h
        exact ⟨hw, rfl, Or.inl ⟨content, hg⟩⟩
  · rintro ⟨hw, rfl, ⟨content, hg⟩ | ⟨hg, hdir⟩⟩
    · refine ⟨_, locate_eq_ok_iff.2 ⟨hw, rfl⟩, ?_⟩
      simp only [hg]
      rfl
    · refine ⟨_, locate_eq_ok_iff.2 ⟨hw, rfl⟩, ?_⟩
      simp only [hg]
      exact except_bind_eq_ok.2 ⟨(), requireDirectory_eq_ok_iff.2 hdir, rfl⟩

theorem write_eq_ok_iff {tree after : FileTree} {p : Path} {content : Content} :
    tree.write current p content = .ok after ↔
      tree.placeForFile current p = .ok (p.location current) ∧
        after = tree.set (p.location current) (.file content) := by
  unfold write
  rw [except_bind_eq_ok]
  constructor
  · rintro ⟨place, hp, h⟩
    obtain ⟨_, rfl, _⟩ := placeForFile_eq_ok_iff.1 hp
    cases h
    exact ⟨hp, rfl⟩
  · rintro ⟨hp, rfl⟩
    exact ⟨_, hp, rfl⟩

theorem rename_eq_ok_iff {tree after : FileTree} {source target : Path} :
    tree.rename current source target = .ok after ↔
      ∃ content, tree.read current source = .ok content ∧
        tree.placeForFile current target = .ok (target.location current) ∧
        after = (tree.erase (source.location current)).set (target.location current)
          (.file content) := by
  unfold rename
  rw [except_bind_eq_ok]
  constructor
  · rintro ⟨place, hl, h⟩
    obtain ⟨hw, rfl⟩ := locate_eq_ok_iff.1 hl
    cases hg : tree.get? (source.location current) with
    | none =>
      simp only [hg] at h
      cases h
    | some entry =>
      cases entry with
      | directory =>
        simp only [hg] at h
        cases h
      | file content =>
        simp only [hg] at h
        obtain ⟨other, hp, ho⟩ := except_bind_eq_ok.1 h
        obtain ⟨_, rfl, _⟩ := placeForFile_eq_ok_iff.1 hp
        cases ho
        exact ⟨content, read_eq_ok_iff.2 ⟨hw, hg⟩, hp, rfl⟩
  · rintro ⟨content, hread, hp, rfl⟩
    obtain ⟨hw, hg⟩ := read_eq_ok_iff.1 hread
    refine ⟨_, locate_eq_ok_iff.2 ⟨hw, rfl⟩, ?_⟩
    simp only [hg]
    exact except_bind_eq_ok.2 ⟨_, hp, rfl⟩

theorem makeDirectory_eq_ok_iff {tree after : FileTree} {p : Path} :
    tree.makeDirectory current p = .ok after ↔
      tree.Walks current p ∧ tree.get? (p.location current) = none ∧
        tree.get? (p.location current).dropLast = some .directory ∧
        after = tree.set (p.location current) .directory := by
  unfold makeDirectory
  rw [except_bind_eq_ok]
  constructor
  · rintro ⟨place, hl, h⟩
    obtain ⟨hw, rfl⟩ := locate_eq_ok_iff.1 hl
    cases hg : tree.get? (p.location current) with
    | some entry =>
      simp only [hg] at h
      cases h
    | none =>
      simp only [hg] at h
      obtain ⟨_, hdir, ho⟩ := except_bind_eq_ok.1 h
      cases ho
      exact ⟨hw, rfl, requireDirectory_eq_ok_iff.1 hdir, rfl⟩
  · rintro ⟨hw, hg, hdir, rfl⟩
    refine ⟨_, locate_eq_ok_iff.2 ⟨hw, rfl⟩, ?_⟩
    simp only [hg]
    exact except_bind_eq_ok.2 ⟨(), requireDirectory_eq_ok_iff.2 hdir, rfl⟩

theorem not_directory_of_placeForFile {tree : FileTree} {p : Path} {place : Location}
    (h : tree.placeForFile current p = .ok place) : tree.get? place ≠ some .directory := by
  obtain ⟨_, _, ⟨content, hfile⟩ | ⟨hnone, _⟩⟩ := placeForFile_eq_ok_iff.1 h
  · simp [hfile]
  · simp [hnone]

/-- After a file is written it is there, and all else is as it was. -/
theorem get?_of_write {tree after : FileTree} {p : Path} {content : Content}
    (h : tree.write current p content = .ok after) (place : Location) :
    after.get? place =
      if place = p.location current then some (.file content) else tree.get? place := by
  obtain ⟨hplace, rfl⟩ := write_eq_ok_iff.1 h
  rw [get?_set _ (ne_nil_of_not_directory (not_directory_of_placeForFile hplace))]

/-- After a move the file is at the target and gone from the source, and all else is as it was. -/
theorem get?_of_rename {tree after : FileTree} {source target : Path}
    (h : tree.rename current source target = .ok after) :
    ∃ content, tree.read current source = .ok content ∧ tree.Walks current target ∧
      tree.get? (target.location current) ≠ some .directory ∧
      ∀ place, after.get? place =
        if place = target.location current then some (.file content)
        else if place = source.location current then none
        else tree.get? place := by
  obtain ⟨content, hread, hplace, rfl⟩ := rename_eq_ok_iff.1 h
  obtain ⟨_, hfile⟩ := read_eq_ok_iff.1 hread
  have hwalks := (placeForFile_eq_ok_iff.1 hplace).1
  have hat : tree.get? (source.location current) ≠ some .directory := by simp [hfile]
  have hsource := ne_nil_of_not_directory hat
  have hno := not_directory_of_placeForFile hplace
  refine ⟨content, hread, hwalks, hno, fun place => ?_⟩
  rw [get?_set _ (ne_nil_of_not_directory hno), get?_erase_of_ne_nil _ hsource]

theorem directory_stays_of_rename {tree after : FileTree} {source target : Path}
    (h : tree.rename current source target = .ok after) (place : Location)
    (hdir : tree.get? place = some .directory) : after.get? place = some .directory := by
  obtain ⟨content, hread, _, hno, hget⟩ := get?_of_rename h
  rw [hget, if_neg, if_neg, hdir]
  · rintro rfl
    rw [(read_eq_ok_iff.1 hread).2] at hdir
    cases hdir
  · rintro rfl
    exact hno hdir

/-! ## Changes of a well-formed tree -/

/-- An entry may come into a directory under a proper name, but no file in place of a directory. -/
theorem WellFormed.set {tree : FileTree} (h : tree.WellFormed) {place : Location} {name : String}
    {entry : Entry} (hdir : tree.get? place = some .directory) (hname : IsName name)
    (hentry : entry = .directory ∨ tree.get? (place ++ [name]) ≠ some .directory) :
    (tree.set (place ++ [name]) entry).WellFormed := by
  have hne : place ++ [name] ≠ [] := by simp
  have hget := get?_set tree hne
  constructor
  · intro above below hs
    rw [hget] at hs ⊢
    by_cases hb : above ++ [below] = place ++ [name]
    · obtain ⟨rfl, _⟩ := List.append_inj' hb rfl
      rw [if_neg (by simp), hdir]
    · rw [if_neg hb] at hs
      have habove := h.parent above below hs
      by_cases ha : above = place ++ [name]
      · rw [if_pos ha]
        rcases hentry with rfl | hno
        · rfl
        · exact absurd (ha ▸ habove) hno
      · rw [if_neg ha, habove]
  · intro above below hs
    rw [hget] at hs
    by_cases hb : above ++ [below] = place ++ [name]
    · obtain ⟨_, hlast⟩ := List.append_inj' hb rfl
      rw [List.singleton_inj.1 hlast]
      exact hname
    · rw [if_neg hb] at hs
      exact h.isName above below hs

/-- What goes has to go with all that is in it. -/
theorem WellFormed.remove {tree : FileTree} (h : tree.WellFormed) {picked : Location → Bool}
    (hbelow : ∀ place name, picked place = true → (tree.get? (place ++ [name])).isSome →
      picked (place ++ [name]) = true) : (tree.remove picked).WellFormed := by
  have hkept : ∀ place name, ((tree.remove picked).get? (place ++ [name])).isSome →
      picked (place ++ [name]) = false ∧ (tree.get? (place ++ [name])).isSome := by
    intro place name hs
    rw [get?_remove _ _ (by simp)] at hs
    cases hp : picked (place ++ [name]) with
    | true => simp [hp] at hs
    | false => exact ⟨rfl, by simpa [hp] using hs⟩
  constructor
  · intro place name hs
    obtain ⟨hp, hs⟩ := hkept place name hs
    by_cases hnil : place = []
    · rw [hnil, get?_nil]
    · rw [get?_remove _ _ hnil, if_neg, h.parent place name hs]
      intro hpick
      rw [hbelow place name hpick hs] at hp
      cases hp
  · intro place name hs
    exact h.isName place name (hkept place name hs).2

theorem WellFormed.eraseBelow {tree : FileTree} (h : tree.WellFormed) (place : Location) :
    (tree.eraseBelow place).WellFormed := by
  refine h.remove fun above name hp _ => ?_
  rw [List.isPrefixOf_iff_prefix] at hp ⊢
  exact hp.trans (List.prefix_append _ _)

/-- Something may go when nothing is in it. -/
theorem WellFormed.erase {tree : FileTree} (h : tree.WellFormed) {place : Location}
    (hempty : ∀ name, tree.get? (place ++ [name]) = none) : (tree.erase place).WellFormed := by
  refine h.remove fun above name hp hs => ?_
  obtain rfl : above = place := by simpa using hp
  simp [hempty name] at hs

theorem WellFormed.not_in_file {tree : FileTree} (h : tree.WellFormed) {place : Location}
    (hplace : tree.get? place ≠ some .directory) (name : String) :
    tree.get? (place ++ [name]) = none := by
  by_contra hs
  exact hplace (h.parent place name (Option.isSome_iff_ne_none.2 hs))

/-! ## Directories on the way to a location -/

/-- A well-formed tree stays so when directories are made on the way to a location, and they are
there then. -/
theorem WellFormed.withDirectories {tree : FileTree} (h : tree.WellFormed) {place : Location}
    (hp : place.Proper) : (tree.withDirectories place).WellFormed ∧
      (tree.withDirectories place).get? place = some .directory := by
  -- after the first n steps the first n names lead to a directory
  have hsteps : ∀ n ≤ place.length, ∀ made : FileTree,
      (List.range n).foldl (fun tree n =>
        let above := place.take (n + 1)
        if tree.isDirectoryAt above then tree else tree.set above .directory) tree = made →
      made.WellFormed ∧ made.get? (place.take n) = some .directory := by
    intro n
    induction n with
    | zero =>
      rintro _ made rfl
      exact ⟨h, rfl⟩
    | succ n ih =>
      rintro hn made rfl
      obtain ⟨hwf, hdir⟩ := ih (by omega) _ rfl
      rw [List.range_succ, List.foldl_append, List.foldl_cons, List.foldl_nil]
      simp only
      split
      · rename_i hthere
        exact ⟨hwf, by simpa [isDirectoryAt] using hthere⟩
      · have htake : place.take (n + 1) = place.take n ++ [place[n]] := by simp
        rw [htake]
        refine ⟨hwf.set hdir (hp _ (List.getElem_mem _)) (Or.inl rfl), ?_⟩
        rw [get?_set _ (List.append_ne_nil_of_right_ne_nil _ (List.cons_ne_nil _ _)), if_pos rfl]
  have hall := hsteps place.length (Nat.le_refl _) _ rfl
  rwa [List.take_length] at hall

theorem WellFormed.withFile {tree : FileTree} (h : tree.WellFormed) {place : Location}
    (hp : place.Proper) (content : Content) : (tree.withFile place content).WellFormed := by
  unfold FileTree.withFile
  have habove : Location.Proper place.dropLast := fun name hn => hp name (place.dropLast_subset hn)
  obtain ⟨hwf, hdir⟩ := h.withDirectories habove
  have hgone := hwf.eraseBelow place
  rcases List.eq_nil_or_concat' place with rfl | ⟨above, name, rfl⟩
  · -- the root stays a directory whatever is put in its place
    have hroot : ∀ place name, ((((tree.withDirectories [].dropLast).eraseBelow []).set []
        (.file content)).get? (place ++ [name])).isSome → False := by
      intro place name hs
      rw [get?_of_ne_nil _ (by simp)] at hs
      unfold FileTree.set at hs
      rw [lookup_insertEntry, if_neg (by simp), ← get?_of_ne_nil _ (by simp),
        FileTree.eraseBelow, get?_remove _ _ (by simp)] at hs
      simp at hs
    exact ⟨fun place name hs => (hroot place name hs).elim,
      fun place name hs => (hroot place name hs).elim⟩
  · rw [List.dropLast_concat] at hdir hgone ⊢
    refine hgone.set ?_ (hp name (by simp)) (Or.inr ?_)
    · by_cases hnil : above = []
      · rw [hnil, get?_nil]
      · rw [FileTree.eraseBelow, get?_remove _ _ hnil, if_neg, hdir]
        intro hpre
        have hle := (List.isPrefixOf_iff_prefix.1 hpre).length_le
        rw [List.length_append, List.length_singleton] at hle
        omega
    · rw [FileTree.eraseBelow, get?_remove _ _ (by simp), if_pos (by simp)]
      simp

/-! ## Files written and moved -/

/-- All that stands in a well-formed tree has a proper location. -/
theorem WellFormed.proper {tree : FileTree} (h : tree.WellFormed) {place : Location}
    (hs : (tree.get? place).isSome) : place.Proper := by
  induction place using List.reverseRecOn with
  | nil => exact fun name hn => by simp at hn
  | append_singleton above name ih =>
    intro other ho
    rcases List.mem_append.1 ho with ho | ho
    · exact ih (by rw [h.parent above name hs]; rfl) other ho
    · rw [List.mem_singleton.1 ho]
      exact h.isName above name hs

/-- A file may come where one is or could be. -/
theorem WellFormed.set_file {tree : FileTree} (h : tree.WellFormed) {p : Path} {place : Location}
    (hplace : tree.placeForFile current p = .ok place) (hp : place.Proper) (content : Content) :
    (tree.set place (.file content)).WellFormed := by
  obtain ⟨_, _, hfree⟩ := placeForFile_eq_ok_iff.1 hplace
  rcases List.eq_nil_or_concat' place with rfl | ⟨above, name, rfl⟩
  · simp at hfree
  · refine h.set ?_ (hp name (by simp)) (Or.inr ?_)
    · rcases hfree with ⟨old, hold⟩ | ⟨_, hdir⟩
      · exact h.parent above name (by rw [hold]; rfl)
      · rwa [List.dropLast_concat] at hdir
    · rcases hfree with ⟨old, hold⟩ | ⟨hnone, _⟩
      · simp [hold]
      · simp [hnone]

theorem WellFormed.write {tree after : FileTree} (h : tree.WellFormed) {p : Path}
    {content : Content} (hp : (p.location current).Proper)
    (hw : tree.write current p content = .ok after) : after.WellFormed := by
  obtain ⟨hplace, rfl⟩ := write_eq_ok_iff.1 hw
  exact h.set_file hplace hp content

theorem WellFormed.rename {tree after : FileTree} (h : tree.WellFormed) {source target : Path}
    (hp : (target.location current).Proper)
    (hr : tree.rename current source target = .ok after) : after.WellFormed := by
  obtain ⟨content, hread, hplace, rfl⟩ := rename_eq_ok_iff.1 hr
  obtain ⟨_, hsource⟩ := read_eq_ok_iff.1 hread
  have hne : tree.get? (source.location current) ≠ some .directory := by simp [hsource]
  -- nothing but a file goes, so the place for the target is as good as before
  have hkept : ∀ place, tree.get? place = some .directory →
      (tree.erase (source.location current)).get? place = some .directory := by
    intro place hdir
    by_cases hnil : place = []
    · rw [hnil, get?_nil]
    · rw [get?_erase _ _ hnil, if_neg, hdir]
      rintro rfl
      exact hne hdir
  obtain ⟨_, _, hfree⟩ := placeForFile_eq_ok_iff.1 hplace
  generalize target.location current = place at hp hfree
  have hgone := h.erase (h.not_in_file hne)
  rcases List.eq_nil_or_concat' place with rfl | ⟨above, name, rfl⟩
  · simp at hfree
  · refine hgone.set (hkept above ?_) (hp name (by simp)) (Or.inr ?_)
    · rcases hfree with ⟨old, hold⟩ | ⟨_, hdir⟩
      · exact h.parent above name (by rw [hold]; rfl)
      · rwa [List.dropLast_concat] at hdir
    · rw [get?_erase _ _ (by simp)]
      split
      · simp
      · rcases hfree with ⟨old, hold⟩ | ⟨hnone, _⟩
        · simp [hold]
        · simp [hnone]

/-! ## Directories made with those above them -/

variable (current) in
/-- A directory is there, or it is made after those above it. -/
inductive Makes : Path → FileTree → FileTree → Prop
  | there {p : Path} {tree : FileTree} (h : tree.isDirectory current p = true) : Makes p tree tree
  | made {p : Path} {tree after : FileTree} (h : tree.makeDirectory current p = .ok after) :
      Makes p tree after
  | above {p : Path} {tree middle after : FileTree} (first : Makes p.parent tree middle)
      (rest : Makes p middle after) : Makes p tree after

/-- Only directories come, each of them where a part of the path leads and nothing was. -/
theorem Makes.get? {p : Path} {tree after : FileTree} (h : Makes current p tree after)
    (place : Location) : after.get? place = tree.get? place ∨
      tree.get? place = none ∧ after.get? place = some .directory ∧
        ∃ k, place = (⟨p.slashes, p.parts.take k⟩ : Path).location current := by
  induction h with
  | there h => exact Or.inl rfl
  | @made p tree after h =>
    obtain ⟨_, hnone, _, rfl⟩ := makeDirectory_eq_ok_iff.1 h
    have hno : tree.get? (p.location current) ≠ some .directory := by simp [hnone]
    have hne := ne_nil_of_not_directory hno
    rw [get?_set _ hne]
    by_cases hp : place = p.location current
    · refine Or.inr ⟨hp ▸ hnone, if_pos hp, p.parts.length, ?_⟩
      rw [List.take_length]
      exact hp
    · exact Or.inl (if_neg hp)
  | @above p tree middle after _ _ ihfirst ihrest =>
    rcases ihrest with hrest | ⟨hnone, hdir, hk⟩
    · rcases ihfirst with hfirst | ⟨hnone, hdir, k, hk⟩
      · exact Or.inl (hrest.trans hfirst)
      · refine Or.inr ⟨hnone, hrest.trans hdir, min k (p.parts.length - 1), ?_⟩
        rw [hk, Path.parent, List.dropLast_eq_take, List.take_take]
    · rcases ihfirst with hfirst | ⟨_, hdir', _⟩
      · exact Or.inr ⟨hfirst ▸ hnone, hdir, hk⟩
      · rw [hnone] at hdir'
        cases hdir'

theorem Makes.directory_stays {p : Path} {tree after : FileTree} (h : Makes current p tree after)
    (place : Location) (hdir : tree.get? place = some .directory) :
    after.get? place = some .directory := by
  rcases h.get? place with hsame | ⟨_, hnew, _⟩
  · rw [hsame, hdir]
  · exact hnew

theorem Makes.isDirectory {p : Path} {tree after : FileTree} (h : Makes current p tree after) :
    after.isDirectory current p = true := by
  induction h with
  | there h => exact h
  | @made p tree after h =>
    have hstays := (Makes.made h).directory_stays
    obtain ⟨hwalks, hnone, _, rfl⟩ := makeDirectory_eq_ok_iff.1 h
    have hno : tree.get? (p.location current) ≠ some .directory := by simp [hnone]
    have hne := ne_nil_of_not_directory hno
    refine isDirectory_iff.2 ⟨hwalks.mono hstays, ?_⟩
    rw [get?_set _ hne, if_pos rfl]
  | above _ _ _ ih => exact ih

theorem Makes.wellFormed {p : Path} {tree after : FileTree} (h : Makes current p tree after)
    (hwf : tree.WellFormed) (hc : current.Proper) (hp : p.Proper) : after.WellFormed := by
  induction h with
  | there h => exact hwf
  | @made p tree after h =>
    obtain ⟨_, hnone, hdir, rfl⟩ := makeDirectory_eq_ok_iff.1 h
    have hproper := hp.location hc
    revert hnone hdir hproper
    generalize p.location current = place
    intro hnone hdir hproper
    rcases List.eq_nil_or_concat' place with rfl | ⟨above, name, rfl⟩
    · simp at hnone
    · rw [List.dropLast_concat] at hdir
      exact hwf.set hdir (hproper name (by simp)) (Or.inl rfl)
  | above _ _ ihfirst ihrest =>
    exact ihrest (ihfirst hwf hp.parent) hp

end FileTree

end ProtoRefresh
