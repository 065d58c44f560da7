-- Files that a search finds beside one another. The last step of a search
-- looks for names in one directory, or for one name, so a search that finds
-- a file, and gets to the place of another one beside it in some other way,
-- finds that one beside it too.
import ProtoRefresh.Proofs.Glob.Found

namespace ProtoRefresh.Glob

open FileTree

variable {current : Location} {tree : FileTree}

/-! ## The last step of a search -/

/-- A search goes from directory to directory before its last step. -/
theorem mem_follow_concat (onlyDirectories : Bool) (stages : List Stage) (last : Stage) :
    ∀ {start p : Path}, p ∈ follow tree current onlyDirectories (stages ++ [last]) start ↔
      ∃ middle ∈ follow tree current true stages start,
        p ∈ follow tree current onlyDirectories [last] middle := by
  induction stages with
  | nil =>
    intro start p
    rw [List.nil_append, follow.eq_1 _ _ true]
    simp
  | cons stage rest ih =>
    intro start p
    have hmore : (onlyDirectories || !(rest ++ [last]).isEmpty) = true := by simp
    rw [List.cons_append]
    cases stage with
    | deep =>
      rw [follow, follow, List.mem_eraseDups, List.mem_flatMap]
      simp only [List.mem_eraseDups, List.mem_flatMap, ih]
      constructor
      · rintro ⟨first, hfirst, middle, hmiddle, hp⟩
        exact ⟨middle, ⟨first, hfirst, hmiddle⟩, hp⟩
      · rintro ⟨middle, ⟨first, hfirst, hmiddle⟩, hp⟩
        exact ⟨first, hfirst, middle, hmiddle, hp⟩
    | names pattern =>
      rw [follow_names, follow_names, hmore, Bool.true_or]
      simp only [List.mem_flatMap]
      constructor
      · rintro ⟨name, hname, hp⟩
        split at hp
        · rename_i hmatches
          split at hp
          · rename_i hfits
            obtain ⟨middle, hmiddle, hp⟩ := ih.1 hp
            exact ⟨middle, ⟨name, hname, by rwa [if_pos hmatches, if_pos hfits]⟩, hp⟩
          · cases hp
        · cases hp
      · rintro ⟨middle, ⟨name, hname, hmiddle⟩, hp⟩
        split at hmiddle
        · rename_i hmatches
          split at hmiddle
          · rename_i hfits
            refine ⟨name, hname, ?_⟩
            rw [if_pos hmatches, if_pos hfits]
            exact ih.2 ⟨middle, hmiddle, hp⟩
          · cases hmiddle
        · cases hmiddle
    | exactly name =>
      rw [follow_exactly, follow_exactly, hmore, Bool.true_or]
      split
      · exact ih
      · simp

/-- What a search for directories leads to from a directory is one. -/
theorem isDirectory_of_mem_follow (hwf : tree.WellFormed) (stages : List Stage) :
    ∀ {start p : Path}, tree.isDirectory current start = true →
      p ∈ follow tree current true stages start → tree.isDirectory current p = true := by
  induction stages with
  | nil =>
    intro start p hdir hp
    rw [follow, List.mem_singleton] at hp
    rwa [hp]
  | cons stage rest ih =>
    intro start p hdir hp
    cases stage with
    | deep =>
      rw [follow, List.mem_eraseDups, List.mem_flatMap] at hp
      obtain ⟨first, hfirst, hp⟩ := hp
      refine ih ?_ hp
      rcases (directoriesBelow_isBelow hwf _ hfirst).2 with rfl | hdir'
      · exact hdir
      · exact hdir'
    | names pattern =>
      rw [follow_names, Bool.true_or, List.mem_flatMap] at hp
      obtain ⟨name, _, hp⟩ := hp
      split at hp
      · split at hp
        · rename_i hfits
          exact ih hfits hp
        · cases hp
      · cases hp
    | exactly name =>
      rw [follow_exactly, Bool.true_or] at hp
      split at hp
      · rename_i hfits
        exact ih hfits hp
      · cases hp

/-- A step back out of a directory leads to a directory. -/
theorem isDirectory_child_back (hwf : tree.WellFormed) {p : Path}
    (hdir : tree.isDirectory current p = true) :
    tree.isDirectory current (p.child "..") = true := by
  obtain ⟨hwalks, hget⟩ := isDirectory_iff.1 hdir
  refine isDirectory_iff.2 ⟨walks_snoc.2 ⟨hwalks, hget⟩, ?_⟩
  have hplace : (p.child "..").location current = (p.location current).dropLast :=
    Path.location_snoc p.slashes p.parts ".."
  rw [hplace]
  rcases List.eq_nil_or_concat' (p.location current) with hnil | ⟨above, name, habove⟩
  · rw [hnil, List.dropLast_nil, get?_nil]
  · rw [habove, List.dropLast_concat]
    exact hwf.parent above name (by rw [← habove, hget]; rfl)

theorem not_isDirectory_of_isFile {p : Path} (hfile : tree.isFile current p = true) :
    tree.isDirectory current p ≠ true := by
  intro hdir
  obtain ⟨content, hread⟩ := isFile_iff.1 hfile
  exact ne_of_read hread hdir rfl

/-! ## Files beside one another -/

/-- From two directories that are one place a name pattern leads to the same names. -/
theorem mem_follow_names_beside (hwf : tree.WellFormed) {pattern name : String}
    {middle other p q : Path} (hmiddle : tree.isDirectory current middle = true)
    (hp : p ∈ follow tree current false [.names pattern] middle)
    (hq : q ∈ follow tree current false [.names pattern] other)
    (hqfile : tree.isFile current q = true) (hname : name ≠ "..")
    (hplace : q.location current = (p.parent.child name).location current) :
    p.parent.child name ∈ follow tree current false [.names pattern] middle ∧
      tree.isFile current (p.parent.child name) = true := by
  obtain ⟨first, _, rfl, _, _⟩ := mem_follow_names.1 hp
  obtain ⟨second, hsecond, rfl, hmatches, _⟩ := mem_follow_names.1 hq
  have hparent : (middle.child first).parent = middle := by simp [Path.parent, Path.child]
  rw [hparent] at hplace ⊢
  have hends := hplace
  rw [Path.location_child _ (hwf.isName_of_mem_list hsecond).2.2.1,
    Path.location_child _ hname] at hends
  obtain rfl := List.singleton_inj.1 (List.append_inj' hends rfl).2
  obtain ⟨content, hread⟩ := isFile_iff.1 hqfile
  obtain ⟨_, hget⟩ := read_eq_ok_iff.1 hread
  have hthere : tree.isFile current (middle.child second) = true :=
    isFile_iff.2 ⟨content, read_eq_ok_iff.2
      ⟨walks_snoc.2 (isDirectory_iff.1 hmiddle), hplace ▸ hget⟩⟩
  obtain ⟨hlist, hexists⟩ := mem_list_of_isFile hname hthere
  exact ⟨mem_follow_names.2 ⟨second, hlist, rfl, hmatches, hexists⟩, hthere⟩

/-- From two directories one last step that leads to a file, and to the place of a file beside it,
leads to that one beside the first file. -/
theorem mem_follow_beside (hwf : tree.WellFormed) {last : Stage} {name : String}
    {middle other p q : Path} (hmiddle : tree.isDirectory current middle = true)
    (hother : tree.isDirectory current other = true)
    (hp : p ∈ follow tree current false [last] middle) (hpfile : tree.isFile current p = true)
    (hq : q ∈ follow tree current false [last] other) (hqfile : tree.isFile current q = true)
    (hname : name ≠ "..") (hne : name ≠ p.name)
    (hplace : q.location current = (p.parent.child name).location current) :
    p.parent.child name ∈ follow tree current false [last] middle ∧
      tree.isFile current (p.parent.child name) = true := by
  cases last with
  | deep =>
    rw [follow, List.mem_eraseDups, List.mem_flatMap] at hp
    obtain ⟨first, hfirst, hp⟩ := hp
    rw [follow, List.mem_singleton] at hp
    subst hp
    rcases (directoriesBelow_isBelow hwf _ hfirst).2 with rfl | hdir
    · exact absurd hmiddle (not_isDirectory_of_isFile hpfile)
    · exact absurd hdir (not_isDirectory_of_isFile hpfile)
  | names pattern => exact mem_follow_names_beside hwf hmiddle hp hq hqfile hname hplace
  | exactly last =>
    -- the name is the same from both directories, so the two files are one
    rw [follow_exactly] at hp hq
    split at hp
    · split at hq
      · rw [follow, List.mem_singleton] at hp hq
        subst hp hq
        by_cases hback : last = ".."
        · subst hback
          exact absurd (isDirectory_child_back hwf hother) (not_isDirectory_of_isFile hqfile)
        · rw [Path.name_child] at hne
          rw [Path.location_child _ hback, Path.location_child _ hname] at hplace
          exact absurd (List.singleton_inj.1 (List.append_inj' hplace rfl).2).symm hne
      · cases hq
    · cases hp

/-- A query that finds a file, and leads to the place of a file beside it in some way, finds the
other file beside the first one. -/
theorem Query.mem_files_beside (hwf : tree.WellFormed) {query : Query} {start p q : Path}
    {name : String} (hp : p ∈ query.files tree current start)
    (hq : q ∈ query.files tree current start) (hname : name ≠ "..") (hne : name ≠ p.name)
    (hplace : q.location current = (p.parent.child name).location current) :
    p.parent.child name ∈ query.files tree current start := by
  obtain ⟨hstart, hp, hpfile⟩ := Query.mem_files.1 hp
  obtain ⟨_, hq, hqfile⟩ := Query.mem_files.1 hq
  have hboth : query.directoriesOnly = false := by
    cases hd : query.directoriesOnly with
    | false => rfl
    | true =>
      rw [hd] at hp
      exact absurd (isDirectory_of_mem_follow hwf _ hstart hp) (not_isDirectory_of_isFile hpfile)
  rw [hboth] at hp hq
  refine Query.mem_files.2 ⟨hstart, ?_⟩
  rw [hboth]
  rcases List.eq_nil_or_concat' query.stages with hnil | ⟨stages, last, hstages⟩
  · rw [hnil, follow, List.mem_singleton] at hp
    exact absurd hstart (not_isDirectory_of_isFile (hp ▸ hpfile))
  · rw [hstages] at hp hq ⊢
    obtain ⟨middle, hmiddle, hp⟩ := (mem_follow_concat _ _ _).1 hp
    obtain ⟨other, hother, hq⟩ := (mem_follow_concat _ _ _).1 hq
    obtain ⟨hfound, hfile⟩ := mem_follow_beside hwf
      (isDirectory_of_mem_follow hwf _ hstart hmiddle)
      (isDirectory_of_mem_follow hwf _ hstart hother) hp hpfile hq hqfile hname hne hplace
    exact ⟨(mem_follow_concat _ _ _).2 ⟨middle, hmiddle, hfound⟩, hfile⟩

end ProtoRefresh.Glob
