-- Searches in a tree and in what is left of it when some files below a
-- directory are gone. A search from the directory leads to the same paths
-- but for the files that are gone, and in the same order.
import ProtoRefresh.Glob.Search
import ProtoRefresh.Proofs.FileTree.Thinned

namespace ProtoRefresh

variable {current : Location}

/-! ## Lists with some members left out -/

theorem flatMap_filter_of_nil {α β : Type} {l : List α} {keep : α → Bool} {f : α → List β}
    (h : ∀ a ∈ l, keep a = false → f a = []) : (l.filter keep).flatMap f = l.flatMap f := by
  induction l with
  | nil => rfl
  | cons a l ih =>
    have hrest := ih fun b hb => h b (List.mem_cons_of_mem a hb)
    rw [List.filter_cons, List.flatMap_cons]
    cases hk : keep a with
    | true => rw [if_pos rfl, List.flatMap_cons, hrest]
    | false => rw [if_neg Bool.false_ne_true, hrest, h a List.mem_cons_self hk, List.nil_append]

theorem eraseDups_filter {α : Type} [BEq α] [LawfulBEq α] (l : List α) (keep : α → Bool) :
    (l.filter keep).eraseDups = l.eraseDups.filter keep := by
  cases l with
  | nil => rfl
  | cons a l =>
    have hrest := eraseDups_filter (l.filter fun b => !b == a) keep
    rw [List.filter_filter] at hrest
    rw [List.filter_cons, List.eraseDups_cons, List.filter_cons]
    cases hk : keep a with
    | true =>
      rw [if_pos rfl, if_pos rfl, List.eraseDups_cons, List.filter_filter, ← hrest]
      simp only [Bool.and_comm]
    | false =>
      rw [if_neg Bool.false_ne_true, if_neg Bool.false_ne_true, ← hrest]
      congr 1
      refine List.filter_congr fun b _ => ?_
      by_cases hb : b = a
      · simp [hb, hk]
      · simp [hb]
termination_by l.length
decreasing_by
  have hle := List.length_filter_le (fun b => !b == a) l
  rw [List.length_cons]
  omega

namespace Glob

open FileTree

variable {base : Path} {gone : List Location} {whole tree : FileTree}

/-! ## Directories below a path -/

theorem directoriesBelow_thinned (h : Thinned current base gone whole tree)
    (hwf : whole.WellFormed) (n : Nat) :
    ∀ {p : Path}, p.IsBelow base →
      directoriesBelow tree current n p = directoriesBelow whole current n p := by
  induction n with
  | zero => exact fun _ => rfl
  | succ n ih =>
    intro p hp
    have hchild : ∀ name ∈ whole.list current p, (p.child name).IsBelow base := fun name hn =>
      hp.child (hwf.isName_of_mem_list hn).2.2.1
    unfold directoriesBelow
    rw [h.list_eq hwf hp, flatMap_filter_of_nil]
    · congr 1
      refine List.flatMap_congr fun name hn => ?_
      rw [h.isDirectory_eq (hchild name hn), ih (hchild name hn)]
    · intro name hn hgone
      rw [h.isDirectory_eq (hchild name hn), if_neg]
      intro hdir
      rw [h.kept_of_isDirectory hdir] at hgone
      cases hgone

theorem directoriesBelow_isBelow (hwf : tree.WellFormed) (n : Nat) :
    ∀ {p q : Path}, q ∈ directoriesBelow tree current n p →
      q.IsBelow p ∧ (q = p ∨ tree.isDirectory current q = true) := by
  induction n with
  | zero =>
    intro p q hq
    rw [directoriesBelow, List.mem_singleton] at hq
    exact ⟨hq ▸ .refl p, Or.inl hq⟩
  | succ n ih =>
    intro p q hq
    rw [directoriesBelow, List.mem_cons] at hq
    rcases hq with rfl | hq
    · exact ⟨.refl q, Or.inl rfl⟩
    · obtain ⟨name, hn, hq⟩ := List.mem_flatMap.1 hq
      have hname := (hwf.isName_of_mem_list hn).2.2.1
      split at hq
      · rename_i hdir
        obtain ⟨hbelow, hq⟩ := ih hq
        refine ⟨hbelow.trans ((Path.IsBelow.refl p).child hname), Or.inr ?_⟩
        rcases hq with rfl | hq
        · exact hdir
        · exact hq
      · cases hq

theorem length_le_depth {place : Location} (h : (tree.get? place).isSome) :
    place.length ≤ depth tree := by
  have hfold : ∀ (entries : List (Location × Entry)) (n : Nat),
      n ≤ entries.foldl (fun n entry => max n entry.1.length) n ∧
        ∀ entry ∈ entries,
          entry.1.length ≤ entries.foldl (fun n entry => max n entry.1.length) n := by
    intro entries
    induction entries with
    | nil => exact fun n => ⟨Nat.le_refl n, by simp⟩
    | cons entry rest ih =>
      intro n
      obtain ⟨hstart, hrest⟩ := ih (max n entry.1.length)
      rw [List.foldl_cons]
      refine ⟨by omega, fun other ho => ?_⟩
      rcases List.mem_cons.1 ho with rfl | ho
      · omega
      · exact hrest other ho
  by_cases hnil : place = []
  · simp [hnil]
  · obtain ⟨entry, he⟩ := Option.isSome_iff_exists.1 h
    exact (hfold tree.entries 0).2 _ ((mem_entries_iff tree hnil entry).2 he)

/-- A search that looks deep enough finds no more when it looks deeper. -/
theorem directoriesBelow_deep (hwf : tree.WellFormed) (more : Nat) (n : Nat) :
    ∀ {p : Path}, (∀ place, p.location current <+: place → tree.get? place = some .directory →
        place.length ≤ (p.location current).length + n) →
      directoriesBelow tree current (n + more) p = directoriesBelow tree current n p := by
  induction n with
  | zero =>
    intro p hdeep
    cases more with
    | zero => rfl
    | succ more =>
      have hnone : (tree.list current p).flatMap (fun name =>
          if tree.isDirectory current (p.child name) then
            directoriesBelow tree current more (p.child name)
          else []) = [] := by
        refine List.flatMap_eq_nil_iff.2 fun name hn => if_neg fun hdir => ?_
        obtain ⟨_, hget⟩ := isDirectory_iff.1 hdir
        rw [Path.location_child p (hwf.isName_of_mem_list hn).2.2.1] at hget
        have hle := hdeep _ (List.prefix_append _ _) hget
        rw [List.length_append, List.length_singleton] at hle
        omega
      rw [Nat.zero_add]
      unfold directoriesBelow
      rw [hnone]
  | succ n ih =>
    intro p hdeep
    rw [Nat.succ_add]
    unfold directoriesBelow
    congr 1
    refine List.flatMap_congr fun name hn => ?_
    have hchild : (p.child name).location current = p.location current ++ [name] :=
      Path.location_child p (hwf.isName_of_mem_list hn).2.2.1
    rw [ih]
    intro place hp hget
    rw [hchild] at hp ⊢
    have hle := hdeep place ((List.prefix_append _ _).trans hp) hget
    rw [List.length_append, List.length_singleton]
    omega

/-! ## What a search leads to -/

/-- Whether a search may go on at a path. -/
def fits (tree : FileTree) (current : Location) (onlyDirectories : Bool) (p : Path) : Bool :=
  if onlyDirectories then tree.isDirectory current p else tree.pathExists current p

theorem follow_names (tree : FileTree) (onlyDirectories : Bool) (pattern : String)
    (rest : List Stage) (p : Path) :
    follow tree current onlyDirectories (.names pattern :: rest) p =
      (tree.list current p).flatMap fun name =>
        if nameMatches pattern name then
          if fits tree current (onlyDirectories || !rest.isEmpty) (p.child name) then
            follow tree current onlyDirectories rest (p.child name)
          else []
        else [] := by
  rw [follow]
  refine List.flatMap_congr fun name _ => ?_
  unfold fits
  cases nameMatches pattern name with
  | true => rw [Bool.true_and, if_pos rfl]
  | false => rw [Bool.false_and, if_neg Bool.false_ne_true, if_neg Bool.false_ne_true]

theorem follow_exactly (tree : FileTree) (onlyDirectories : Bool) (name : String)
    (rest : List Stage) (p : Path) :
    follow tree current onlyDirectories (.exactly name :: rest) p =
      if fits tree current (onlyDirectories || !rest.isEmpty) (p.child name) then
        follow tree current onlyDirectories rest (p.child name)
      else [] := by
  rw [follow]
  rfl

/-- A search leads further down when it may not step back. -/
theorem follow_isBelow (hwf : tree.WellFormed) (onlyDirectories : Bool) (stages : List Stage) :
    ∀ {p q : Path}, Stage.exactly ".." ∉ stages →
      q ∈ follow tree current onlyDirectories stages p → q.IsBelow p := by
  induction stages with
  | nil =>
    intro p q _ hq
    rw [follow, List.mem_singleton] at hq
    exact hq ▸ .refl p
  | cons stage rest ih =>
    intro p q hstages hq
    have hstage := List.ne_of_not_mem_cons hstages
    have hrest := List.not_mem_of_not_mem_cons hstages
    cases stage with
    | deep =>
      rw [follow, List.mem_eraseDups] at hq
      obtain ⟨middle, hm, hq⟩ := List.mem_flatMap.1 hq
      exact (ih hrest hq).trans (directoriesBelow_isBelow hwf _ hm).1
    | names pattern =>
      rw [follow_names] at hq
      obtain ⟨name, hn, hq⟩ := List.mem_flatMap.1 hq
      have hname := (hwf.isName_of_mem_list hn).2.2.1
      split at hq
      · split at hq
        · exact (ih hrest hq).trans ((Path.IsBelow.refl p).child hname)
        · cases hq
      · cases hq
    | exactly name =>
      rw [follow_exactly] at hq
      have hname : name ≠ ".." := by
        rintro rfl
        exact hstage rfl
      split at hq
      · exact (ih hrest hq).trans ((Path.IsBelow.refl p).child hname)
      · cases hq

theorem fits_gone (h : Thinned current base gone whole tree) {p : Path} (hp : p.IsBelow base)
    (hgone : kept current gone p = false) (onlyDirectories : Bool) :
    fits tree current onlyDirectories p = false := by
  have hmem : p.location current ∈ gone := by
    by_contra hno
    rw [kept_iff.2 hno] at hgone
    cases hgone
  have hnone : tree.get? (p.location current) = none := by
    rw [h.get?_eq _ hp.leads_down, if_pos hmem]
  unfold fits
  rw [Bool.eq_false_iff]
  split
  · rw [ne_eq, isDirectory_iff, hnone]
    rintro ⟨_, hdir⟩
    cases hdir
  · rw [ne_eq, FileTree.pathExists_iff, hnone]
    rintro ⟨_, hsome⟩
    cases hsome

/-- One step of a search in a thinned tree, when the rest of it is known. -/
theorem follow_step_thinned (h : Thinned current base gone whole tree) {onlyDirectories : Bool}
    {rest : List Stage} {p : Path} (hp : p.IsBelow base)
    (hrest : kept current gone p = true → follow tree current onlyDirectories rest p =
      (follow whole current onlyDirectories rest p).filter (kept current gone)) :
    (if fits tree current (onlyDirectories || !rest.isEmpty) p then
        follow tree current onlyDirectories rest p
      else []) =
    (if fits whole current (onlyDirectories || !rest.isEmpty) p then
        follow whole current onlyDirectories rest p
      else []).filter (kept current gone) := by
  cases hk : kept current gone p with
  | true =>
    have hfits : fits tree current (onlyDirectories || !rest.isEmpty) p =
        fits whole current (onlyDirectories || !rest.isEmpty) p := by
      unfold fits
      split
      · exact h.isDirectory_eq hp
      · rw [Bool.eq_iff_iff, h.pathExists_iff hp, and_iff_right hk]
    rw [hfits, hrest hk]
    split
    · rfl
    · rfl
  | false =>
    rw [fits_gone h hp hk, if_neg Bool.false_ne_true]
    split
    · rename_i hfits
      -- a file that is gone can only have been the end of the search
      cases hd : (onlyDirectories || !rest.isEmpty) with
      | true =>
        rw [fits, hd, if_pos rfl, ← h.isDirectory_eq hp] at hfits
        have hno := fits_gone h hp hk true
        rw [fits, if_pos rfl, hfits] at hno
        cases hno
      | false =>
        rw [Bool.or_eq_false_iff, Bool.not_eq_false', List.isEmpty_iff] at hd
        rw [hd.2, follow, List.filter_cons, if_neg (by simp [hk])]
        rfl
    · rfl

/-- In a thinned tree a search leads to what it leads to in the whole tree, but for what is
gone. -/
theorem follow_thinned (h : Thinned current base gone whole tree) (hwf : whole.WellFormed)
    (onlyDirectories : Bool) (stages : List Stage) :
    ∀ {p : Path}, Stage.exactly ".." ∉ stages → p.IsBelow base → kept current gone p = true →
      follow tree current onlyDirectories stages p =
        (follow whole current onlyDirectories stages p).filter (kept current gone) := by
  induction stages with
  | nil =>
    intro p _ _ hk
    rw [follow, follow, List.filter_cons, if_pos hk]
    rfl
  | cons stage rest ih =>
    intro p hstages hp hk
    have hstage := List.ne_of_not_mem_cons hstages
    have hrest := List.not_mem_of_not_mem_cons hstages
    cases stage with
    | deep =>
      have hdeep : ∀ n, (∀ place, base.location current <+: place →
          whole.get? place = some .directory → place.length ≤ n) → ∀ more,
          directoriesBelow whole current (n + more) p = directoriesBelow whole current n p := by
        intro n hn more
        refine directoriesBelow_deep hwf more n fun place hplace hdir => ?_
        have hle := hn place (hp.leads_down.trans hplace) hdir
        omega
      have hwhole := hdeep (depth whole) (fun place _ hdir =>
        length_le_depth (by rw [hdir]; rfl)) (depth tree)
      have htree := hdeep (depth tree) (fun place hplace hdir =>
        length_le_depth (by rw [(h.directory_iff hplace).2 hdir]; rfl)) (depth whole)
      have hdirectories : directoriesBelow tree current (depth tree) p =
          directoriesBelow whole current (depth whole) p := by
        rw [directoriesBelow_thinned h hwf _ hp, ← htree, ← hwhole, Nat.add_comm]
      rw [follow, follow, hdirectories, ← eraseDups_filter, List.filter_flatMap]
      congr 1
      refine List.flatMap_congr fun q hq => ?_
      obtain ⟨hbelow, hq⟩ := directoriesBelow_isBelow hwf _ hq
      refine ih hrest (hbelow.trans hp) ?_
      rcases hq with rfl | hdir
      · exact hk
      · exact h.kept_of_isDirectory hdir
    | names pattern =>
      rw [follow_names, follow_names, h.list_eq hwf hp, flatMap_filter_of_nil, List.filter_flatMap]
      · refine List.flatMap_congr fun name hn => ?_
        have hchild := hp.child (hwf.isName_of_mem_list hn).2.2.1
        split
        · exact follow_step_thinned h hchild (ih hrest hchild)
        · rfl
      · intro name hn hgone
        have hchild := hp.child (hwf.isName_of_mem_list hn).2.2.1
        rw [fits_gone h hchild hgone, if_neg Bool.false_ne_true, ite_self]
    | exactly name =>
      have hchild : (p.child name).IsBelow base := hp.child (by
        rintro rfl
        exact hstage rfl)
      rw [follow_exactly, follow_exactly]
      exact follow_step_thinned h hchild (ih hrest hchild)

/-! ## Queries -/

theorem Stage.exactly_of_ofName {name other : String}
    (h : Stage.ofName name = .ok (.exactly other)) : other = name := by
  unfold Stage.ofName at h
  split at h
  · cases h
  · split at h
    · cases h
    · split at h
      · cases h
      · cases h
        rfl

/-- A pattern without double dots makes no stage that steps back. -/
theorem Query.noBack_of_ofText {pattern : String} {query : Query}
    (h : Query.ofText pattern = .ok query) (hnoBack : ".." ∉ (Path.ofText pattern).parts) :
    Stage.exactly ".." ∉ query.stages := by
  have hstages : ∀ (parts : List String) (stages : List Stage),
      parts.mapM Stage.ofName = .ok stages → Stage.exactly ".." ∈ stages → ".." ∈ parts := by
    intro parts
    induction parts with
    | nil =>
      intro stages hs hmem
      cases hs
      cases hmem
    | cons part rest ih =>
      intro stages hs hmem
      rw [List.mapM_cons] at hs
      obtain ⟨stage, hstage, hs⟩ := except_bind_eq_ok.1 hs
      obtain ⟨others, hothers, hs⟩ := except_bind_eq_ok.1 hs
      cases hs
      rcases List.mem_cons.1 hmem with rfl | hmem
      · rw [Stage.exactly_of_ofName hstage]
        exact List.mem_cons_self
      · exact List.mem_cons_of_mem _ (ih others hothers hmem)
  unfold Query.ofText at h
  dsimp only at h
  split at h
  · cases h
  obtain ⟨stages, hparts, hquery⟩ := except_bind_eq_ok.1 h
  cases hquery
  exact fun hmem => hnoBack (hstages _ _ hparts hmem)

theorem Query.isBelow_of_mem_files {query : Query} (hwf : tree.WellFormed)
    (hstages : Stage.exactly ".." ∉ query.stages) {start p : Path}
    (hp : p ∈ query.files tree current start) : p.IsBelow start := by
  unfold Query.files Path.sort Query.paths at hp
  rw [List.mem_mergeSort, List.mem_filter] at hp
  obtain ⟨hp, _⟩ := hp
  split at hp
  · exact follow_isBelow hwf _ _ hstages hp
  · cases hp

/-- The files that a query finds are files. -/
theorem Query.isFile_of_mem_files {query : Query} {start p : Path}
    (hp : p ∈ query.files tree current start) : tree.isFile current p = true := by
  unfold Query.files Path.sort at hp
  rw [List.mem_mergeSort, List.mem_filter] at hp
  exact hp.2

/-- A query finds files only from a directory. -/
theorem Query.isDirectory_of_mem_files {query : Query} {start p : Path}
    (hp : p ∈ query.files tree current start) : tree.isDirectory current start = true := by
  unfold Query.files Path.sort Query.paths at hp
  rw [List.mem_mergeSort, List.mem_filter] at hp
  obtain ⟨hp, _⟩ := hp
  split at hp
  · assumption
  · cases hp

/-- In a thinned tree a query finds the files that it finds in the whole tree, but for those that
are gone. -/
theorem Query.files_thinned {query : Query} (h : Thinned current base gone whole tree)
    (hwf : whole.WellFormed) (hstages : Stage.exactly ".." ∉ query.stages)
    (hbase : kept current gone base = true) :
    query.files tree current base =
      (query.files whole current base).filter (kept current gone) := by
  have hpaths : query.paths tree current base =
      (query.paths whole current base).filter (kept current gone) := by
    unfold Query.paths
    rw [h.isDirectory_eq (.refl base)]
    split
    · exact follow_thinned h hwf _ _ hstages (.refl base) hbase
    · rfl
  have hbelow : ∀ p ∈ query.paths whole current base, p.IsBelow base := by
    intro p hp
    unfold Query.paths at hp
    split at hp
    · exact follow_isBelow hwf _ _ hstages hp
    · cases hp
  have hslashes : ∀ p ∈ (query.paths whole current base).filter (whole.isFile current),
      p.slashes = base.slashes := by
    intro p hp
    obtain ⟨names, _, rfl⟩ := hbelow p (List.mem_filter.1 hp).1
    rfl
  unfold Query.files
  rw [hpaths, ← Path.sort_filter hslashes, List.filter_filter, List.filter_filter]
  congr 1
  refine List.filter_congr fun p hp => ?_
  rw [Bool.eq_iff_iff, Bool.and_eq_true, Bool.and_eq_true, h.isFile_iff (hbelow p hp)]
  exact ⟨fun hf => hf.1, fun hf => ⟨hf, hf.1⟩⟩

/-! ## Searches as actions -/

open ProtoRefresh.Action

theorem gives_searchBelow {host after : Host} {start : Path} {pattern : String}
    {found : List Path} :
    Gives (searchBelow start pattern) host found after ↔
      ∃ query, Query.ofText pattern = .ok query ∧
        ({ query with stages := .deep :: query.stages } : Query).files host.tree host.current
          start = found ∧ after = host := by
  unfold searchBelow
  rw [gives_bind]
  constructor
  · rintro ⟨query, _, hread, hfound⟩
    obtain ⟨hquery, rfl⟩ := gives_ofExcept.1 hread
    rw [gives_get_bind, gives_pure] at hfound
    exact ⟨query, except_mapError_eq_ok.1 hquery, hfound⟩
  · rintro ⟨query, hquery, hfound⟩
    refine ⟨query, host, gives_ofExcept.2 ⟨except_mapError_eq_ok.2 hquery, rfl⟩, ?_⟩
    rw [gives_get_bind, gives_pure]
    exact hfound

end Glob

end ProtoRefresh
