-- What searches find. A search leads to a path once, so the files that it
-- finds come in strict order; and a search below a directory misses no
-- file there that has a fitting name.
import Mathlib.Data.List.Nodup
import ProtoRefresh.Proofs.Glob.Search

namespace ProtoRefresh

variable {current : Location} {tree : FileTree}

theorem nodup_eraseDups {α : Type} [BEq α] [LawfulBEq α] (l : List α) : l.eraseDups.Nodup := by
  cases l with
  | nil => exact List.nodup_nil
  | cons a l =>
    rw [List.eraseDups_cons, List.nodup_cons, List.mem_eraseDups, List.mem_filter]
    exact ⟨by simp, nodup_eraseDups _⟩
termination_by l.length
decreasing_by
  have hle := List.length_filter_le (fun b => !b == a) l
  rw [List.length_cons]
  omega

/-- Paths with one root are told apart by their order. -/
theorem Path.key_lt_of_le {p q : Path} (hslashes : p.slashes = q.slashes) (hle : p.le q = true)
    (hne : p ≠ q) : p.key < q.key := by
  by_contra hnot
  refine hne (le_antisymm hslashes hle ?_)
  rw [le, Bool.not_eq_true', decide_eq_false_iff_not]
  exact hnot

namespace Glob

open FileTree

/-! ## Each path once -/

theorem directoriesBelow_eq_below (n : Nat) :
    ∀ {p q : Path}, q ∈ directoriesBelow tree current n p → ∃ names, q = p.below names := by
  induction n with
  | zero =>
    intro p q hq
    rw [directoriesBelow, List.mem_singleton] at hq
    exact ⟨[], by rw [hq, Path.below_nil]⟩
  | succ n ih =>
    intro p q hq
    rw [directoriesBelow, List.mem_cons] at hq
    rcases hq with rfl | hq
    · exact ⟨[], (Path.below_nil q).symm⟩
    · obtain ⟨name, _, hq⟩ := List.mem_flatMap.1 hq
      split at hq
      · obtain ⟨names, rfl⟩ := ih hq
        exact ⟨[name] ++ names, Path.below_below p [name] names⟩
      · cases hq

/-- A search only adds to the path that it starts from. -/
theorem follow_eq_below (onlyDirectories : Bool) (stages : List Stage) :
    ∀ {p q : Path}, q ∈ follow tree current onlyDirectories stages p →
      ∃ names, q = p.below names := by
  induction stages with
  | nil =>
    intro p q hq
    rw [follow, List.mem_singleton] at hq
    exact ⟨[], by rw [hq, Path.below_nil]⟩
  | cons stage rest ih =>
    intro p q hq
    have hchild : ∀ {name : String}, q ∈ follow tree current onlyDirectories rest (p.child name) →
        ∃ names, q = p.below names := by
      intro name hq
      obtain ⟨names, rfl⟩ := ih hq
      exact ⟨[name] ++ names, Path.below_below p [name] names⟩
    cases stage with
    | deep =>
      rw [follow, List.mem_eraseDups] at hq
      obtain ⟨middle, hm, hq⟩ := List.mem_flatMap.1 hq
      obtain ⟨names, rfl⟩ := directoriesBelow_eq_below _ hm
      obtain ⟨more, rfl⟩ := ih hq
      exact ⟨names ++ more, Path.below_below p names more⟩
    | names pattern =>
      rw [follow_names] at hq
      obtain ⟨name, _, hq⟩ := List.mem_flatMap.1 hq
      split at hq
      · split at hq
        · exact hchild hq
        · cases hq
      · cases hq
    | exactly name =>
      rw [follow_exactly] at hq
      split at hq
      · exact hchild hq
      · cases hq

theorem list_sorted (p : Path) : (tree.list current p).Pairwise (· < ·) := by
  rw [list_eq]
  split
  · exact names_sorted tree _
  · exact List.Pairwise.nil

theorem follow_nodup (onlyDirectories : Bool) (stages : List Stage) :
    ∀ p : Path, (follow tree current onlyDirectories stages p).Nodup := by
  induction stages with
  | nil =>
    intro p
    rw [follow]
    exact List.nodup_singleton p
  | cons stage rest ih =>
    intro p
    cases stage with
    | deep =>
      rw [follow]
      exact nodup_eraseDups _
    | names pattern =>
      rw [follow_names, List.nodup_flatMap]
      refine ⟨fun name _ => ?_, ?_⟩
      · split
        · split
          · exact ih _
          · exact List.nodup_nil
        · exact List.nodup_nil
      · -- what is below one name is not below another one
        have hbelow : ∀ (name : String) (q : Path), q ∈ (if nameMatches pattern name then
            if fits tree current (onlyDirectories || !rest.isEmpty) (p.child name) then
              follow tree current onlyDirectories rest (p.child name)
            else []
            else []) → q.parts[p.parts.length]? = some name := by
          intro name q hq
          split at hq
          · split at hq
            · obtain ⟨names, rfl⟩ := follow_eq_below onlyDirectories rest hq
              simp [Path.below, Path.child]
            · cases hq
          · cases hq
        refine (list_sorted p).imp fun {a b} hlt q ha hb => ?_
        have heq := (hbelow a q ha).symm.trans (hbelow b q hb)
        cases heq
        exact String.lt_irrefl a hlt
    | exactly name =>
      rw [follow_exactly]
      split
      · exact ih _
      · exact List.nodup_nil

/-- The files that a query finds come in strict order. -/
theorem Query.files_sorted (query : Query) (start : Path) :
    (query.files tree current start).Pairwise fun p q => p.key < q.key := by
  unfold Query.files
  have hpaths : (query.paths tree current start).Nodup := by
    unfold Query.paths
    split
    · exact follow_nodup _ _ _
    · exact List.nodup_nil
  have hslashes : ∀ p ∈ query.paths tree current start, p.slashes = start.slashes := by
    intro p hp
    unfold Query.paths at hp
    split at hp
    · obtain ⟨names, rfl⟩ := follow_eq_below _ _ hp
      rfl
    · cases hp
  have hnodup : (Path.sort ((query.paths tree current start).filter (tree.isFile current))).Nodup :=
    (List.mergeSort_perm _ _).nodup_iff.2 (hpaths.filter _)
  refine ((Path.sort_pairwise _).and hnodup).imp_of_mem ?_
  intro p q hp hq h
  rw [Path.sort, List.mem_mergeSort, List.mem_filter] at hp hq
  exact Path.key_lt_of_le ((hslashes p hp.1).trans (hslashes q hq.1).symm) h.1 h.2

theorem Query.files_nodup (query : Query) (start : Path) :
    (query.files tree current start).Nodup := by
  refine (Query.files_sorted query start).imp ?_
  rintro p _ hlt rfl
  exact List.lt_irrefl _ hlt

/-- Files in strict order are what a query finds, once they are its files in any order. -/
theorem Query.files_eq_of_perm {query : Query} {start : Path} {files : List Path}
    (hperm : ((query.paths tree current start).filter (tree.isFile current)).Perm files)
    (hsorted : files.Pairwise fun p q => p.key < q.key) :
    query.files tree current start = files :=
  List.Perm.eq_of_pairwise (fun _ _ _ _ hpq hqp => absurd hqp (List.lt_asymm hpq))
    (Query.files_sorted query start) hsorted ((List.mergeSort_perm _ _).trans hperm)

/-! ## No file missed -/

/-- What is passed on the way to something further down is a directory. -/
theorem isDirectory_of_walks_below {p : Path} {name : String} {names : List String}
    (hwalks : tree.Walks current (p.below (name :: names))) : tree.isDirectory current p = true := by
  have hway : p.parts ++ [name] <+: (p.below (name :: names)).parts := ⟨names, by simp [Path.below]⟩
  refine isDirectory_iff.2 ⟨fun before part hb => ?_, hwalks p.parts name hway⟩
  exact hwalks before part (hb.trans ((List.prefix_append _ _).trans hway))

theorem mem_list_of_walks {p : Path} {name : String} (hname : name ≠ "..")
    (hwalks : tree.Walks current (p.child name))
    (hs : (tree.get? ((p.child name).location current)).isSome) : name ∈ tree.list current p := by
  rw [list_eq, if_pos (isDirectory_of_walks_below hwalks), mem_names_iff]
  rwa [Path.location_child p hname] at hs

theorem mem_directoriesBelow {names : List String} (hback : ".." ∉ names) :
    ∀ {n : Nat} {p : Path}, names.length ≤ n → tree.isDirectory current (p.below names) = true →
      p.below names ∈ directoriesBelow tree current n p := by
  induction names with
  | nil =>
    intro n p _ _
    rw [Path.below_nil]
    cases n with
    | zero => exact List.mem_singleton.2 rfl
    | succ n => exact List.mem_cons_self
  | cons name rest ih =>
    intro n p hn hdir
    cases n with
    | zero => simp at hn
    | succ n =>
      have hsplit : p.below (name :: rest) = (p.child name).below rest :=
        (Path.below_below p [name] rest).symm
      have hchild : tree.isDirectory current (p.child name) = true := by
        cases rest with
        | nil => exact hdir
        | cons next rest =>
          rw [hsplit] at hdir
          exact isDirectory_of_walks_below (isDirectory_iff.1 hdir).1
      obtain ⟨hwalks, hget⟩ := isDirectory_iff.1 hchild
      have hname := (List.ne_of_not_mem_cons hback).symm
      rw [directoriesBelow]
      refine List.mem_cons_of_mem _ (List.mem_flatMap.2 ⟨name, ?_, ?_⟩)
      · exact mem_list_of_walks hname hwalks (by rw [hget]; rfl)
      · rw [if_pos hchild, hsplit]
        rw [hsplit] at hdir
        exact ih (List.not_mem_of_not_mem_cons hback) (by simpa using hn) hdir

theorem mem_follow_names {pattern : String} {start p : Path} :
    p ∈ follow tree current false [.names pattern] start ↔ ∃ name ∈ tree.list current start,
      p = start.child name ∧ nameMatches pattern name = true ∧
        tree.pathExists current p = true := by
  rw [follow_names, List.mem_flatMap]
  refine exists_congr fun name => and_congr_right fun _ => ?_
  have hfits : fits tree current (false || !([] : List Stage).isEmpty) (start.child name) =
      tree.pathExists current (start.child name) := by
    rw [fits, if_neg (by simp)]
  rw [hfits]
  constructor
  · intro hp
    split at hp
    · rename_i hmatches
      split at hp
      · rename_i hexists
        rw [follow, List.mem_singleton] at hp
        exact ⟨hp, hmatches, hp ▸ hexists⟩
      · cases hp
    · cases hp
  · rintro ⟨rfl, hmatches, hexists⟩
    rw [if_pos hmatches, if_pos hexists, follow, List.mem_singleton]

theorem Query.mem_files {query : Query} {start p : Path} :
    p ∈ query.files tree current start ↔ tree.isDirectory current start = true ∧
      p ∈ follow tree current query.directoriesOnly query.stages start ∧
      tree.isFile current p = true := by
  unfold Query.files Path.sort Query.paths
  rw [List.mem_mergeSort, List.mem_filter]
  split
  · rename_i hdir
    rw [iff_true_intro hdir, true_and]
  · rename_i hdir
    simp [hdir]

/-- A file that is walked to is in the list of its directory. -/
theorem mem_list_of_isFile {start : Path} {name : String} (hname : name ≠ "..")
    (hfile : tree.isFile current (start.child name) = true) :
    name ∈ tree.list current start ∧ tree.pathExists current (start.child name) = true := by
  obtain ⟨content, hread⟩ := isFile_iff.1 hfile
  obtain ⟨hwalks, hget⟩ := read_eq_ok_iff.1 hread
  have hsome : (tree.get? ((start.child name).location current)).isSome := by
    rw [hget]
    rfl
  exact ⟨mem_list_of_walks hname hwalks hsome, FileTree.pathExists_iff.2 ⟨hwalks, hsome⟩⟩

theorem isDirectory_of_isFile_child {start : Path} {name : String}
    (hfile : tree.isFile current (start.child name) = true) :
    tree.isDirectory current start = true := by
  obtain ⟨content, hread⟩ := isFile_iff.1 hfile
  exact isDirectory_of_walks_below (read_eq_ok_iff.1 hread).1

theorem isDirectory_of_below {start : Path} {names : List String}
    (hdir : tree.isDirectory current (start.below names) = true) :
    tree.isDirectory current start = true := by
  cases names with
  | nil => rwa [Path.below_nil] at hdir
  | cons first rest => exact isDirectory_of_walks_below (isDirectory_iff.1 hdir).1

/-- A search for a name finds the files of the directory that have a fitting name. -/
theorem mem_files_names (hwf : tree.WellFormed) {pattern : String} {start p : Path} :
    p ∈ (⟨[.names pattern], false⟩ : Query).files tree current start ↔
      ∃ name, name ≠ ".." ∧ p = start.child name ∧ nameMatches pattern name = true ∧
        tree.isFile current p = true := by
  rw [Query.mem_files, mem_follow_names]
  constructor
  · rintro ⟨_, ⟨name, hlist, hp, hmatches, _⟩, hfile⟩
    exact ⟨name, (hwf.isName_of_mem_list hlist).2.2.1, hp, hmatches, hfile⟩
  · rintro ⟨name, hname, rfl, hmatches, hfile⟩
    obtain ⟨hlist, hexists⟩ := mem_list_of_isFile hname hfile
    exact ⟨isDirectory_of_isFile_child hfile, ⟨name, hlist, rfl, hmatches, hexists⟩, hfile⟩

/-- A search for a name below a directory finds the files there that have a fitting name. -/
theorem mem_files_below (hwf : tree.WellFormed) {pattern : String} {start p : Path} :
    p ∈ (⟨[.deep, .names pattern], false⟩ : Query).files tree current start ↔
      ∃ names name, ".." ∉ names ∧ name ≠ ".." ∧ p = (start.below names).child name ∧
        nameMatches pattern name = true ∧ tree.isFile current p = true := by
  rw [Query.mem_files, follow, List.mem_eraseDups, List.mem_flatMap]
  constructor
  · rintro ⟨_, ⟨middle, hmiddle, hp⟩, hfile⟩
    obtain ⟨⟨names, hback, rfl⟩, _⟩ := directoriesBelow_isBelow hwf _ hmiddle
    obtain ⟨name, hlist, hp, hmatches, _⟩ := mem_follow_names.1 hp
    exact ⟨names, name, hback, (hwf.isName_of_mem_list hlist).2.2.1, hp, hmatches, hfile⟩
  · rintro ⟨names, name, hback, hname, rfl, hmatches, hfile⟩
    have hdir := isDirectory_of_isFile_child hfile
    obtain ⟨hlist, hexists⟩ := mem_list_of_isFile hname hfile
    have hlength : names.length ≤ depth tree := by
      obtain ⟨_, hplace⟩ := isDirectory_iff.1 hdir
      have hle := length_le_depth (by rw [hplace]; rfl :
        (tree.get? ((start.below names).location current)).isSome)
      rw [Path.location_below start hback, List.length_append] at hle
      omega
    exact ⟨isDirectory_of_below hdir, ⟨_, mem_directoriesBelow hback hlength hdir,
      mem_follow_names.2 ⟨name, hlist, rfl, hmatches, hexists⟩⟩, hfile⟩

/-! ## Names with an ending -/

/-- Characters that open nothing are read as themselves. -/
theorem readPattern_of_plain {text : List Char} (h : ∀ c ∈ text, c ≠ '*' ∧ c ≠ '?' ∧ c ≠ '[') :
    readPattern text = text.map Element.char := by
  unfold readPattern
  induction text with
  | nil => rfl
  | cons c rest ih =>
    obtain ⟨hstar, hmaybe, hset⟩ := h c List.mem_cons_self
    rw [readAfter.eq_6 _ _ hstar hmaybe hset, ih fun d hd => h d (List.mem_cons_of_mem c hd)]
    rfl

theorem accepts_map_char (text name : List Char) :
    accepts (text.map Element.char) name = true ↔ name = text := by
  induction text generalizing name with
  | nil => simp [accepts]
  | cons c text ih =>
    cases name with
    | nil => simp [accepts]
    | cons d name =>
      simp only [List.map_cons, accepts, Element.admits, Bool.and_eq_true, decide_eq_true_eq, ih,
        List.cons.injEq]
      exact and_congr_left fun _ => eq_comm

/-- A star before an ending stands for the names with that ending. -/
theorem nameMatches_star {ending name : String}
    (h : ∀ c ∈ ending.toList, c ≠ '*' ∧ c ≠ '?' ∧ c ≠ '[') :
    nameMatches ("*" ++ ending) name = true ↔ ending.toList <:+ name.toList := by
  have hread : readPattern ("*" ++ ending).toList = .star :: ending.toList.map Element.char := by
    rw [← readPattern_of_plain h, String.toList_append]
    rfl
  rw [nameMatches, hread, accepts, List.any_eq_true]
  constructor
  · rintro ⟨n, _, hn⟩
    rw [← (accepts_map_char _ _).1 hn]
    exact List.drop_suffix n name.toList
  · rintro ⟨before, hname⟩
    refine ⟨before.length, ?_, ?_⟩
    · rw [List.mem_range, ← hname, List.length_append]
      omega
    · rw [accepts_map_char, ← hname, List.drop_left]

end Glob

end ProtoRefresh
