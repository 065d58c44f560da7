-- The directory that is made afresh. What was in it goes, whatever that
-- was, and then it is made as if it had never been there; so trees that
-- differ only in it become one tree.
import ProtoRefresh.Proofs.FileTree.Outputs
import ProtoRefresh.Proofs.Host.Ending
import ProtoRefresh.Proofs.Host.Keeps
import ProtoRefresh.Proofs.Path.Below
import ProtoRefresh.Regeneration.Regenerate

namespace ProtoRefresh

open FileTree ProtoRefresh.Action

/-! ## What is not there -/

/-- Below a place that holds nothing there is nothing. -/
theorem FileTree.WellFormed.none_below {tree : FileTree} (h : tree.WellFormed)
    {base place : Location} (hnone : tree.get? base = none) (hp : base <+: place) :
    tree.get? place = none := by
  obtain ⟨names, rfl⟩ := hp
  induction names using List.reverseRecOn with
  | nil => rwa [List.append_nil]
  | append_singleton names name ih =>
    rw [← List.append_assoc]
    exact h.not_in_file (by simp [ih]) name

/-- Above a directory there are directories. -/
theorem FileTree.WellFormed.directory_above {tree : FileTree} (h : tree.WellFormed)
    {base place : Location} (hdir : tree.get? base = some .directory) (hp : place <+: base) :
    tree.get? place = some .directory := by
  obtain ⟨names, rfl⟩ := hp
  induction names using List.reverseRecOn with
  | nil => rwa [List.append_nil] at hdir
  | append_singleton names name ih =>
    rw [← List.append_assoc] at hdir
    exact ih (h.parent _ name (by rw [hdir]; rfl))

theorem FileTree.WellFormed.eraseBelow_of_none {tree : FileTree} (h : tree.WellFormed)
    {base : Location} (hnone : tree.get? base = none) : tree.eraseBelow base = tree := by
  apply eq_of_lookup_eq
  intro place
  rw [lookup_eraseBelow]
  by_cases hp : base <+: place
  · have hplace := h.none_below hnone hp
    have hne : place ≠ [] := by
      rintro rfl
      cases hplace
    rw [if_pos hp, ← get?_of_ne_nil _ hne, hplace]
  · rw [if_neg hp]

/-- A directory goes with what is in it. -/
theorem FileTree.erase_remove_below (tree : FileTree) (base : Location) :
    (tree.remove fun place => base.isPrefixOf place && place != base).erase base =
      tree.eraseBelow base := by
  apply eq_of_lookup_eq
  intro place
  unfold FileTree.erase
  rw [lookup_remove, lookup_remove, lookup_eraseBelow]
  by_cases hp : place = base
  · simp [hp]
  · by_cases hbelow : base <+: place
    · simp [hp, hbelow]
    · simp [hp, hbelow]

/-- The tree with a directory that holds nothing. -/
def FileTree.renewed (tree : FileTree) (base : Location) : FileTree :=
  (tree.eraseBelow base).set base .directory

theorem FileTree.get?_renewed (tree : FileTree) {base : Location} (hbase : base ≠ [])
    (place : Location) : (tree.renewed base).get? place =
      if base <+: place then (if place = base then some .directory else none)
      else tree.get? place := by
  unfold renewed
  rw [get?_set _ hbase]
  by_cases hp : place = base
  · subst hp
    simp
  rw [if_neg hp, if_neg hp]
  by_cases hbelow : base <+: place
  · have hnil : place ≠ [] := by
      rintro rfl
      exact hbase (List.prefix_nil.1 hbelow)
    rw [if_pos hbelow, get?_of_ne_nil _ hnil, lookup_eraseBelow, if_pos hbelow]
  · rw [if_neg hbelow, get?_eraseBelow _ hbelow]

namespace Action

variable {host after : Host} {p : Path}

/-! ## Removing -/

theorem passesBelow_eq_false {current place : Location}
    (h : ∀ k < p.parts.length, place <+: (⟨p.slashes, p.parts.take k⟩ : Path).location current →
      (⟨p.slashes, p.parts.take k⟩ : Path).location current = place) :
    passesBelow current place p = false := by
  unfold passesBelow
  rw [List.any_eq_false]
  intro k hk
  have hpassed := h k (List.mem_range.1 hk)
  rw [Path.location_eq] at hpassed
  simp only [Bool.and_eq_true, List.isPrefixOf_iff_prefix, bne_iff_ne, not_and, not_not]
  exact fun hplace => hpassed hplace.2

/-- A directory is removed by a name of its own, on a way that does not pass below it. -/
theorem gives_removeTree_of_isDirectory (hdir : host.tree.isDirectory host.current p = true)
    (hparts : p.parts ≠ [])
    (hpasses : passesBelow host.current (p.location host.current) p = false)
    (hname : p.name ≠ "..") :
    Gives (removeTree p) host () { host with
      tree := host.tree.eraseBelow (p.location host.current) } := by
  obtain ⟨hwalks, hget⟩ := isDirectory_iff.1 hdir
  unfold removeTree
  rw [gives_get_bind, locate_eq_ok_iff.2 ⟨hwalks, rfl⟩]
  simp only [hget]
  refine gives_bind.2 ⟨(), _, gives_setTree.2 rfl, ?_⟩
  refine gives_guard.2 ⟨by simpa using hparts, gives_guard.2 ⟨by simp [hpasses], ?_⟩⟩
  refine gives_guard.2 ⟨hname, gives_modify.2 ?_⟩
  rw [erase_remove_below]

/-- A directory cannot be removed by a path without names; what is in it goes all the same. -/
theorem ends_removeTree_of_parts_nil
    (hget : host.tree.get? (p.location host.current) = some .directory)
    (hparts : p.parts = []) {result : Except Failure Unit} :
    Ends (removeTree p) host result after ↔
      result = .error (.file .invalid p.text) ∧ after = { host with
        tree := host.tree.remove fun place =>
          (p.location host.current).isPrefixOf place && place != p.location host.current } := by
  have hwalks : host.tree.Walks host.current p := by
    intro before part hp
    rw [hparts] at hp
    simp at hp
  unfold removeTree
  rw [ends_get_bind, locate_eq_ok_iff.2 ⟨hwalks, rfl⟩]
  simp only [hget]
  rw [ends_bind_of_changes (gives_setTree.2 rfl), ends_guard]
  simp [hparts]

end Action

/-! ## Making afresh -/

namespace Regeneration

variable {host after : Host} {p : Path} {result : Except Failure Unit}

theorem ends_makeFresh_of_not_exists (h : host.tree.pathExists host.current p = false) :
    Ends (makeFresh p) host result after ↔ Ends (makeNewDirectory p) host result after := by
  unfold makeFresh
  rw [ends_bind_of_gives (gives_pathExists.2 ⟨h, rfl⟩)]
  rfl

theorem ends_makeFresh_of_exists (h : host.tree.pathExists host.current p = true) :
    Ends (makeFresh p) host result after ↔
      Ends (removeTree p >>= fun _ => makeNewDirectory p) host result after := by
  unfold makeFresh
  rw [ends_bind_of_gives (gives_pathExists.2 ⟨h, rfl⟩)]
  rfl

/-- A directory that a path names without double dots is made as if it had never been there. -/
theorem ends_makeFresh (hwf : host.tree.WellFormed) (hback : ".." ∉ p.parts)
    (hparts : p.parts ≠ [])
    (hnoFile : ∀ content, host.tree.get? (p.location host.current) ≠ some (.file content)) :
    Ends (makeFresh p) host result after ↔
      Ends (makeNewDirectory p) { host with
        tree := host.tree.eraseBelow (p.location host.current) } result after := by
  cases hget : host.tree.get? (p.location host.current) with
  | none =>
    have hno : host.tree.pathExists host.current p = false := by
      rw [Bool.eq_false_iff, ne_eq, pathExists_iff, hget]
      rintro ⟨_, hsome⟩
      cases hsome
    rw [ends_makeFresh_of_not_exists hno, hwf.eraseBelow_of_none hget]
  | some entry =>
    cases entry with
    | file content => exact absurd hget (hnoFile content)
    | directory =>
      have hwalks : host.tree.Walks host.current p := by
        refine hwf.walks (fun before hb => absurd ?_ hback) (by rw [hget]; rfl)
        exact hb.subset (List.mem_append_right _ (List.mem_singleton_self _))
      have hpasses : passesBelow host.current (p.location host.current) p = false := by
        apply passesBelow_eq_false
        intro k hk hplace
        -- a path without double dots has not got as far before its end
        have hdown : ".." ∉ p.parts.drop k := fun hm => hback (List.mem_of_mem_drop hm)
        have hlocation : p.location host.current =
            (⟨p.slashes, p.parts.take k⟩ : Path).location host.current ++ p.parts.drop k := by
          rw [← Path.location_append _ _ hdown, List.take_append_drop]
        have hle := hplace.length_le
        rw [hlocation, List.length_append, List.length_drop] at hle
        omega
      have hname : p.name ≠ ".." := by
        intro hname
        rw [Path.name, List.getLast?_eq_some_getLast hparts, Option.getD_some] at hname
        exact hback (hname ▸ List.getLast_mem hparts)
      have hexists : host.tree.pathExists host.current p = true :=
        pathExists_iff.2 ⟨hwalks, by rw [hget]; rfl⟩
      rw [ends_makeFresh_of_exists hexists]
      exact ends_bind_of_gives (gives_removeTree_of_isDirectory
        (isDirectory_iff.2 ⟨hwalks, hget⟩) hparts hpasses hname)

/-! ## Made once -/

/-- A new directory is made where nothing was, after those above it. -/
theorem gives_makeNewDirectory {value : Unit} (h : Gives (makeNewDirectory p) host value after) :
    isEnded p = false ∧ after.current = host.current ∧
      ∃ made, (made = host.tree ∨ Makes host.current p.parent host.tree made) ∧
        made.makeDirectory host.current p = .ok after.tree := by
  obtain ⟨hopen, harises⟩ := gives_makeDirectories_cases h
  refine ⟨hopen, ?_⟩
  rcases harises with harises | ⟨_, middle, _, habove, harises⟩
  · cases harises with
    | new hmake => exact ⟨rfl, _, Or.inl rfl, hmake⟩
    | there hok _ => cases hok
  · obtain ⟨made, hmakes, rfl⟩ := gives_makeDirectories habove
    cases harises with
    | new hmake => exact ⟨rfl, _, Or.inr hmakes, hmake⟩
    | there hok _ => cases hok

/-- A path that a directory can be made and removed by: it has a name of its own and does not pass
at or below the place that it leads to. -/
structure Renewable (current : Location) (p : Path) : Prop where
  isOpen : isEnded p = false
  parts_ne_nil : p.parts ≠ []
  name_ne_back : p.name ≠ ".."
  apart : ∀ k < p.parts.length, ¬ p.location current <+:
    (⟨p.slashes, p.parts.take k⟩ : Path).location current

/-- A directory that was made afresh: nothing is in it. -/
structure IsFresh (current : Location) (p : Path) (tree : FileTree) : Prop
    extends Renewable current p where
  isDirectory : tree.isDirectory current p = true
  nothing : ∀ place, p.location current <+: place → place ≠ p.location current →
    tree.get? place = none

theorem isFresh_of_makeDirectory {current : Location} {made tree : FileTree}
    (hopen : isEnded p = false) (hparts : p.parts ≠ []) (hwf : made.WellFormed)
    (hmake : made.makeDirectory current p = .ok tree) : IsFresh current p tree := by
  obtain ⟨hwalks, hnone, _, rfl⟩ := makeDirectory_eq_ok_iff.1 hmake
  have hno : made.get? (p.location current) ≠ some .directory := by simp [hnone]
  have hne := ne_nil_of_not_directory hno
  refine ⟨⟨hopen, hparts, ?_, ?_⟩, (Makes.made hmake).isDirectory, ?_⟩
  · -- above a directory there is a directory, so no step back leads to a missing place
    intro hname
    obtain ⟨slashes, parts⟩ := p
    rcases List.eq_nil_or_concat' parts with rfl | ⟨before, part, rfl⟩
    · exact hparts rfl
    · rw [Path.name, List.getLast?_concat, Option.getD_some] at hname
      have hdir := (walks_snoc.1 hwalks).2
      rw [Path.location_snoc, Location.after, if_pos hname] at hnone
      rcases List.eq_nil_or_concat' ((⟨slashes, before⟩ : Path).location current) with
        hnil | ⟨above, name, habove⟩
      · rw [hnil, List.dropLast_nil, get?_nil] at hnone
        cases hnone
      · rw [habove] at hdir
        rw [habove, List.dropLast_concat, hwf.parent above name (by rw [hdir]; rfl)] at hnone
        cases hnone
  · intro k hk hpassed
    have hdir := hwalks (p.parts.take k) p.parts[k] ⟨p.parts.drop (k + 1), by simp⟩
    rw [hwf.none_below hnone hpassed] at hdir
    cases hdir
  · intro place hp hother
    rw [get?_set _ hne, if_neg hother, hwf.none_below hnone hp]

/-- A directory that could be made afresh is fresh. Where the path has no names there has to be a
directory already; it cannot be removed. -/
theorem isFresh_of_gives_makeFresh {value : Unit} (hhost : host.Proper) (hproper : p.Proper)
    (hhere : p.parts = [] → host.tree.get? (p.location host.current) = some .directory)
    (h : Gives (makeFresh p) host value after) : IsFresh host.current p after.tree := by
  have hparts : p.parts ≠ [] := by
    intro hnil
    have hexists : host.tree.pathExists host.current p = true := by
      refine pathExists_iff.2 ⟨fun before part hp => ?_, by rw [hhere hnil]; rfl⟩
      rw [hnil] at hp
      simp at hp
    rw [← ends_ok_iff, ends_makeFresh_of_exists hexists, ends_ok_iff] at h
    obtain ⟨_, _, hremove, _⟩ := gives_bind.1 h
    cases ((ends_removeTree_of_parts_nil (hhere hnil) hnil).1 (ends_ok_iff.2 hremove)).1
  have hmade : ∃ emptied : Host, emptied.Proper ∧ emptied.current = host.current ∧
      Gives (makeNewDirectory p) emptied value after := by
    cases hexists : host.tree.pathExists host.current p with
    | true =>
      rw [← ends_ok_iff, ends_makeFresh_of_exists hexists, ends_ok_iff] at h
      obtain ⟨_, emptied, hremove, hmake⟩ := gives_bind.1 h
      refine ⟨emptied, keeps_removeTree p hremove hhost, ?_, hmake⟩
      obtain ⟨_, rfl⟩ := gives_removeTree hremove
      rfl
    | false =>
      rw [← ends_ok_iff, ends_makeFresh_of_not_exists hexists, ends_ok_iff] at h
      exact ⟨host, hhost, rfl, h⟩
  obtain ⟨emptied, hemptied, hcurrent, hnew⟩ := hmade
  obtain ⟨hopen, _, made, hmakes, hmake⟩ := gives_makeNewDirectory hnew
  rw [← hcurrent]
  refine isFresh_of_makeDirectory hopen hparts ?_ hmake
  rcases hmakes with rfl | hmakes
  · exact hemptied.tree
  · exact hmakes.wellFormed hemptied.tree hemptied.current
      hproper.parent

/-! ## Made once more -/

theorem gives_makeNewDirectory_of_makeDirectory (hopen : isEnded p = false) {tree : FileTree}
    (hmake : host.tree.makeDirectory host.current p = .ok tree) :
    Gives (makeNewDirectory p) host () { host with tree := tree } := by
  unfold makeNewDirectory
  cases p.parts.length with
  | zero | succ _ =>
    unfold makeDirectories
    refine gives_guard.2 ⟨by simp [hopen], gives_get_bind.2 ?_⟩
    rw [hmake]
    exact gives_setTree.2 rfl

/-- On a step of its way a path has not got at or below the place that it leads to. -/
theorem Renewable.apart_of_step {current : Location} (h : Renewable current p)
    {before : List String} {part : String} (hstep : before ++ [part] <+: p.parts) :
    ¬ p.location current <+: (⟨p.slashes, before⟩ : Path).location current := by
  have hlength := hstep.length_le
  rw [List.length_append, List.length_singleton] at hlength
  rw [List.prefix_iff_eq_take.1 ((List.prefix_append before [part]).trans hstep)]
  exact h.apart before.length hlength

/-- A directory stays one when outputs come into it. -/
theorem Renewable.isDirectory_withOutputs {current : Location} (h : Renewable current p)
    {tree : FileTree} {outputs : List (Location × Entry)}
    (houtputs : ∀ output ∈ outputs, output.1.InsideOf (p.location current))
    (hdir : tree.isDirectory current p = true) :
    (tree.withOutputs outputs).isDirectory current p = true := by
  obtain ⟨hwalks, hget⟩ := isDirectory_iff.1 hdir
  refine isDirectory_iff.2 ⟨fun before part hb => ?_,
    get?_withOutputs_of_directory houtputs (fun _ => rfl) hget⟩
  exact get?_withOutputs_of_directory houtputs (fun hp => absurd hp (h.apart_of_step hb))
    (hwalks before part hb)

/-- A directory that could be made afresh once can be made afresh again. -/
theorem Renewable.gives_makeFresh (host : Host) (h : Renewable host.current p)
    (hdir : host.tree.isDirectory host.current p = true)
    (habove : host.tree.get? (p.location host.current).dropLast = some .directory) :
    p.location host.current ≠ [] ∧
      (host.tree.renewed (p.location host.current)).isDirectory host.current p = true ∧
      Gives (makeFresh p) host () { host with
        tree := host.tree.renewed (p.location host.current) } := by
  obtain ⟨hwalks, hget⟩ := isDirectory_iff.1 hdir
  have hne : p.location host.current ≠ [] := by
    intro hnil
    refine h.apart 0 (List.length_pos_iff.2 h.parts_ne_nil) ?_
    rw [hnil]
    exact List.nil_prefix
  have hpasses : passesBelow host.current (p.location host.current) p = false :=
    passesBelow_eq_false fun k hk hplace => absurd hplace (h.apart k hk)
  have hmake : (host.tree.eraseBelow (p.location host.current)).makeDirectory host.current p =
      .ok (host.tree.renewed (p.location host.current)) := by
    refine makeDirectory_eq_ok_iff.2 ⟨?_, ?_, ?_, rfl⟩
    · intro before part hb
      rw [get?_eraseBelow _ (h.apart_of_step hb)]
      exact hwalks before part hb
    · rw [get?_of_ne_nil _ hne, lookup_eraseBelow, if_pos List.prefix_rfl]
    · rw [get?_eraseBelow _ ?_, habove]
      intro hp
      have hle := hp.length_le
      have hpos := List.length_pos_iff.2 hne
      rw [List.length_dropLast] at hle
      omega
  have hexists : host.tree.pathExists host.current p = true :=
    pathExists_iff.2 ⟨hwalks, by rw [hget]; rfl⟩
  have hremove := gives_removeTree_of_isDirectory hdir h.parts_ne_nil hpasses h.name_ne_back
  refine ⟨hne, (Makes.made hmake).isDirectory, ?_⟩
  rw [← ends_ok_iff, ends_makeFresh_of_exists hexists, ends_ok_iff]
  exact gives_bind.2 ⟨(), _, hremove, gives_makeNewDirectory_of_makeDirectory h.isOpen hmake⟩

end Regeneration

end ProtoRefresh
