-- What outputs make of a tree. Each output puts a file or a directory at
-- its location and has directories above it, whatever was there; so what
-- stands at a location afterwards depends on the outputs and on what stood
-- at that very location before.
import ProtoRefresh.Proofs.FileTree.Entries

namespace ProtoRefresh

/-! ## One output -/

/-- What stands at a location after an output, from what stood there before. -/
def overlay (output : Location × Entry) (place : Location) (old : Option Entry) : Option Entry :=
  match output.2 with
  | .directory => if place ≠ [] ∧ place <+: output.1 then some .directory else old
  | .file content =>
    if place = output.1 then some (.file content)
    else if output.1 <+: place then none
    else if place ≠ [] ∧ place <+: output.1 then some .directory
    else old

theorem overlay_none {output : Location × Entry} {place : Location}
    (h : ¬ place <+: output.1) : overlay output place none = none := by
  have hne : place ≠ output.1 := by
    rintro rfl
    exact h List.prefix_rfl
  unfold overlay
  split
  · simp [h]
  · simp [h, hne]

/-- Below no output something goes or stays. -/
theorem overlay_eq_or {output : Location × Entry} {place : Location}
    (h : ¬ place <+: output.1) :
    (∀ old, overlay output place old = old) ∨ ∀ old, overlay output place old = none := by
  have hne : place ≠ output.1 := by
    rintro rfl
    exact h List.prefix_rfl
  unfold overlay
  split
  · exact Or.inl fun old => if_neg fun hp => h hp.2
  · by_cases hbelow : output.1 <+: place
    · exact Or.inr fun old => by rw [if_neg hne, if_pos hbelow]
    · exact Or.inl fun old => by rw [if_neg hne, if_neg hbelow, if_neg fun hp => h hp.2]

/-- An output changes nothing at a location that is neither at nor above it, nor below it where it
is a file. -/
theorem overlay_of_apart {output : Location × Entry} {place : Location}
    (habove : ¬ place <+: output.1) (hbelow : output.2 = .directory ∨ ¬ output.1 <+: place)
    (old : Option Entry) : overlay output place old = old := by
  have hne : place ≠ output.1 := by
    rintro rfl
    exact habove List.prefix_rfl
  unfold overlay
  split
  · exact if_neg fun h => habove h.2
  · rename_i content hfile
    rw [hfile] at hbelow
    have hnot : ¬ output.1 <+: place := hbelow.resolve_left nofun
    rw [if_neg hne, if_neg hnot, if_neg fun h => habove h.2]

/-- A directory stays one, unless a file comes to its place or above it. -/
theorem overlay_directory {output : Location × Entry} {place : Location}
    (h : output.2 = .directory ∨ ¬ output.1 <+: place) :
    overlay output place (some .directory) = some .directory := by
  unfold overlay
  split
  · exact ite_self _
  · rename_i content hfile
    rw [hfile] at h
    have hnot : ¬ output.1 <+: place := h.resolve_left nofun
    have hne : place ≠ output.1 := by
      rintro rfl
      exact hnot List.prefix_rfl
    rw [if_neg hne, if_neg hnot]
    exact ite_self _

/-- At each location an output keeps what was there, or brings something of its own. -/
theorem overlay_keeps_or_brings (output : Location × Entry) (place : Location) :
    (∀ old, overlay output place old = old) ∨ ∃ new, ∀ old, overlay output place old = new := by
  unfold overlay
  split
  · split_ifs
    · exact Or.inr ⟨_, fun _ => rfl⟩
    · exact Or.inl fun _ => rfl
  · split_ifs
    · exact Or.inr ⟨_, fun _ => rfl⟩
    · exact Or.inr ⟨_, fun _ => rfl⟩
    · exact Or.inr ⟨_, fun _ => rfl⟩
    · exact Or.inl fun _ => rfl

namespace FileTree

theorem lookup_withDirectories (tree : FileTree) (place other : Location) :
    (tree.withDirectories place).entries.lookup other =
      if other ≠ [] ∧ other <+: place then some .directory else tree.entries.lookup other := by
  -- after the first n steps the directories with up to n names are there
  have hsteps : ∀ n ≤ place.length, ∀ made : FileTree,
      (List.range n).foldl (fun tree n =>
        let above := place.take (n + 1)
        if tree.isDirectoryAt above then tree else tree.set above .directory) tree = made →
      made.entries.lookup other =
        if other ≠ [] ∧ other <+: place.take n then some .directory
        else tree.entries.lookup other := by
    intro n
    induction n with
    | zero =>
      rintro _ made rfl
      simp
    | succ n ih =>
      rintro hn made rfl
      have hlast := ih (by omega) _ rfl
      have htake : place.take (n + 1) = place.take n ++ [place[n]] := by simp
      have hnonempty : place.take n ++ [place[n]] ≠ [] :=
        List.append_ne_nil_of_right_ne_nil _ (List.cons_ne_nil _ _)
      rw [List.range_succ, List.foldl_append, List.foldl_cons, List.foldl_nil]
      simp only [htake, List.prefix_concat_iff]
      generalize hmade : (List.range n).foldl _ tree = made at hlast ⊢
      by_cases hthere : made.isDirectoryAt (place.take n ++ [place[n]]) = true
      · rw [if_pos hthere]
        rw [isDirectoryAt, decide_eq_true_eq, get?_of_ne_nil _ hnonempty] at hthere
        by_cases ho : other = place.take n ++ [place[n]]
        · rw [ho, if_pos ⟨hnonempty, Or.inl rfl⟩, hthere]
        · simp only [ho, false_or, hlast]
      · rw [if_neg hthere]
        unfold FileTree.set
        rw [lookup_insertEntry, hlast]
        by_cases ho : other = place.take n ++ [place[n]]
        · rw [if_pos ho, ho, if_pos ⟨hnonempty, Or.inl rfl⟩]
        · simp only [ho, false_or, if_false]
  have hall := hsteps place.length (Nat.le_refl _) _ rfl
  rwa [List.take_length] at hall

theorem lookup_remove (tree : FileTree) (picked : Location → Bool) (place : Location) :
    (tree.remove picked).entries.lookup place =
      if picked place then none else tree.entries.lookup place :=
  lookup_filter picked place tree.entries

theorem lookup_eraseBelow (tree : FileTree) (base place : Location) :
    (tree.eraseBelow base).entries.lookup place =
      if base <+: place then none else tree.entries.lookup place := by
  unfold eraseBelow
  simp only [lookup_remove, List.isPrefixOf_iff_prefix]

theorem get?_eraseBelow (tree : FileTree) {base place : Location} (h : ¬ base <+: place) :
    (tree.eraseBelow base).get? place = tree.get? place := by
  by_cases hnil : place = []
  · rw [hnil, get?_nil, get?_nil]
  · rw [get?_of_ne_nil _ hnil, get?_of_ne_nil _ hnil, lookup_eraseBelow, if_neg h]

theorem lookup_withFile (tree : FileTree) (place : Location) (content : Content)
    (other : Location) :
    (tree.withFile place content).entries.lookup other =
      if other = place then some (.file content)
      else if place <+: other then none
      else if other ≠ [] ∧ other <+: place then some .directory
      else tree.entries.lookup other := by
  unfold withFile FileTree.set
  rw [lookup_insertEntry, lookup_eraseBelow, lookup_withDirectories]
  by_cases ho : other = place
  · rw [if_pos ho, if_pos ho]
  · have habove : other <+: place.dropLast ↔ other <+: place := by
      rcases List.eq_nil_or_concat' place with rfl | ⟨above, name, rfl⟩
      · simp
      · rw [List.dropLast_concat, List.prefix_concat_iff, or_iff_right ho]
    simp only [ho, habove, if_false]

/-- A tree with an output. -/
def withOutput (tree : FileTree) (output : Location × Entry) : FileTree :=
  match output.2 with
  | .file content => tree.withFile output.1 content
  | .directory => tree.withDirectories output.1

theorem lookup_withOutput (tree : FileTree) (output : Location × Entry) (place : Location) :
    (tree.withOutput output).entries.lookup place =
      overlay output place (tree.entries.lookup place) := by
  unfold withOutput overlay
  cases output.2 with
  | file content => exact lookup_withFile tree output.1 content place
  | directory => exact lookup_withDirectories tree output.1 place

/-! ## Outputs in order -/

/-- A tree with some outputs, one after the other. -/
def withOutputs (tree : FileTree) (outputs : List (Location × Entry)) : FileTree :=
  outputs.foldl withOutput tree

end FileTree

/-- What stands at a location after some outputs, from what stood there before. -/
def overlays (outputs : List (Location × Entry)) (place : Location) (old : Option Entry) :
    Option Entry :=
  outputs.foldl (fun old output => overlay output place old) old

theorem overlays_none {outputs : List (Location × Entry)} {place : Location}
    (h : ∀ output ∈ outputs, ¬ place <+: output.1) : overlays outputs place none = none := by
  induction outputs with
  | nil => rfl
  | cons output rest ih =>
    unfold overlays at ih ⊢
    rw [List.foldl_cons, overlay_none (h output List.mem_cons_self)]
    exact ih fun other ho => h other (List.mem_cons_of_mem _ ho)

/-- Below no output something goes or stays. -/
theorem overlays_eq_or {outputs : List (Location × Entry)} {place : Location}
    (h : ∀ output ∈ outputs, ¬ place <+: output.1) :
    (∀ old, overlays outputs place old = old) ∨ ∀ old, overlays outputs place old = none := by
  induction outputs with
  | nil => exact Or.inl fun _ => rfl
  | cons output rest ih =>
    have hrest : ∀ other ∈ rest, ¬ place <+: other.1 :=
      fun other ho => h other (List.mem_cons_of_mem _ ho)
    rcases overlay_eq_or (h output List.mem_cons_self) with hsame | hgone
    · rcases ih hrest with hstays | hgoes
      · exact Or.inl fun old => (congrArg (overlays rest place) (hsame old)).trans (hstays old)
      · exact Or.inr fun old => hgoes _
    · refine Or.inr fun old => ?_
      exact (congrArg (overlays rest place) (hgone old)).trans (overlays_none hrest)

theorem overlays_of_apart {outputs : List (Location × Entry)} {place : Location}
    (h : ∀ output ∈ outputs,
      ¬ place <+: output.1 ∧ (output.2 = .directory ∨ ¬ output.1 <+: place))
    (old : Option Entry) : overlays outputs place old = old := by
  induction outputs with
  | nil => rfl
  | cons output rest ih =>
    obtain ⟨habove, hbelow⟩ := h output List.mem_cons_self
    unfold overlays at ih ⊢
    rw [List.foldl_cons, overlay_of_apart habove hbelow]
    exact ih fun other ho => h other (List.mem_cons_of_mem _ ho)

theorem overlays_directory {outputs : List (Location × Entry)} {place : Location}
    (h : ∀ output ∈ outputs, output.2 = .directory ∨ ¬ output.1 <+: place) :
    overlays outputs place (some .directory) = some .directory := by
  induction outputs with
  | nil => rfl
  | cons output rest ih =>
    unfold overlays at ih ⊢
    rw [List.foldl_cons, overlay_directory (h output List.mem_cons_self)]
    exact ih fun other ho => h other (List.mem_cons_of_mem _ ho)

theorem overlays_keep_or_bring (outputs : List (Location × Entry)) (place : Location) :
    (∀ old, overlays outputs place old = old) ∨
      ∃ new, ∀ old, overlays outputs place old = new := by
  induction outputs with
  | nil => exact Or.inl fun _ => rfl
  | cons output rest ih =>
    rcases ih with hkeep | ⟨new, hbring⟩
    · rcases overlay_keeps_or_brings output place with hfirst | ⟨new, hfirst⟩
      · exact Or.inl fun old => (congrArg (overlays rest place) (hfirst old)).trans (hkeep old)
      · exact Or.inr ⟨new, fun old =>
          (congrArg (overlays rest place) (hfirst old)).trans (hkeep new)⟩
    · exact Or.inr ⟨new, fun old => hbring _⟩

namespace FileTree

theorem lookup_withOutputs (tree : FileTree) (outputs : List (Location × Entry))
    (place : Location) :
    (tree.withOutputs outputs).entries.lookup place =
      overlays outputs place (tree.entries.lookup place) := by
  unfold withOutputs overlays
  induction outputs generalizing tree with
  | nil => rfl
  | cons output rest ih => rw [List.foldl_cons, List.foldl_cons, ih, lookup_withOutput]

theorem get?_withOutputs (tree : FileTree) (outputs : List (Location × Entry))
    {place : Location} (h : place ≠ []) :
    (tree.withOutputs outputs).get? place = overlays outputs place (tree.get? place) := by
  rw [get?_of_ne_nil _ h, get?_of_ne_nil _ h, lookup_withOutputs]

theorem get?_withOutputs_of_apart {outputs : List (Location × Entry)} {place : Location}
    (h : ∀ output ∈ outputs,
      ¬ place <+: output.1 ∧ (output.2 = .directory ∨ ¬ output.1 <+: place)) (tree : FileTree) :
    (tree.withOutputs outputs).get? place = tree.get? place := by
  by_cases hnil : place = []
  · rw [hnil, get?_nil, get?_nil]
  · rw [get?_withOutputs _ _ hnil, overlays_of_apart h]

theorem get?_withOutputs_directory {outputs : List (Location × Entry)} {place : Location}
    (h : ∀ output ∈ outputs, output.2 = .directory ∨ ¬ output.1 <+: place) {tree : FileTree}
    (hdir : tree.get? place = some .directory) :
    (tree.withOutputs outputs).get? place = some .directory := by
  by_cases hnil : place = []
  · rw [hnil, get?_nil]
  · rw [get?_withOutputs _ _ hnil, hdir, overlays_directory h]

/-- At each location outputs keep what was there, or bring the same into every tree. -/
theorem get?_withOutputs_keep_or_bring (outputs : List (Location × Entry)) (place : Location) :
    (∀ tree : FileTree, (tree.withOutputs outputs).get? place = tree.get? place) ∨
      ∃ new, ∀ tree : FileTree, (tree.withOutputs outputs).get? place = new := by
  by_cases hnil : place = []
  · subst hnil
    exact Or.inl fun _ => rfl
  · rcases overlays_keep_or_bring outputs place with hkeep | ⟨new, hbring⟩
    · exact Or.inl fun tree => by rw [get?_withOutputs _ _ hnil, hkeep]
    · exact Or.inr ⟨new, fun tree => by rw [get?_withOutputs _ _ hnil, hbring]⟩

/-- Where no output comes to a location it holds what it held, or in every tree nothing. -/
theorem get?_withOutputs_or {base : Location} {outputs : List (Location × Entry)}
    (h : ∀ output ∈ outputs, ¬ base <+: output.1) :
    (∀ tree : FileTree, (tree.withOutputs outputs).get? base = tree.get? base) ∨
      ∀ tree : FileTree, (tree.withOutputs outputs).get? base = none := by
  by_cases hnil : base = []
  · subst hnil
    exact Or.inl fun _ => rfl
  · rcases overlays_eq_or h with hsame | hgone
    · exact Or.inl fun tree => by rw [get?_withOutputs _ _ hnil, hsame]
    · exact Or.inr fun tree => by rw [get?_withOutputs _ _ hnil, hgone]

/-- What is at or below a location may go before other outputs come or after them. -/
theorem eraseBelow_withOutputs (tree : FileTree) {base : Location}
    {outputs : List (Location × Entry)} (h : ∀ output ∈ outputs, ¬ base <+: output.1) :
    (tree.withOutputs outputs).eraseBelow base = (tree.eraseBelow base).withOutputs outputs := by
  apply eq_of_lookup_eq
  intro place
  rw [lookup_eraseBelow, lookup_withOutputs, lookup_withOutputs, lookup_eraseBelow]
  by_cases hp : base <+: place
  · rw [if_pos hp, if_pos hp]
    exact (overlays_none fun output ho hplace => h output ho (hp.trans hplace)).symm
  · rw [if_neg hp, if_neg hp]

end FileTree

/-! ## Outputs inside a directory -/

/-- A location is strictly below another one. -/
def Location.InsideOf (place base : Location) : Prop := base <+: place ∧ place ≠ base

instance (place base : Location) : Decidable (place.InsideOf base) :=
  inferInstanceAs (Decidable (_ ∧ _))

theorem Location.InsideOf.dropLast {place base : Location} (h : place.InsideOf base) :
    base <+: place.dropLast := by
  obtain ⟨hbelow, hne⟩ := h
  rcases List.eq_nil_or_concat' place with rfl | ⟨above, name, rfl⟩
  · exact absurd (List.prefix_nil.1 hbelow).symm hne
  · rw [List.dropLast_concat]
    rcases List.prefix_concat_iff.1 hbelow with heq | habove
    · exact absurd heq.symm hne
    · exact habove

namespace FileTree

/-- A directory that is not inside another one stays when outputs come into that. -/
theorem get?_withOutputs_of_directory {base place : Location} {tree : FileTree}
    {outputs : List (Location × Entry)} (houtputs : ∀ output ∈ outputs, output.1.InsideOf base)
    (hplace : base <+: place → place = base) (hdir : tree.get? place = some .directory) :
    (tree.withOutputs outputs).get? place = some .directory := by
  refine get?_withOutputs_directory (fun output ho => Or.inr fun hp => ?_) hdir
  obtain ⟨hbelow, hne⟩ := houtputs output ho
  have heq := hplace (hbelow.trans hp)
  rw [heq] at hp
  exact hne (hp.eq_of_length_le hbelow.length_le)

/-- What is outside a directory stays when outputs come into it. -/
theorem get?_withOutputs_of_outside {base place : Location} {tree : FileTree}
    {outputs : List (Location × Entry)} (houtputs : ∀ output ∈ outputs, output.1.InsideOf base)
    (habove : ∀ place, place <+: base → tree.get? place = some .directory)
    (hplace : ¬ base <+: place) : (tree.withOutputs outputs).get? place = tree.get? place := by
  by_cases hp : place <+: base
  · rw [habove place hp]
    exact get?_withOutputs_of_directory houtputs (fun h => absurd h hplace) (habove place hp)
  · refine get?_withOutputs_of_apart (fun output ho => ?_) tree
    obtain ⟨hbelow, _⟩ := houtputs output ho
    -- what is not above the directory is not above what is in it
    refine ⟨fun h => ?_, Or.inr fun h => hplace (hbelow.trans h)⟩
    exact (List.prefix_or_prefix_of_prefix h hbelow).elim hp hplace

end FileTree

end ProtoRefresh
