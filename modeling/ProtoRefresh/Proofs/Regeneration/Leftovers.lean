-- What is left over in the directory of a plan has no influence. The
-- commands that prepare a regeneration do not look at the files, then the
-- directory is made afresh, and from there on two trees that differed only
-- in the directory are one tree.
import ProtoRefresh.Proofs.Regeneration.Calls
import ProtoRefresh.Proofs.Regeneration.Check
import ProtoRefresh.Proofs.Regeneration.Fresh

namespace ProtoRefresh.Regeneration

open FileTree ProtoRefresh.Action ProtoRefresh.Relocation

variable {α β : Type} {host after : Host}

/-! ## Two trees -/

/-- Two trees differ at most in what is at or below a directory, which no file is in the place of.
A directory without a name of its own, as it is the root or where the run takes place, is there in
both or in neither. -/
structure DifferInside (directory : Path) (current : Location) (tree other : FileTree) : Prop where
  outside : other.eraseBelow (directory.location current) =
    tree.eraseBelow (directory.location current)
  tree_noFile : ∀ content, tree.get? (directory.location current) ≠ some (.file content)
  other_noFile : ∀ content, other.get? (directory.location current) ≠ some (.file content)
  here : directory.parts = [] → other.get? (directory.location current) =
    tree.get? (directory.location current)

variable {directory : Path} {current : Location} {tree other : FileTree}

/-- Outputs that do not come into the directory come to both trees alike. -/
theorem DifferInside.withOutputs (h : DifferInside directory current tree other)
    {outputs : List (Location × Entry)}
    (houtputs : ∀ output ∈ outputs, ¬ directory.location current <+: output.1) :
    DifferInside directory current (tree.withOutputs outputs) (other.withOutputs outputs) := by
  have houtside : (other.withOutputs outputs).eraseBelow (directory.location current) =
      (tree.withOutputs outputs).eraseBelow (directory.location current) := by
    rw [eraseBelow_withOutputs other houtputs, eraseBelow_withOutputs tree houtputs, h.outside]
  rcases get?_withOutputs_or houtputs with hsame | hgone
  · refine ⟨houtside, ?_, ?_, ?_⟩
    · simpa only [hsame] using h.tree_noFile
    · simpa only [hsame] using h.other_noFile
    · simpa only [hsame] using h.here
  · refine ⟨houtside, ?_, ?_, ?_⟩
    · simp [hgone]
    · simp [hgone]
    · simp [hgone]

/-- Trees that agree outside a directory agree everywhere once it is there and holds nothing. -/
theorem DifferInside.get?_emptied (h : DifferInside directory current tree other)
    (htree : tree.get? (directory.location current) = some .directory)
    (hother : other.get? (directory.location current) = some .directory) (place : Location) :
    (other.remove fun l => (directory.location current).isPrefixOf l &&
        l != directory.location current).get? place =
      (tree.remove fun l => (directory.location current).isPrefixOf l &&
        l != directory.location current).get? place := by
  by_cases hnil : place = []
  · rw [hnil, get?_nil, get?_nil]
  rw [get?_remove _ _ hnil, get?_remove _ _ hnil]
  by_cases hbelow : directory.location current <+: place
  · by_cases hp : place = directory.location current
    · subst hp
      simp [htree, hother]
    · simp [hbelow, hp]
  · have hlookup := congrArg (fun tree => tree.entries.lookup place) h.outside
    simp only [lookup_eraseBelow, if_neg hbelow] at hlookup
    rw [get?_of_ne_nil _ hnil, get?_of_ne_nil _ hnil, hlookup]

/-- Making the directory afresh makes one tree of both, or fails alike. -/
theorem makeFresh_forgets {host : Host} {directory : Path}
    (h : DifferInside directory host.current host.tree other) (hwf : host.tree.WellFormed)
    (hother : other.WellFormed) (hback : ".." ∉ directory.parts) :
    (∀ result after, Ends (makeFresh directory) { host with tree := other } result after ↔
      Ends (makeFresh directory) host result after) ∨
    ∃ failure emptied left, Ends (makeFresh directory) host (.error failure) emptied ∧
      Ends (makeFresh directory) { host with tree := other } (.error failure) left ∧
      left.calls = emptied.calls ∧ ∀ place, left.tree.get? place = emptied.tree.get? place := by
  by_cases hparts : directory.parts = []
  · have hhere := h.here hparts
    cases hget : host.tree.get? (directory.location host.current) with
    | none =>
      rw [hget] at hhere
      have htrees : other = host.tree := by
        rw [← hother.eraseBelow_of_none hhere, h.outside, hwf.eraseBelow_of_none hget]
      exact Or.inl fun result after => by rw [htrees]
    | some entry =>
      cases entry with
      | file content => exact absurd hget (h.tree_noFile content)
      | directory =>
        rw [hget] at hhere
        have hfails : ∀ tree : FileTree,
            tree.get? (directory.location host.current) = some .directory →
              Ends (makeFresh directory) { host with tree := tree }
                (.error (.file .invalid directory.text)) { host with
                  tree := tree.remove fun l => (directory.location host.current).isPrefixOf l &&
                    l != directory.location host.current } := by
          intro tree hdir
          have hexists : tree.pathExists host.current directory = true := by
            refine pathExists_iff.2 ⟨fun before part hp => ?_, by rw [hdir]; rfl⟩
            rw [hparts] at hp
            simp at hp
          rw [ends_makeFresh_of_exists hexists, ends_bind]
          exact Or.inl ⟨_, (ends_removeTree_of_parts_nil hdir hparts).2 ⟨rfl, rfl⟩, rfl⟩
        exact Or.inr ⟨_, _, _, hfails host.tree hget, hfails other hhere, rfl,
          h.get?_emptied hget hhere⟩
  · left
    intro result after
    rw [ends_makeFresh hother hback hparts h.other_noFile,
      ends_makeFresh hwf hback hparts h.tree_noFile, h.outside]

/-- After the preparation a run goes on alike from both trees. -/
theorem finish_forgets {plan : Plan} {check : Bool} {version : String} {toolchain : Toolchain}
    {result : Except Failure Report}
    (h : DifferInside (generationDir plan) host.current host.tree other)
    (hwf : host.tree.WellFormed) (hother : other.WellFormed)
    (hback : ".." ∉ (generationDir plan).parts)
    (hends : Ends (finish plan check version toolchain) host result after) :
    ∃ left, Ends (finish plan check version toolchain) { host with tree := other } result left ∧
      left.calls = after.calls ∧ ∀ place, left.tree.get? place = after.tree.get? place := by
  unfold finish at hends ⊢
  rcases makeFresh_forgets h hwf hother hback with
    hsame | ⟨failure, emptied, left, hfail, hleft, hdone⟩
  · refine ⟨after, ?_, rfl, fun _ => rfl⟩
    rw [ends_bind] at hends ⊢
    simpa only [← ends_ok_iff, hsame] using hends
  · rcases ends_bind.1 hends with ⟨other, hother, rfl⟩ | ⟨_, _, hgives, _⟩
    · obtain ⟨heq, rfl⟩ := hfail.unique hother
      cases heq
      exact ⟨left, ends_bind.2 (Or.inl ⟨failure, hleft, rfl⟩), hdone⟩
    · cases (hfail.unique (ends_ok_iff.2 hgives)).1

/-! ## Whole runs -/

/-- Trees that differ only inside the directory of a plan lead to the same calls and the same
result, and once the directory is made afresh to the same files; the commands before that must not
leave anything in the directory. -/
theorem leftovers_have_no_influence {plan : Plan} {check : Bool} {host after : Host}
    {other : FileTree} {result : Except Failure Report} (hhost : host.Proper)
    (hother : other.WellFormed) (hback : ".." ∉ (generationDir plan).parts)
    (hdiffer : DifferInside (generationDir plan) host.current host.tree other)
    (houtputs : ∀ output ∈ host.outputs (preparation plan),
      ¬ (generationDir plan).location host.current <+: output.1)
    (hrun : Ends (regenerate plan check) host result after) :
    ∃ left, Ends (regenerate plan check) { host with tree := other } result left ∧
      left.calls = after.calls ∧
      ((∃ found start, Gives (prepare plan) host found start) →
        ∀ place, left.tree.get? place = after.tree.get? place) := by
  rw [regenerate_eq] at hrun ⊢
  rcases ends_bind.1 hrun with ⟨failure, hfail, rfl⟩ | ⟨found, start, hgives, hends⟩
  · obtain ⟨made, _, htree⟩ := scripted_prepare plan hfail
    refine ⟨_, ends_bind.2 (Or.inl ⟨failure, htree other, rfl⟩), rfl, ?_⟩
    rintro ⟨_, _, hgives⟩
    cases (hfail.unique (ends_ok_iff.2 hgives)).1
  · obtain ⟨made, hmade, htree⟩ := scripted_prepare plan (ends_ok_iff.2 hgives)
    have houtside : ∀ output ∈ host.outputs made,
        ¬ (generationDir plan).location host.current <+: output.1 :=
      fun output ho => houtputs output (Host.mem_outputs_of_prefix hmade.in_order ho)
    have hstart : start.tree = host.tree.withOutputs (host.outputs made) :=
      congrArg Host.tree ((ends_ok_iff.2 hgives).unique (htree host.tree)).2
    have hdiffer' := hdiffer.withOutputs houtside
    rw [← hstart, ← hmade.current] at hdiffer'
    have hproper := keeps_prepare plan hgives hhost
    have hproper' := keeps_prepare plan (ends_ok_iff.1 (htree other)) (hhost.withTree hother)
    obtain ⟨left, hleft, hcalls, hget⟩ :=
      finish_forgets hdiffer' hproper.tree hproper'.tree hback hends
    exact ⟨left, ends_bind.2 (Or.inr ⟨found, _, ends_ok_iff.1 (htree other), hleft⟩), hcalls,
      fun _ => hget⟩

/-- A file that a pattern leads to is left over. -/
def staleHost : Host := generatingHost (FileTree.empty.withFile ["tmp", "z.rs"] [3])

def stalePlan : Plan := movingPlan [Source.move ⟨"*.rs", "src", none⟩]

def staleReport : Report := movingReport [⟨"a.rs", ⟨0, ["src", "a.rs"]⟩, true⟩]

theorem a_stale_file_has_no_influence :
    staleHost.Proper ∧ FileTree.empty.WellFormed ∧ ".." ∉ (generationDir stalePlan).parts ∧
      DifferInside (generationDir stalePlan) staleHost.current staleHost.tree FileTree.empty ∧
      (∀ output ∈ staleHost.outputs (preparation stalePlan),
        ¬ (generationDir stalePlan).location staleHost.current <+: output.1) ∧
      ∃ after, Ends (regenerate stalePlan false) staleHost (.ok staleReport) after ∧
      ∃ left, Ends (regenerate stalePlan false) { staleHost with tree := FileTree.empty }
          (.ok staleReport) left ∧
        left.calls = after.calls ∧
        ((∃ found start, Gives (prepare stalePlan) staleHost found start) →
          ∀ place, left.tree.get? place = after.tree.get? place) := by
  have hhost : staleHost.Proper := by decide +kernel
  have hempty : FileTree.empty.WellFormed := by decide +kernel
  have hback : ".." ∉ (generationDir stalePlan).parts := by decide +kernel
  have hstale : staleHost.tree.get? ((generationDir stalePlan).location staleHost.current) =
      some .directory := by decide +kernel
  have hnone : FileTree.empty.get? ((generationDir stalePlan).location staleHost.current) =
      none := by decide +kernel
  have hdiffer : DifferInside (generationDir stalePlan) staleHost.current staleHost.tree
      FileTree.empty :=
    ⟨by decide +kernel, by simp [hstale], by simp [hnone],
      fun hparts => absurd hparts (by decide +kernel)⟩
  have houtputs : ∀ output ∈ staleHost.outputs (preparation stalePlan),
      ¬ (generationDir stalePlan).location staleHost.current <+: output.1 := by decide +kernel
  have hrun : Gives (regenerate stalePlan false) staleHost staleReport _ :=
    gives_of_toOption (by decide +kernel)
  exact ⟨hhost, hempty, hback, hdiffer, houtputs, _, ends_ok_iff.2 hrun,
    leftovers_have_no_influence hhost hempty hback hdiffer houtputs (ends_ok_iff.2 hrun)⟩

end ProtoRefresh.Regeneration
