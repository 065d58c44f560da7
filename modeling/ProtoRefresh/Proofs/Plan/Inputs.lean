-- The input files of a plan in the order of its entries. An entry is a
-- block of them: itself, or the files that it lists as a pattern, by the
-- code points of their paths. No block is empty.
import ProtoRefresh.Plan.Inputs
import ProtoRefresh.Proofs.Glob.Listing
import ProtoRefresh.Proofs.Host.Files
import ProtoRefresh.Proofs.Host.Looking

namespace ProtoRefresh

open FileTree ProtoRefresh.Action

variable {host after : Host} {root : Path} {pattern : String}

/-! ## Listed files -/

/-- The text is one of those that a pattern lists in a root, and leads to a file there. -/
structure Glob.Lists (tree : FileTree) (current : Location) (root : Path) (pattern text : String) :
    Prop where
  listed : text.toList ∈ listing tree current root.text.toList false pattern.toList
  isFile : tree.isFile current (root.joinText text) = true

/-- Texts in order, none of them twice, increase. -/
theorem Glob.pairwise_lt_mergeSort {texts : List String} (h : texts.Nodup) :
    (texts.mergeSort fun a b => decide (a ≤ b)).Pairwise (· < ·) := by
  have hsorted : (texts.mergeSort fun a b => decide (a ≤ b)).Pairwise
      fun a b => decide (a ≤ b) = true := by
    refine List.pairwise_mergeSort (fun a b c hab hbc => ?_) (fun a b => ?_) texts
    · exact decide_eq_true (String.le_trans (of_decide_eq_true hab) (of_decide_eq_true hbc))
    · rw [Bool.or_eq_true_iff, decide_eq_true_eq, decide_eq_true_eq]
      exact String.le_total a b
  have hnodup := (List.mergeSort_perm texts fun a b => decide (a ≤ b)).nodup_iff.2 h
  refine (hsorted.and hnodup).imp fun {a b} hab => String.not_le.1 fun hge => ?_
  exact hab.2 (String.le_antisymm (of_decide_eq_true hab.1) hge)

/-- A listing of files fails if it has to look into a directory that no path can name. Otherwise
it gives each file that it lists once, by code points. -/
theorem Glob.ends_listFiles {result : Except Failure (List String)} (hwf : host.tree.WellFormed)
    (h : Ends (listFiles root pattern) host result after) : after = host ∧
      ((looksPastEnd root.text.toList pattern.toList = true ∧
          result = .error (.endedPath .listing)) ∨
        looksPastEnd root.text.toList pattern.toList = false ∧ ∃ files, result = .ok files ∧
          files.Pairwise (· < ·) ∧
          ∀ text, text ∈ files ↔ Lists host.tree host.current root pattern text) := by
  unfold listFiles at h
  rcases ends_guard.1 h with ⟨hended, rfl, rfl⟩ | ⟨hopen, h⟩
  · exact ⟨rfl, Or.inl ⟨hended, rfl⟩⟩
  · dsimp only at h
    rw [ends_get_bind, ends_pure] at h
    obtain ⟨rfl, rfl⟩ := h
    refine ⟨rfl, Or.inr ⟨Bool.eq_false_iff.2 hopen, _, rfl, ?_, ?_⟩⟩
    · apply pairwise_lt_mergeSort
      refine List.Nodup.filter _ ?_
      exact (spelled_listing hwf pattern.toList false).nodup.map fun a b => String.ofList_injective
    · intro text
      rw [List.mem_mergeSort, List.mem_filter, List.mem_map]
      constructor
      · rintro ⟨⟨chars, hchars, rfl⟩, hfile⟩
        exact ⟨by rwa [String.toList_ofList], hfile⟩
      · rintro ⟨hlisted, hfile⟩
        exact ⟨⟨_, hlisted, String.ofList_toList⟩, hfile⟩

/-! ## Blocks -/

namespace Plan

/-- What one entry of a plan stands for: itself, if it is no pattern or lists no file, or else the
paths of the files that it lists, each of them once and by code points. -/
inductive IsBlock (tree : FileTree) (current : Location) (root : Path) (pattern : String) :
    List String → Prop
  | literal (h : Glob.isPattern pattern = false) : IsBlock tree current root pattern [pattern]
  | unmatched (hpattern : Glob.isPattern pattern = true)
      (h : ∀ text, ¬ Glob.Lists tree current root pattern text) :
    IsBlock tree current root pattern [pattern]
  | matched {files : List String} (hpattern : Glob.isPattern pattern = true) (hne : files ≠ [])
      (hincreasing : files.Pairwise (· < ·))
      (hfiles : ∀ file, file ∈ files ↔
        ∃ text, Glob.Lists tree current root pattern text ∧ file = (Path.ofText text).text) :
    IsBlock tree current root pattern files

theorem IsBlock.ne_nil {tree : FileTree} {current : Location} {block : List String}
    (h : IsBlock tree current root pattern block) : block ≠ [] := by
  cases h with
  | literal h => exact List.cons_ne_nil _ _
  | unmatched hpattern h => exact List.cons_ne_nil _ _
  | matched hpattern hne hincreasing hfiles => exact hne

theorem ne_nil_of_blocks {tree : FileTree} {current : Location} {inputs : List String}
    {blocks : List (List String)} (h : List.Forall₂ (IsBlock tree current root) inputs blocks) :
    ∀ block ∈ blocks, block ≠ [] := by
  induction h with
  | nil => exact fun _ hmem => absurd hmem List.not_mem_nil
  | cons hblock _ ih => exact List.forall_mem_cons.2 ⟨hblock.ne_nil, ih⟩

/-- The entry is a pattern whose listing has to look into a directory that no path can name. -/
def IsEnded (root : Path) (pattern : String) : Prop :=
  Glob.isPattern pattern = true ∧ Glob.looksPastEnd root.text.toList pattern.toList = true

/-- The paths of listed files are in the order of the texts that were listed. -/
theorem pairwise_text {files : List String} (hwf : host.tree.WellFormed)
    (hroot : Path.ofText root.text = root) (hincreasing : files.Pairwise (· < ·))
    (hfiles : ∀ text ∈ files, Glob.Lists host.tree host.current root pattern text) :
    (files.map fun text => (Path.ofText text).text).Pairwise (· < ·) := by
  rw [List.pairwise_map]
  refine hincreasing.imp_of_mem fun {text other} htext hother hlt => ?_
  have hends : ∀ text ∈ files, Path.EndsInPart text.toList := fun text htext =>
    Glob.endsInPart_of_isFile hwf hroot (hfiles text htext).listed (hfiles text htext).isFile
  have halike := (Glob.spelled_listing hwf pattern.toList false).alike _
    (hfiles text htext).listed _ (hfiles other hother).listed
  exact Path.text_lt_of_lt halike (hends text htext) (hends other hother) hlt

theorem ends_resolveInput {result : Except Failure (List String)} (hwf : host.tree.WellFormed)
    (hroot : Path.ofText root.text = root)
    (h : Ends (resolveInput root pattern) host result after) :
    (IsEnded root pattern ∧ result = .error (.endedPath .listing)) ∨
      ¬ IsEnded root pattern ∧
        ∃ block, IsBlock host.tree host.current root pattern block ∧ result = .ok block := by
  unfold resolveInput at h
  cases hpattern : Glob.isPattern pattern with
  | false =>
    rw [hpattern, if_pos (by decide)] at h
    obtain ⟨rfl, rfl⟩ := ends_pure.1 h
    refine Or.inr ⟨fun hended => ?_, _, .literal hpattern, rfl⟩
    rw [hended.1] at hpattern
    cases hpattern
  | true =>
    rw [hpattern, if_neg (by decide)] at h
    rcases ends_bind.1 h with ⟨failure, hfail, rfl⟩ | ⟨files, middle, hgives, hends⟩
    · obtain ⟨rfl, ⟨hended, heq⟩ | ⟨_, _, heq, _⟩⟩ := Glob.ends_listFiles hwf hfail
      · cases heq
        exact Or.inl ⟨⟨hpattern, hended⟩, rfl⟩
      · cases heq
    · obtain ⟨rfl, ⟨_, heq⟩ | ⟨hopen, _, heq, hincreasing, hfiles⟩⟩ :=
        Glob.ends_listFiles hwf (ends_ok_iff.2 hgives)
      · cases heq
      cases heq
      have hnot : ¬ IsEnded root pattern := by
        rintro ⟨_, hended⟩
        rw [hopen] at hended
        cases hended
      refine Or.inr ⟨hnot, ?_⟩
      by_cases hnone : files = []
      · rw [hnone, List.isEmpty_nil, if_pos rfl, ends_bind_of_changes (gives_log.2 rfl)] at hends
        obtain ⟨rfl, _⟩ := ends_pure.1 hends
        refine ⟨_, .unmatched hpattern fun text htext => ?_, rfl⟩
        have hmem := (hfiles text).2 htext
        rw [hnone] at hmem
        exact absurd hmem List.not_mem_nil
      · rw [if_neg fun hempty => hnone (List.isEmpty_iff.1 hempty)] at hends
        obtain ⟨rfl, _⟩ := ends_pure.1 hends
        refine ⟨_, .matched hpattern (fun hnil => hnone (List.map_eq_nil_iff.1 hnil))
          (pairwise_text hwf hroot hincreasing fun text => (hfiles text).1) fun file => ?_, rfl⟩
        rw [List.mem_map]
        refine exists_congr fun text => ?_
        rw [hfiles, eq_comm]

/-! ## All inputs -/

theorem ends_resolveRow {result : Except Failure (List (List String))}
    (hwf : host.tree.WellFormed) (hroot : Path.ofText root.text = root) {inputs : List String}
    (h : Ends (inputs.mapM (resolveInput root)) host result after) :
    ((∃ pattern ∈ inputs, IsEnded root pattern) ∧ result = .error (.endedPath .listing)) ∨
      (∀ pattern ∈ inputs, ¬ IsEnded root pattern) ∧ ∃ blocks,
        List.Forall₂ (IsBlock host.tree host.current root) inputs blocks ∧ result = .ok blocks := by
  induction inputs generalizing host after result with
  | nil =>
    rw [List.mapM_nil] at h
    obtain ⟨rfl, _⟩ := ends_pure.1 h
    exact Or.inr ⟨fun _ hmem => absurd hmem List.not_mem_nil, [], .nil, rfl⟩
  | cons pattern inputs ih =>
    rw [List.mapM_cons] at h
    rcases ends_bind.1 h with ⟨failure, hfail, rfl⟩ | ⟨block, middle, hgives, hends⟩
    · rcases ends_resolveInput hwf hroot hfail with ⟨hended, heq⟩ | ⟨_, _, _, heq⟩
      · cases heq
        exact Or.inl ⟨⟨pattern, List.mem_cons_self, hended⟩, rfl⟩
      · cases heq
    · rcases ends_resolveInput hwf hroot (ends_ok_iff.2 hgives) with
        ⟨_, heq⟩ | ⟨hopen, _, hblock, heq⟩
      · cases heq
      cases heq
      obtain ⟨records, rfl⟩ : ∃ records, middle = { host with log := records } :=
        ⟨_, looks_resolveInput root pattern (ends_ok_iff.2 hgives)⟩
      have hwf' : ({ host with log := records } : Host).tree.WellFormed := hwf
      rcases ends_bind.1 hends with ⟨failure, hfail, rfl⟩ | ⟨blocks, _, hgives, hlast⟩
      · rcases ih hwf' hfail with ⟨⟨other, hmem, hended⟩, heq⟩ | ⟨_, _, _, heq⟩
        · cases heq
          exact Or.inl ⟨⟨other, List.mem_cons_of_mem _ hmem, hended⟩, rfl⟩
        · cases heq
      · obtain ⟨rfl, _⟩ := ends_pure.1 hlast
        rcases ih hwf' (ends_ok_iff.2 hgives) with ⟨_, heq⟩ | ⟨hothers, _, hblocks, heq⟩
        · cases heq
        · cases heq
          exact Or.inr ⟨List.forall_mem_cons.2 ⟨hopen, hothers⟩, _, .cons hblock hblocks, rfl⟩

/-- One entry stands for one file at least, whatever it is. -/
theorem ne_nil_of_gives_resolveInput {block : List String}
    (h : Gives (resolveInput root pattern) host block after) : block ≠ [] := by
  unfold resolveInput at h
  split at h
  · obtain ⟨rfl, _⟩ := gives_pure.1 h
    exact List.cons_ne_nil _ _
  · obtain ⟨files, _, _, h⟩ := gives_bind.1 h
    split at h
    · obtain ⟨_, _, _, h⟩ := gives_bind.1 h
      obtain ⟨rfl, _⟩ := gives_pure.1 h
      exact List.cons_ne_nil _ _
    · rename_i hfiles
      obtain ⟨rfl, _⟩ := gives_pure.1 h
      exact fun hnil => hfiles (List.isEmpty_iff.2 (List.map_eq_nil_iff.1 hnil))

/-- A plan has entries, so it has input files. -/
theorem ne_nil_of_gives_resolveInputs {plan : Plan} {texts : List String}
    (h : Gives plan.resolveInputs host texts after) : texts ≠ [] := by
  obtain ⟨blocks, _, hrow, hlast⟩ := gives_bind.1 h
  obtain ⟨rfl, _⟩ := gives_pure.1 hlast
  obtain ⟨pattern, rest, hinputs⟩ := List.exists_cons_of_ne_nil plan.inputs_ne_nil
  rw [hinputs] at hrow
  obtain ⟨block, _, others, hblock, _, rfl⟩ := gives_mapM_cons.1 hrow
  rw [List.flatten_cons, ne_eq, List.append_eq_nil_iff]
  exact fun hnone => ne_nil_of_gives_resolveInput hblock hnone.1

/-- The inputs of a plan are the blocks of its entries, one after the other, unless an entry cannot
be listed. -/
theorem ends_resolveInputs {plan : Plan} {result : Except Failure (List String)}
    (hwf : host.tree.WellFormed) (hroot : Path.ofText plan.root.text = plan.root)
    (h : Ends plan.resolveInputs host result after) :
    ((∃ pattern ∈ plan.inputs, IsEnded plan.root pattern) ∧
        result = .error (.endedPath .listing)) ∨
      (∀ pattern ∈ plan.inputs, ¬ IsEnded plan.root pattern) ∧ ∃ blocks,
        List.Forall₂ (IsBlock host.tree host.current plan.root) plan.inputs blocks ∧
          result = .ok blocks.flatten := by
  rcases ends_bind.1 h with ⟨failure, hfail, rfl⟩ | ⟨blocks, middle, hgives, hends⟩
  · rcases ends_resolveRow hwf hroot hfail with ⟨hended, heq⟩ | ⟨_, _, _, heq⟩
    · cases heq
      exact Or.inl ⟨hended, rfl⟩
    · cases heq
  · obtain ⟨rfl, rfl⟩ := ends_pure.1 hends
    rcases ends_resolveRow hwf hroot (ends_ok_iff.2 hgives) with ⟨_, heq⟩ | ⟨hopen, _, hblocks, heq⟩
    · cases heq
    · cases heq
      exact Or.inr ⟨hopen, _, hblocks, rfl⟩

end Plan

end ProtoRefresh
