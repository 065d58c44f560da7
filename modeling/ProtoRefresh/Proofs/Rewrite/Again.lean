-- The rewriting of files that have been rewritten before. As long as the
-- rules keep the texts that they give, the second time is no change at all:
-- each file is written as it stands, and the temporary file that comes
-- beside it goes again.
import ProtoRefresh.Proofs.FileTree.Outputs
import ProtoRefresh.Proofs.Rewrite.InOrder
import ProtoRefresh.Proofs.Rewrite.Marked

namespace ProtoRefresh.Rewrite

open FileTree ProtoRefresh.Action Text

variable {host after : Host} {before tree : FileTree} {current : Location} {directory p : Path}
  {rules : List Rule} {files changed : List Path}

/-! ## Files that stay as they are -/

/-- A file that is ready holds a text that the rules keep, and no temporary file is beside it. -/
structure Settled (rules : List Rule) (host : Host) (p : Path) : Prop where
  ready : Ready host.current host.tree p
  kept : ∃ text, host.HoldsText p text ∧ rewriteText rules (points text) = points text
  noTemporary : host.tree.get? ((temporary p).location host.current) = none

/-- A file moved into the place of an equal one, from a place that was free, leaves the tree as it
was. -/
theorem eq_of_write_rename {source target : Path} {content : Content} {written replaced : FileTree}
    (hread : tree.read current target = .ok content)
    (hfree : tree.get? (source.location current) = none)
    (hwritten : tree.write current source content = .ok written)
    (hreplaced : written.rename current source target = .ok replaced) : replaced = tree := by
  obtain ⟨_, htarget⟩ := read_eq_ok_iff.1 hread
  have hsource : source.location current ≠ [] := by
    intro hnil
    rw [hnil] at hfree
    cases hfree
  have hne : target.location current ≠ [] := by
    intro hnil
    rw [hnil] at htarget
    cases htarget
  obtain ⟨moved, hmoved, _, rfl⟩ := rename_eq_ok_iff.1 hreplaced
  have hplace := (read_eq_ok_iff.1 hmoved).2
  rw [get?_of_write hwritten, if_pos rfl] at hplace
  obtain rfl := Entry.file.inj (Option.some.inj hplace)
  obtain ⟨_, rfl⟩ := write_eq_ok_iff.1 hwritten
  rw [get?_of_ne_nil _ hsource] at hfree
  rw [get?_of_ne_nil _ hne] at htarget
  apply eq_of_lookup_eq
  intro place
  unfold FileTree.set FileTree.erase
  rw [lookup_insertEntry, lookup_remove, lookup_insertEntry]
  by_cases htarget' : place = target.location current
  · rw [if_pos htarget', htarget', htarget]
  · rw [if_neg htarget']
    by_cases hsource' : place = source.location current
    · simp [hsource', hfree]
    · simp [hsource']

/-- The rewriting of a settled file changes nothing. -/
theorem Settled.gives (h : Settled rules host p) : Gives (rewriteFile p rules) host false host := by
  obtain ⟨text, htext, hkept⟩ := h.kept
  obtain ⟨changes, left, hgives⟩ := h.ready.gives ⟨text, text, htext, hkept⟩
  obtain ⟨_, content, old, new, written, replaced, hread, hold, hnew, hwritten, hreplaced,
    hchanges, hleft⟩ := gives_rewriteFile.1 hgives
  obtain ⟨content', hread', htext⟩ := htext
  obtain rfl := Except.ok.inj (hread.symm.trans hread')
  obtain rfl := Except.ok.inj (hold.symm.trans htext)
  obtain rfl := points_inj.1 (hkept.symm.trans hnew)
  rw [encode_of_decodeUtf8 hold] at hwritten
  obtain rfl : left = host := by
    rw [hleft, eq_of_write_rename hread h.noTemporary hwritten hreplaced]
  rwa [hchanges, bne_self_eq_false] at hgives

theorem gives_rewriteFiles_of_settled (h : ∀ p ∈ files, Settled rules host p) :
    Gives (rewriteFiles rules files) host [] host := by
  induction files with
  | nil => exact gives_pure.2 ⟨rfl, rfl⟩
  | cons p rest ih =>
    have hrest := ih fun q hq => h q (List.mem_cons_of_mem p hq)
    exact gives_bind.2 ⟨false, host, (h p List.mem_cons_self).gives,
      gives_bind.2 ⟨[], host, hrest, gives_pure.2 ⟨rfl, rfl⟩⟩⟩

/-! ## Files that have been rewritten -/

/-- Only files whose paths can be opened are rewritten. -/
theorem open_of_gives_rewriteFiles (h : Gives (rewriteFiles rules files) host changed after) :
    ∀ p ∈ files, isEnded p = false := by
  induction files generalizing host changed with
  | nil => exact fun p hp => absurd hp List.not_mem_nil
  | cons p rest ih =>
    obtain ⟨_, middle, _, hfirst, hrest, _⟩ := gives_rewriteFiles_cons.1 h
    intro q hq
    rcases List.mem_cons.1 hq with rfl | hq
    · exact (gives_rewriteFile.1 hfirst).1
    · exact ih hrest q hq

/-- Rewriting keeps a tree well formed. -/
theorem Rewritten.wellFormed (h : Rewritten rules current files before tree)
    (hwf : before.WellFormed) : tree.WellFormed := by
  have hold : ∀ place, (tree.get? place).isSome → (before.get? place).isSome := by
    intro place hsome
    by_cases hmine : ∃ p ∈ files, place = p.location current
    · obtain ⟨p, hp, rfl⟩ := hmine
      obtain ⟨content, _, _, hread, _⟩ := h.file p hp
      rw [(read_eq_ok_iff.1 hread).2]
      rfl
    · rw [h.elsewhere place fun p hp => ⟨fun heq => hmine ⟨p, hp, heq⟩, fun heq => ?_⟩] at hsome
      · exact hsome
      · rw [heq, h.gone p hp] at hsome
        cases hsome
  exact ⟨fun place name hsome => (h.directory place).2 (hwf.parent place name (hold _ hsome)),
    fun place name hsome => hwf.isName place name (hold _ hsome)⟩

/-- A file that has been rewritten is settled, if the rules keep what they give. -/
theorem Rewritten.settled (h : Rewritten rules current files before after.tree)
    (hcurrent : after.current = current)
    (hkept : ∀ text, rewriteText rules (rewriteText rules text) = rewriteText rules text)
    (hp : p ∈ files) (hnamed : p.parts ≠ []) (hopen : isEnded p = false) :
    Settled rules after p := by
  subst hcurrent
  obtain ⟨content, old, new, _, _, hnew, hfile⟩ := h.file p hp
  have hsame : rewriteText rules (points new) = points new := by rw [← hnew, hkept]
  refine ⟨⟨hnamed, hopen, isFile_iff.2 ⟨_, hfile⟩, ?_⟩,
    ⟨new, ⟨_, hfile, decodeUtf8_encode _⟩, hsame⟩, h.gone p hp⟩
  rw [Bool.eq_false_iff, ne_eq, isDirectory_iff, h.gone p hp]
  exact fun hdir => nomatch hdir.2

/-! ## The markers -/

theorem rewriteText_serdeRules_twice (text : List CodePoint) :
    rewriteText serdeRules (rewriteText serdeRules text) = rewriteText serdeRules text :=
  rewriteText_of_not_marked (not_marked_rewriteText text)

/-- When the markers are gone from the sources below a directory, going over them again finds
nothing to change and leaves the tree as it is. -/
theorem rewriting_again_changes_nothing (hwf : host.tree.WellFormed)
    (h : Gives (rewriteTree directory serdeRules "*.rs") host changed after) :
    (∃ left, Gives (rewriteTree directory serdeRules "*.rs") after [] left ∧
      left.tree = after.tree) ∧
      ∀ text, rewriteText serdeRules (rewriteText serdeRules text) =
        rewriteText serdeRules text := by
  have hquery : Glob.Query.ofText "*.rs" = .ok ⟨[.names "*.rs"], false⟩ := rfl
  obtain ⟨hrewritten, _⟩ := rewritten_rewriteTree hwf hquery nameMatches_sources_temporary h
  obtain ⟨left, hrewrite, hafter⟩ := gives_rewriteFiles_matched hquery h
  have hcurrent : after.current = host.current := by
    rw [hafter, ← (quiet_rewriteFiles serdeRules _).current hrewrite]
  have hopen := open_of_gives_rewriteFiles hrewrite
  have hsettled : ∀ p ∈ found after.tree after.current directory "*.rs",
      Settled serdeRules after p := by
    intro p hp
    -- what is found now has been found before, so it has been rewritten
    obtain ⟨names, name, hnames, hback, rfl, hmatches, hfile⟩ :=
      (Glob.mem_files_below (hrewritten.wellFormed hwf)).1 hp
    rw [hcurrent] at hfile
    have hfound : (directory.below names).child name ∈
        found host.tree host.current directory "*.rs" :=
      (Glob.mem_files_below hwf).2
        ⟨names, name, hnames, hback, rfl, hmatches, hrewritten.isFile hfile⟩
    exact hrewritten.settled hcurrent rewriteText_serdeRules_twice hfound (by simp [Path.child])
      (hopen _ hfound)
  have hsearch : Gives (Glob.searchBelow directory "*.rs") after
      (found after.tree after.current directory "*.rs") after :=
    Glob.gives_searchBelow.2 ⟨_, hquery, rfl, rfl⟩
  exact ⟨⟨_, gives_rewriteTree hsearch (gives_rewriteFiles_of_settled hsettled), rfl⟩,
    rewriteText_serdeRules_twice⟩

/-- A directory with a source that holds a marker and has an old temporary file beside it, one
without a marker further down, and a file with a marker that is no source. -/
def markedSourcesHost : Host where
  tree := (((FileTree.empty.withFile ["src", "a.rs"] (encode
    "a\n// @@protoc_insertion_point(message:a)\nb")).withFile ["src", "a.rs.tmp"] [0xff]).withFile
      ["src", "m", "b.rs"] (encode "b")).withFile ["src", "c.txt"] (encode insertionPoint)
  current := []
  scratch := Path.here
  responses := []
  calls := []
  log := []

def markedSource : Path := ⟨0, ["src", "a.rs"]⟩

theorem found_markedSources :
    found markedSourcesHost.tree [] (Path.ofText "src") "*.rs" =
      [markedSource, ⟨0, ["src", "m", "b.rs"]⟩] :=
  Glob.Query.files_eq_of_perm (by decide +kernel) (by decide +kernel)

theorem marked_sources_stay_rewritten :
    markedSourcesHost.tree.WellFormed ∧ ∃ after left,
      Gives (rewriteTree (Path.ofText "src") serdeRules "*.rs") markedSourcesHost [markedSource]
        after ∧
      Gives (rewriteTree (Path.ofText "src") serdeRules "*.rs") after [] left ∧
      left.tree = after.tree := by
  have hwf : markedSourcesHost.tree.WellFormed := by decide +kernel
  have hsearch : Gives (Glob.searchBelow (Path.ofText "src") "*.rs") markedSourcesHost _
      markedSourcesHost := Glob.gives_searchBelow.2 ⟨_, rfl, found_markedSources, rfl⟩
  have hrewrite : Gives (rewriteFiles serdeRules [markedSource, ⟨0, ["src", "m", "b.rs"]⟩])
      markedSourcesHost [markedSource] _ := gives_of_toOption (by decide +kernel)
  have hrun := gives_rewriteTree hsearch hrewrite
  obtain ⟨⟨left, hagain, htree⟩, _⟩ := rewriting_again_changes_nothing hwf hrun
  exact ⟨hwf, _, left, hrun, hagain, htree⟩

end ProtoRefresh.Rewrite
