-- The rewriting of all files below a directory that have a fitting name.
-- Where no fitting name is the one of a temporary file the files that a
-- search finds are apart, so each of them is rewritten by itself.
import ProtoRefresh.Proofs.Glob.Found
import ProtoRefresh.Proofs.Rewrite.Files

namespace ProtoRefresh.Rewrite

open FileTree ProtoRefresh.Action

variable {host after : Host} {tree : FileTree} {current : Location} {directory : Path}
  {pattern : String} {rules : List Rule}

/-- The files that a tree is searched for. -/
def found (tree : FileTree) (current : Location) (directory : Path) (pattern : String) :
    List Path :=
  (⟨[.deep, .names pattern], false⟩ : Glob.Query).files tree current directory

/-- The files that a search finds are apart, unless one of them has the name of the temporary file
of another one. -/
theorem filesApart_files {query : Glob.Query} (hwf : tree.WellFormed)
    (hback : Glob.Stage.exactly ".." ∉ query.stages)
    (hfree : ∀ p ∈ query.files tree current directory,
      temporary p ∉ query.files tree current directory) :
    FilesApart current (query.files tree current directory) := by
  have hbelow : ∀ p ∈ query.files tree current directory, p.IsBelow directory := fun p hp =>
    Glob.Query.isBelow_of_mem_files hwf hback hp
  constructor
  · refine (Glob.Query.files_sorted _ _).imp_of_mem fun {p q} hp hq hlt heq => ?_
    rw [(hbelow p hp).eq_of_location (hbelow q hq) heq] at hlt
    exact List.lt_irrefl _ hlt
  · intro p hp q hq heq
    obtain ⟨content, hread⟩ := isFile_iff.1 (Glob.Query.isFile_of_mem_files hq)
    have hne := ne_of_read hread (Glob.Query.isDirectory_of_mem_files hq)
    have htemporary := temporary_isBelow (hbelow q hq) hne
    exact hfree q hq ((hbelow p hp).eq_of_location htemporary heq ▸ hp)

/-- A search finds each file once, and none that has the name of a temporary file. -/
theorem filesApart_found (hwf : tree.WellFormed)
    (hpattern : ∀ name, Glob.nameMatches pattern (name ++ temporarySuffix) = false) :
    FilesApart current (found tree current directory pattern) := by
  refine filesApart_files hwf (by simp) fun p _ hfound => ?_
  obtain ⟨names, name, _, _, heq, hmatches, _⟩ := (Glob.mem_files_below hwf).1 hfound
  have hname := congrArg Path.name heq
  rw [temporary, Path.name_child, Path.name_child] at hname
  rw [← hname, hpattern] at hmatches
  cases hmatches

/-- No temporary file has the name of a source. -/
theorem nameMatches_sources_temporary (name : String) :
    Glob.nameMatches "*.rs" (name ++ temporarySuffix) = false := by
  have hplain : ∀ c ∈ ".rs".toList, c ≠ '*' ∧ c ≠ '?' ∧ c ≠ '[' := by simp
  have hpattern : "*.rs" = "*" ++ ".rs" := rfl
  rw [hpattern, Bool.eq_false_iff, ne_eq, Glob.nameMatches_star hplain, String.toList_append]
  rintro ⟨before, heq⟩
  have hlast := congrArg List.getLast? heq
  rw [List.getLast?_append_of_ne_nil _ (by decide),
    List.getLast?_append_of_ne_nil _ (by decide)] at hlast
  exact absurd hlast (by decide)

/-- All files with a fitting name are rewritten, and those are told that change. -/
theorem rewritten_rewriteTree {changed : List Path} (hwf : host.tree.WellFormed)
    (hquery : Glob.Query.ofText pattern = .ok ⟨[.names pattern], false⟩)
    (hpattern : ∀ name, Glob.nameMatches pattern (name ++ temporarySuffix) = false)
    (h : Gives (rewriteTree directory rules pattern) host changed after) :
    Rewritten rules host.current (found host.tree host.current directory pattern) host.tree
        after.tree ∧
      changed.Sublist (found host.tree host.current directory pattern) ∧
      ∀ p, p ∈ changed ↔ p ∈ found host.tree host.current directory pattern ∧
        Changes rules host.current host.tree p := by
  unfold rewriteTree at h
  obtain ⟨files, _, hsearch, h⟩ := gives_bind.1 h
  obtain ⟨query, hread, rfl, rfl⟩ := Glob.gives_searchBelow.1 hsearch
  obtain rfl := Except.ok.inj (hquery.symm.trans hread)
  obtain ⟨_, rewritten, hrewrite, h⟩ := gives_bind.1 h
  obtain ⟨_, _, hlog, hlast⟩ := gives_bind.1 h
  obtain ⟨rfl, rfl⟩ := gives_pure.1 hlast
  rw [gives_log.1 hlog]
  obtain ⟨hrewritten, hsublist, hchanges⟩ :=
    rewritten_rewriteFiles (filesApart_found hwf hpattern) hrewrite
  refine ⟨hrewritten, hsublist, fun p => ⟨fun hp => ?_, fun hp => ?_⟩⟩
  · exact ⟨hsublist.subset hp, (hchanges p (hsublist.subset hp)).1 hp⟩
  · exact (hchanges p hp.1).2 hp.2

end ProtoRefresh.Rewrite
