-- A check beside a run. Both generate alike, and from there on a check
-- places the files as the run does, so where the run ends well the check
-- reports the same, change by change.
import ProtoRefresh.Proofs.Regeneration.Generate
import ProtoRefresh.Proofs.Relocation.Outcome

namespace ProtoRefresh

open FileTree ProtoRefresh.Action

/-! ## Relocation from no directory -/

namespace Relocation

variable {host after : Host} {root : Path} {source : Source}

/-- Where the current directory is none, no relative path leads anywhere. -/
theorem eq_here_of_walks {tree : FileTree} {current : Location} {p : Path}
    (hrelative : p.isAbsolute = false) (hno : tree.get? current ≠ some .directory)
    (hwalks : tree.Walks current p) : p = Path.here := by
  obtain ⟨slashes, parts⟩ := p
  have hslashes : slashes = 0 := by simpa [Path.isAbsolute] using hrelative
  subst hslashes
  cases parts with
  | nil => rfl
  | cons part rest => exact absurd (hwalks [] part ⟨rest, rfl⟩) hno

/-- From a current directory that is none only the path itself can be got. -/
theorem expand_here (hplain : source.Plain) (hno : host.tree.get? host.current ≠ some .directory)
    {claimed found : List Path}
    (hrun : Gives (expand Path.here source.pattern claimed) host found after) :
    after = host ∧ found = [Path.here] ∧ Path.here ∉ claimed ∧
      ∀ dry, SameFiles host dry →
        Gives (expand Path.here source.pattern claimed) dry found dry := by
  obtain ⟨rfl, hfound⟩ := gives_expand.1 hrun
  split at hfound
  · obtain ⟨query, _, hfiltered, hsome⟩ := hfound
    obtain ⟨p, hp⟩ := List.exists_mem_of_ne_nil _ hsome
    rw [← hfiltered] at hp
    have hdir := Glob.Query.isDirectory_of_mem_files (List.mem_filter.1 hp).1
    exact absurd (isDirectory_iff.1 hdir).2 hno
  · rename_i hpattern
    obtain ⟨rfl, hfresh, hfile⟩ := hfound
    obtain ⟨content, hread⟩ := isFile_iff.1 hfile
    have hrelative : (Path.here.joinText source.pattern).isAbsolute = false := by
      unfold Path.joinText Path.join
      rw [if_neg (by simp [hplain.relative])]
      rfl
    have hhere := eq_here_of_walks hrelative hno (read_eq_ok_iff.1 hread).1
    refine ⟨rfl, by rw [hhere], hhere ▸ hfresh, fun dry hsame => ?_⟩
    rw [gives_expand, if_neg hpattern, hsame.tree, hsame.current]
    exact ⟨rfl, rfl, hfresh, hfile⟩

/-- A file that leaves the place of the current directory leaves no directory there. -/
theorem place_here {placement : Placement}
    (hrun : Gives (place root false source Path.here) host placement after) :
    after.tree.get? after.current ≠ some .directory ∧
      ∀ dry, SameFiles host dry →
        ∃ left, Gives (place root true source Path.here) dry placement left := by
  obtain ⟨changed, made, goal, hdiffers, rfl, _, hrename, _, _, hafter⟩ := gives_place_run hrun
  refine ⟨?_, fun dry hsame => ⟨_, gives_place_dry.2 ⟨changed, ?_, rfl, rfl⟩⟩⟩
  · obtain ⟨found, _, _, _, hget⟩ := get?_of_rename hrename
    have hhere : Path.here.location host.current = host.current := rfl
    rw [hafter, hget, hhere, if_pos rfl]
    split
    · simp
    · simp
  · obtain ⟨_, hcase⟩ := gives_differs.1 hdiffers
    rw [gives_differs, hsame.tree, hsame.current]
    exact ⟨rfl, hcase⟩

/-- Where the current directory is a file a dry run gives the same placements. -/
theorem relocate_here {moves : List Move} {placements : List Placement} {content : Content}
    (hfile : host.tree.get? host.current = some (.file content))
    (hmoves : ∀ source ∈ sourcesOf moves, source.Plain)
    (hrun : Gives (relocate Path.here root moves false) host placements after) :
    ∀ dry, SameFiles host dry →
      ∃ left, Gives (relocate Path.here root moves true) dry placements left := by
  unfold relocate at hrun ⊢
  revert hmoves hrun
  generalize sourcesOf moves = sources
  intro hmoves hrun dry hsame
  cases sources with
  | nil =>
    obtain ⟨rfl, _⟩ := gives_placeSources_nil.1 hrun
    exact ⟨dry, gives_placeSources_nil.2 ⟨rfl, rfl⟩⟩
  | cons source rest =>
    obtain ⟨found, placed, middle, others, hexpand, hplace, hrest, rfl⟩ :=
      gives_placeSources_cons.1 hrun
    have hno : host.tree.get? host.current ≠ some .directory := by simp [hfile]
    obtain ⟨_, rfl, _, hdryExpand⟩ := expand_here (hmoves source List.mem_cons_self) hno hexpand
    obtain ⟨placement, _, _, hfirst, hnil, rfl⟩ := gives_mapM_cons.1 hplace
    obtain ⟨rfl, rfl⟩ := gives_mapM_nil.1 hnil
    obtain ⟨hno', hdryPlace⟩ := place_here hfirst
    cases rest with
    | nil =>
      obtain ⟨rfl, _⟩ := gives_placeSources_nil.1 hrest
      obtain ⟨left, hdry⟩ := hdryPlace dry hsame
      have hdryFiles := gives_mapM_cons.2 ⟨placement, left, [], hdry,
        gives_mapM_nil.2 ⟨rfl, rfl⟩, rfl⟩
      exact ⟨left, gives_placeSources_cons.2 ⟨_, [placement], left, [], hdryExpand dry hsame,
        hdryFiles, gives_placeSources_nil.2 ⟨rfl, rfl⟩, rfl⟩⟩
    | cons next rest =>
      -- the path is claimed, and nothing else can be got
      obtain ⟨_, _, _, _, hexpand', _⟩ := gives_placeSources_cons.1 hrest
      obtain ⟨_, _, hfresh, _⟩ := expand_here
        (hmoves next (List.mem_cons_of_mem source List.mem_cons_self)) hno' hexpand'
      exact absurd (by simp) hfresh

end Relocation

/-! ## Checks -/

namespace Regeneration

open Relocation

/-- The host that the relocation of a plan starts on. -/
def relocationStart (plan : Plan) (host : Host) : Host := (((generate plan).run).run host).2

/-- Where a run ends well a check reports the same: no path of a target may step back out of a
directory that is missing, and the targets have to be apart. -/
theorem a_check_reports_what_the_run_does {plan : Plan} {host after : Host} {report : Report}
    (hhost : host.Proper) (hroot : plan.root.Proper)
    (hmoves : ∀ source ∈ sourcesOf plan.moves, source.Plain)
    (hclear : Clear (relocationStart plan host) (generationDir plan)
      (report.placements.map Placement.destination))
    (hrun : Gives (regenerate plan false) host report after) :
    ∃ checked, Gives (regenerate plan true) host report checked := by
  unfold regenerate at hrun ⊢
  obtain ⟨⟨version, generated, rewritten⟩, start, hgenerate, hrest⟩ := gives_bind.1 hrun
  obtain ⟨placements, _, hrelocate, hlast⟩ := gives_bind.1 hrest
  obtain ⟨rfl, rfl⟩ := gives_pure.1 hlast
  have hstart : relocationStart plan host = start := by
    unfold relocationStart
    rw [hgenerate.run_eq]
  rw [hstart] at hclear
  have hproper := keeps_generate hroot hgenerate hhost
  have hdry : ∃ left, Gives (relocate (generationDir plan) plan.root plan.moves true) start
      placements left := by
    by_cases hhere : generationDir plan = Path.here ∧
        ∃ content, start.tree.get? start.current = some (.file content)
    · obtain ⟨hhere, content, hfile⟩ := hhere
      rw [hhere] at hrelocate ⊢
      exact relocate_here hfile hmoves hrelocate start ⟨rfl, rfl⟩
    · have hsound : Sound start (generationDir plan) :=
        ⟨hproper.tree, fun heq content hfile => hhere ⟨heq, content, hfile⟩⟩
      obtain ⟨_, _, _, _, hdry⟩ := gives_relocate hsound hmoves hclear hrelocate
      exact hdry start ⟨rfl, rfl⟩
  obtain ⟨left, hdry⟩ := hdry
  exact ⟨left, gives_bind.2 ⟨_, start, hgenerate,
    gives_bind.2 ⟨placements, left, hdry, gives_pure.2 ⟨rfl, rfl⟩⟩⟩⟩

/-- A host on which the compiler leaves two files behind. -/
def generatingHost (tree : FileTree) : Host where
  tree := tree
  current := []
  scratch := Path.here
  responses :=
    [{ stdout := "libprotoc 3.1" },
     { writes := [⟨Path.ofText "tmp/a.rs", .file [1]⟩, ⟨Path.ofText "tmp/b.txt", .file [2]⟩] }]
  calls := []
  log := []

/-- A plan that takes the files to their places by some moves. -/
def movingPlan (moves : List Move) : Plan where
  root := Path.here
  inputs := ["a.proto"]
  generationDir := "tmp"
  moves := moves

/-- What these plans report. -/
def movingReport (placements : List Placement) : Report :=
  ⟨"libprotoc 3.1", ["a.rs"], [], placements⟩

/-- One file is there already, on a way over another directory. -/
def halfwayHost : Host :=
  generatingHost ((FileTree.empty.withFile ["lib", "c.txt"] [2]).withDirectories ["src"])

def halfwayPlan : Plan :=
  movingPlan
    [{ sources := ["b.txt"], dest := "src/../lib", rename := "c.txt" },
     { sources := ["a*"], dest := "out/new" }]

def halfwayReport : Report :=
  movingReport
    [⟨"b.txt", ⟨0, ["src", "..", "lib", "c.txt"]⟩, false⟩,
     ⟨"a.rs", ⟨0, ["out", "new", "a.rs"]⟩, true⟩]

theorem a_check_reports_the_one_change :
    halfwayHost.Proper ∧ halfwayPlan.root.Proper ∧
      (∀ source ∈ sourcesOf halfwayPlan.moves, source.Plain) ∧
      Clear (relocationStart halfwayPlan halfwayHost) (generationDir halfwayPlan)
        (halfwayReport.placements.map Placement.destination) ∧
      (∃ after, Gives (regenerate halfwayPlan false) halfwayHost halfwayReport after) ∧
      ∃ checked, Gives (regenerate halfwayPlan true) halfwayHost halfwayReport checked := by
  have hhost : halfwayHost.Proper := by decide +kernel
  have hroot : halfwayPlan.root.Proper := by decide +kernel
  have hmoves : ∀ source ∈ sourcesOf halfwayPlan.moves, source.Plain := by decide +kernel
  have hclear : Clear (relocationStart halfwayPlan halfwayHost) (generationDir halfwayPlan)
      (halfwayReport.placements.map Placement.destination) := by decide +kernel
  have hrun : Gives (regenerate halfwayPlan false) halfwayHost halfwayReport _ :=
    gives_of_toOption (by decide +kernel)
  exact ⟨hhost, hroot, hmoves, hclear, ⟨_, hrun⟩,
    a_check_reports_what_the_run_does hhost hroot hmoves hclear hrun⟩

/-- The way to both targets leads over a missing directory. -/
def roundaboutHost : Host := generatingHost (FileTree.empty.withFile ["y", "b.txt"] [2])

def roundaboutPlan : Plan := movingPlan [{ sources := ["a.rs", "b.txt"], dest := "x/../y" }]

def roundaboutReport (changed : Bool) : Report :=
  movingReport
    [⟨"a.rs", ⟨0, ["x", "..", "y", "a.rs"]⟩, true⟩,
     ⟨"b.txt", ⟨0, ["x", "..", "y", "b.txt"]⟩, changed⟩]

/-- It is not enough that the targets are apart: once the run has made the directory on the way it
finds an old file that the check cannot get to. -/
theorem a_check_misses_what_is_behind_a_missing_directory :
    roundaboutHost.Proper ∧ roundaboutPlan.root.Proper ∧
      (∀ source ∈ sourcesOf roundaboutPlan.moves, source.Plain) ∧
      Apart (relocationStart roundaboutPlan roundaboutHost) (generationDir roundaboutPlan)
        ((roundaboutReport false).placements.map Placement.destination) ∧
      (∃ after,
        Gives (regenerate roundaboutPlan false) roundaboutHost (roundaboutReport false) after) ∧
      ¬ ∃ checked,
        Gives (regenerate roundaboutPlan true) roundaboutHost (roundaboutReport false) checked := by
  have hrun : Gives (regenerate roundaboutPlan false) roundaboutHost (roundaboutReport false) _ :=
    gives_of_toOption (by decide +kernel)
  have hcheck : Gives (regenerate roundaboutPlan true) roundaboutHost (roundaboutReport true) _ :=
    gives_of_toOption (by decide +kernel)
  refine ⟨by decide +kernel, by decide +kernel, by decide +kernel, by decide +kernel, ⟨_, hrun⟩, ?_⟩
  rintro ⟨checked, hchecked⟩
  exact absurd (hcheck.unique hchecked).1 (by decide +kernel)

end Regeneration

end ProtoRefresh
