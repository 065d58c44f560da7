-- What a check leaves alone. Each step of it works inside the generation
-- directory or only looks, wherever it fails; so outside of that directory
-- a check changes no more than its commands do, but that the directories
-- on the way there are made.
import ProtoRefresh.Proofs.Host.Border
import ProtoRefresh.Proofs.Regeneration.Beside
import ProtoRefresh.Proofs.Regeneration.Calls
import ProtoRefresh.Proofs.Relocation.DryRun

namespace ProtoRefresh

open FileTree ProtoRefresh.Action

variable {directory p : Path}

/-! ## Rewriting -/

namespace Rewrite

theorem leads_rewriteFile (hp : p.IsBelow directory) (hne : p ≠ directory) (rules : List Rule) :
    Leads (SameOutside directory) (rewriteFile p rules) := by
  have htemporary := temporary_isBelow hp hne
  have hread : Looks (readText p) := (looks_readFile p).bind fun _ => looks_decode _
  refine (Leads.sameOutside hread).bind fun old => ?_
  refine (leads_writeText _ fun _ => htemporary.leads_down).bind fun _ => ?_
  exact (leads_change fun h => .of_rename htemporary.leads_down hp.leads_down h).bind fun _ =>
    .pure _

theorem leads_rewriteFiles (rules : List Rule) {files : List Path}
    (hfiles : ∀ p ∈ files, p.IsBelow directory ∧ p ≠ directory) :
    Leads (SameOutside directory) (rewriteFiles rules files) := by
  induction files with
  | nil => exact .pure _
  | cons p rest ih =>
    obtain ⟨hbelow, hne⟩ := hfiles p List.mem_cons_self
    have hrest := ih fun q hq => hfiles q (List.mem_cons_of_mem p hq)
    exact (leads_rewriteFile hbelow hne rules).bind fun _ => hrest.bind fun _ => .pure _

/-- Where the pattern does not step back all files that are rewritten are in the directory. -/
theorem keepsOutside_rewriteTree {pattern : String}
    (hnoBack : ".." ∉ (Path.ofText pattern).parts) (rules : List Rule) :
    KeepsOutside directory (rewriteTree directory rules pattern) := by
  refine KeepsOutside.bind_gives (.of_looks (Glob.looks_searchBelow directory pattern))
    (Glob.keeps_searchBelow directory pattern) fun host files searched hhost hsearch => ?_
  obtain ⟨query, hquery, rfl, _⟩ := Glob.gives_searchBelow.1 hsearch
  have hstages : Glob.Stage.exactly ".." ∉ Glob.Stage.deep :: query.stages :=
    List.not_mem_cons_of_ne_of_not_mem (by simp) (Glob.Query.noBack_of_ofText hquery hnoBack)
  refine KeepsOutside.bind (.of_leads (leads_rewriteFiles rules fun p hp => ⟨?_, ?_⟩))
    (keeps_rewriteFiles rules _) fun _ => .of_looks ((looks_log _ _).bind fun _ => .pure _)
  · exact Glob.Query.isBelow_of_mem_files hhost.tree hstages hp
  · obtain ⟨_, hread⟩ := isFile_iff.1 (Glob.Query.isFile_of_mem_files hp)
    exact ne_of_read hread (Glob.Query.isDirectory_of_mem_files hp)

end Rewrite

/-! ## The steps of a run -/

namespace Regeneration

variable {plan : Plan} {toolchain : Toolchain}

theorem leads_makeFresh (directory : Path) :
    Leads (SameOutside directory) (makeFresh directory) := by
  refine (Leads.sameOutside (looks_pathExists directory)).bind fun there => ?_
  dsimp only
  split
  · exact (leads_removeTree directory).bind fun _ => leads_makeDirectories _ _ _
  · exact leads_makeDirectories _ _ _

theorem looks_resolveInputs (plan : Plan) : Looks plan.resolveInputs :=
  (Leads.mapM (Plan.looks_resolveInput plan.root) plan.inputs).bind fun _ => .pure _

theorem keepsOutside_compile (hroot : plan.root.Proper) :
    KeepsOutside (generationDir plan) (compile plan toolchain) := by
  unfold compile
  refine .guard (KeepsOutside.bind (.of_looks (looks_resolveInputs plan)) ?_ fun inputs => ?_)
  · exact (Keeps.mapM (keeps_resolveInput keeps_log plan.root) plan.inputs).bind fun _ => .pure _
  · -- the compiler makes the directory that it generates into, if that has gone
    refine KeepsOutside.bind (.of_looks (.ofExcept _)) (.ofExcept _) fun argv => ?_
    refine KeepsOutside.bind (.of_leads (leads_makeDirectories _ (generationDir plan) _))
      (keeps_makeDirectories (hroot.joinText _) _ _) fun _ => ?_
    exact KeepsOutside.bind (.of_scripted (scripted_runCommand _ _ _)) (keeps_runCommand _ _ _)
      fun _ => .of_looks (looks_log _ _)

theorem keeps_fill (hroot : plan.root.Proper) (version : String) (toolchain : Toolchain) :
    Keeps Host.Proper (fill plan version toolchain) := by
  have hlist : Keeps Host.Proper (listGenerated plan) :=
    (Glob.keeps_searchBelow _ _).bind fun _ => (keeps_log _ _).bind fun _ => .pure _
  exact (keeps_compile hroot toolchain).bind fun _ => hlist.bind fun _ =>
    (Keeps.ofExcept _).bind fun rules =>
      (Rewrite.keeps_rewriteTree _ rules _).bind fun _ => .pure _

theorem keepsOutside_fill (hroot : plan.root.Proper)
    (hsuffix : '/' ∉ plan.generatedSuffix.toList) (version : String) :
    KeepsOutside (generationDir plan) (fill plan version toolchain) := by
  have hlist : Looks (listGenerated plan) :=
    (Glob.looks_searchBelow _ _).bind fun _ => (looks_log _ _).bind fun _ => .pure _
  have hkeeps : Keeps Host.Proper (listGenerated plan) :=
    (Glob.keeps_searchBelow _ _).bind fun _ => (keeps_log _ _).bind fun _ => .pure _
  refine (keepsOutside_compile hroot).bind (keeps_compile hroot toolchain) fun _ => ?_
  refine (KeepsOutside.of_looks hlist).bind hkeeps fun generated => ?_
  refine KeepsOutside.bind (.of_looks (.ofExcept _)) (.ofExcept _) fun rules => ?_
  exact (Rewrite.keepsOutside_rewriteTree (noBack_generatedPattern hsuffix) rules).bind
    (Rewrite.keeps_rewriteTree _ rules _) fun _ => .of_looks (.pure _)

/-- Whatever the plan, the files and the answers are, and however a check ends: outside the
generation directory all stands as the commands alone would have left it, but for directories on
the way there that were missing. -/
theorem a_check_changes_only_its_directory {host after : Host} {result : Except Failure Report}
    (hhost : host.Proper) (hroot : plan.root.Proper) (hsuffix : '/' ∉ plan.generatedSuffix.toList)
    (hrun : Ends (regenerate plan true) host result after) :
    ∃ made, after.calls = host.calls ++ made ∧
      Bordered host.current (generationDir plan) (host.tree.withOutputs (host.outputs made))
        after.tree := by
  have hfinish : ∀ version toolchain,
      KeepsOutside (generationDir plan) (finish plan true version toolchain) := by
    intro version toolchain
    refine (KeepsOutside.of_leads (leads_makeFresh _)).bind (keeps_makeFresh (hroot.joinText _))
      fun _ => ?_
    refine (keepsOutside_fill hroot hsuffix version).bind ?_ fun found => ?_
    · exact keeps_fill hroot version toolchain
    · exact .of_looks ((Relocation.looks_relocate _ _ _).bind fun _ => .pure _)
  rw [regenerate_eq] at hrun
  have hprepare := KeepsOutside.of_scripted (p := generationDir plan) (scripted_prepare plan)
  obtain ⟨made, hcalls, _, _, hborder⟩ :=
    hprepare.bind (keeps_prepare plan) (fun found => hfinish found.1 found.2) hhost hrun
  exact ⟨made, hcalls, hborder⟩

/-- The compiler leaves a file in a directory two levels down, and another one outside. -/
def strayingHost : Host where
  tree := FileTree.empty.withFile ["src", "a.rs"] [1]
  current := []
  scratch := Path.here
  responses :=
    [{ stdout := "libprotoc 3.1" },
     { writes := [⟨Path.ofText "out/tmp/a.rs", .file [2]⟩, ⟨Path.ofText "notes.txt", .file [3]⟩] }]
  calls := []
  log := []

def strayingPlan : Plan where
  root := Path.here
  inputs := ["stray.proto"]
  generationDir := "out/tmp"
  moves := [{ sources := ["a.rs", "b.rs"], dest := "src" }]

/-- A check that misses a file leaves the sources alone all the same. -/
theorem a_check_that_fails_leaves_the_sources :
    strayingHost.Proper ∧ strayingPlan.root.Proper ∧ '/' ∉ strayingPlan.generatedSuffix.toList ∧
      ∃ after, Ends (regenerate strayingPlan true) strayingHost
          (.error (.placement (.noFile "b.rs" ⟨0, ["out", "tmp"]⟩))) after ∧
        Bordered [] ⟨0, ["out", "tmp"]⟩
          (strayingHost.tree.withOutputs (strayingHost.outputs after.calls)) after.tree ∧
        after.tree.get? ["src", "a.rs"] = some (.file [1]) ∧
        after.tree.get? ["notes.txt"] = some (.file [3]) := by
  have hhost : strayingHost.Proper := by decide +kernel
  have hroot : strayingPlan.root.Proper := by decide +kernel
  have hsuffix : '/' ∉ strayingPlan.generatedSuffix.toList := by decide +kernel
  have hresult : (((regenerate strayingPlan true).run).run strayingHost).1 =
      .error (.placement (.noFile "b.rs" ⟨0, ["out", "tmp"]⟩)) := by decide +kernel
  have hrun := ends_run (regenerate strayingPlan true) strayingHost
  rw [hresult] at hrun
  obtain ⟨made, hmade, hborder⟩ := a_check_changes_only_its_directory hhost hroot hsuffix hrun
  have hcalls : strayingHost.calls ++ made = made := List.nil_append made
  rw [← hcalls, ← hmade] at hborder
  exact ⟨hhost, hroot, hsuffix, _, hrun, hborder, by decide +kernel, by decide +kernel⟩

end Regeneration

end ProtoRefresh
