-- The version of the compiler as a gate. A run with another version ends
-- after the one command that tells it, and no later step fails that way.
-- Until the last command that prepares the compiler has ended well, nothing
-- but the commands themselves has touched the files.
import ProtoRefresh.Proofs.Regeneration.Failing

namespace ProtoRefresh

open FileTree ProtoRefresh.Action

variable {host after : Host}

namespace Regeneration

/-! ## The gate -/

/-- The host differs from the one before by what some commands have left behind: their outputs, in
order, are all that has come to the tree, so what no output touches is still there. -/
structure OnlyCommands (made : List Call) (host after : Host) : Prop where
  calls : after.calls = host.calls ++ made
  tree : after.tree = host.tree.withOutputs (host.outputs made)
  kept : ∀ place, (∀ output ∈ host.outputs made,
      ¬ place <+: output.1 ∧ (output.2 = .directory ∨ ¬ output.1 <+: place)) →
    after.tree.get? place = host.tree.get? place
  directories : ∀ place, (∀ output ∈ host.outputs made,
      output.2 = .directory ∨ ¬ output.1 <+: place) →
    host.tree.get? place = some .directory → after.tree.get? place = some .directory

theorem onlyCommands_of_tree {made : List Call} (hcalls : after.calls = host.calls ++ made)
    (htree : after.tree = host.tree.withOutputs (host.outputs made)) :
    OnlyCommands made host after where
  calls := hcalls
  tree := htree
  kept := fun _ hplace => by rw [htree, get?_withOutputs_of_apart hplace]
  directories := fun _ hplace hdir => by rw [htree, get?_withOutputs_directory hplace hdir]

/-- The first command tells the version. -/
theorem ends_compilerVersion {compiler : String} {directory : Option String}
    {result : Except Failure String}
    (h : Ends (compilerVersion compiler directory) host result after) :
    after = host.afterCall ⟨[compiler, "--version"], directory, true⟩ ∧
      (∀ failure, result = .error failure → failure.SparesVersion) ∧
      ∀ version, result = .ok version ↔
        (host.answer 0).outcome = .ended 0 ∧ version = Text.trimmed (host.answer 0).stdout := by
  rcases ends_bind.1 h with ⟨failure, hfail, rfl⟩ | ⟨told, middle, hgives, hends⟩
  · obtain ⟨hresult, rfl⟩ := ends_runCommand.1 hfail
    refine ⟨rfl, ?_, ?_⟩
    · rintro _ ⟨⟩
      exact (Call.isSetback_of_result (List.cons_ne_nil _ _) hresult.symm).sparesVersion
    · intro version
      refine ⟨nofun, ?_⟩
      rintro ⟨hended, -⟩
      rw [Call.result_eq_ok_iff.2 ⟨hended, rfl⟩] at hresult
      cases hresult
  · obtain ⟨hresult, rfl⟩ := ends_runCommand.1 (ends_ok_iff.2 hgives)
    obtain ⟨rfl, rfl⟩ := ends_pure.1 hends
    obtain ⟨hended, rfl⟩ := Call.result_eq_ok_iff.1 hresult.symm
    refine ⟨rfl, nofun, fun version => ?_⟩
    rw [Except.ok.injEq, and_iff_right hended]
    exact eq_comm

/-- A version that starts as it has to passes, and another one fails on the spot. -/
theorem ends_checkVersion {told start : String} {result : Except Failure Unit}
    (h : Ends (checkVersion told start) host result after) :
    (¬ start.toList <+: told.toList ∧ result = .error (.version told) ∧ after = host) ∨
      (start.toList <+: told.toList ∧ result = .ok ()) := by
  unfold checkVersion at h
  rcases ends_guard.1 h with ⟨hwrong, hresult, hafter⟩ | ⟨hright, hlog⟩
  · rw [Bool.not_eq_true', ← Bool.not_eq_true, List.isPrefixOf_iff_prefix] at hwrong
    exact Or.inl ⟨hwrong, hresult, hafter⟩
  · rw [Bool.not_eq_true', Bool.not_eq_false, List.isPrefixOf_iff_prefix] at hright
    exact Or.inr ⟨hright, (ends_modify.1 hlog).1⟩

/-- A run fails for the version exactly if the first command ends well and what it tells does not
start as it has to; then nothing comes after that command. -/
theorem ends_regenerate_version {plan : Plan} {check : Bool} {result : Except Failure Report}
    (hrun : Ends (regenerate plan check) host result after) (version : String) :
    (result = .error (.version version) ↔
      (host.answer 0).outcome = .ended 0 ∧ version = Text.trimmed (host.answer 0).stdout ∧
        ¬ plan.versionStart.toList <+: version.toList) ∧
    (result = .error (.version version) →
      after = host.afterCall (planned plan [plan.versionCompiler, "--version"] true)) := by
  have hsteps : regenerate plan check =
      compilerVersion plan.versionCompiler (some plan.root.text) >>= fun version =>
        checkVersion version plan.versionStart >>= fun _ =>
          plan.toolchain >>= fun toolchain => finish plan check version toolchain := by
    rw [regenerate_eq]
    unfold prepare
    simp only [bind_assoc, pure_bind]
  rw [hsteps] at hrun
  rcases ends_bind.1 hrun with ⟨failure, hfail, rfl⟩ | ⟨told, middle, hgives, hends⟩
  · obtain ⟨_, hspares, htold⟩ := ends_compilerVersion hfail
    have hnot : failure ≠ .version version := by
      rintro rfl
      exact hspares _ rfl
    refine ⟨⟨fun h => absurd (Except.error.inj h) hnot, ?_⟩,
      fun h => absurd (Except.error.inj h) hnot⟩
    rintro ⟨hended, hversion, -⟩
    cases (htold version).2 ⟨hended, hversion⟩
  · obtain ⟨rfl, _, htold⟩ := ends_compilerVersion (ends_ok_iff.2 hgives)
    obtain ⟨hended, htext⟩ := (htold told).1 rfl
    rcases ends_bind.1 hends with ⟨failure, hfail, rfl⟩ | ⟨_, checked, hcheck, hrest⟩
    · rcases ends_checkVersion hfail with ⟨hwrong, heq, rfl⟩ | ⟨_, heq⟩
      · cases heq
        refine ⟨⟨?_, ?_⟩, fun _ => rfl⟩
        · rintro ⟨⟩
          exact ⟨hended, htext, hwrong⟩
        · rintro ⟨_, hversion, _⟩
          rw [hversion, htext]
      · cases heq
    · have hright : plan.versionStart.toList <+: told.toList := by
        rcases ends_checkVersion (ends_ok_iff.2 hcheck) with ⟨_, heq, _⟩ | ⟨hright, _⟩
        · cases heq
        · exact hright
      have hspares : FailsWith Failure.SparesVersion (plan.toolchain >>= fun toolchain =>
          finish plan check told toolchain) :=
        ((fails_toolchain plan).mono fun _ h => h.sparesVersion).bind fun toolchain =>
          (fails_finish plan check told toolchain).mono fun _ h => h.sparesVersion
      have hnot : result ≠ .error (.version version) := by
        rintro rfl
        exact hspares hrest
      refine ⟨⟨fun h => absurd h hnot, ?_⟩, fun h => absurd h hnot⟩
      rintro ⟨_, hversion, hwrong⟩
      rw [hversion, ← htext] at hwrong
      exact absurd hright hwrong

/-- A run in which a command of the preparation fails has done nothing but run commands. -/
theorem ends_regenerate_preparation {plan : Plan} {check : Bool} {result : Except Failure Report}
    (hrun : Ends (regenerate plan check) host result after) :
    ∃ made, after.calls = host.calls ++ made ∧
      ∀ k (call : Call) failure, (preparation plan)[k]? = some call → made[k]? = some call →
        call.result (host.answer k) = .error failure →
          result = .error failure ∧ OnlyCommands made host after := by
  rw [regenerate_eq] at hrun
  rcases ends_bind.1 hrun with ⟨failure, hfail, rfl⟩ | ⟨⟨version, toolchain⟩, middle, hgives, hends⟩
  · obtain ⟨made, hmade, htree⟩ := (scripted_prepare plan).tree hfail
    refine ⟨made, hmade.calls, ?_⟩
    intro k call other _ hk hother
    obtain ⟨_, heq⟩ := hmade.failed k call other hk hother
    cases heq
    exact ⟨rfl, onlyCommands_of_tree hmade.calls htree⟩
  · obtain ⟨made, hmade, _⟩ := scripted_prepare plan (ends_ok_iff.2 hgives)
    obtain ⟨_, makes, hmakes⟩ := runs_once_finish plan check version toolchain hends
    refine ⟨made ++ makes, (hmade.append hmakes).calls, ?_⟩
    intro k call other hplanned hk hother
    -- all commands of the preparation have ended well
    rw [← hmade.complete _ rfl] at hplanned
    cases (hmade.failed k call other hplanned hother).2

/-- Whatever the plan, the files and the answers are: a run fails for the version exactly if the
compiler tells one that does not start as it has to, and then that was the only command; and where
the version, a helper or the search for the compiler ends a run, the commands alone have touched
the files. -/
theorem the_version_guards_the_files {plan : Plan} {check : Bool} {result : Except Failure Report}
    (hrun : Ends (regenerate plan check) host result after) :
    (∀ version, result = .error (.version version) ↔
      (host.answer 0).outcome = .ended 0 ∧ version = Text.trimmed (host.answer 0).stdout ∧
        ¬ plan.versionStart.toList <+: version.toList) ∧
    ∃ made, after.calls = host.calls ++ made ∧
      (∀ version, result = .error (.version version) →
        made = [planned plan [plan.versionCompiler, "--version"] true] ∧
          OnlyCommands made host after) ∧
      ∀ k (call : Call) failure, (preparation plan)[k]? = some call → made[k]? = some call →
        call.result (host.answer k) = .error failure →
          result = .error failure ∧ OnlyCommands made host after := by
  obtain ⟨made, hcalls, hpreparation⟩ := ends_regenerate_preparation hrun
  refine ⟨fun version => (ends_regenerate_version hrun version).1, made, hcalls, ?_, hpreparation⟩
  intro version hversion
  have hafter := (ends_regenerate_version hrun version).2 hversion
  have hmade : made = [planned plan [plan.versionCompiler, "--version"] true] := by
    rw [hafter] at hcalls
    exact (List.append_cancel_left hcalls).symm
  refine ⟨hmade, onlyCommands_of_tree hcalls ?_⟩
  rw [hafter, hmade, Host.outputs_singleton]
  rfl

/-- A helper fails to build and leaves a log behind, beside the directory of an earlier run. -/
def halfBuiltHost : Host where
  tree := (FileTree.empty.withFile ["tmp", "old.rs"] [1]).withFile ["src", "lib.rs"] [2]
  current := []
  scratch := Path.here
  responses :=
    [{ stdout := "libprotoc 3.1\n" },
     { outcome := .ended 101, writes := [⟨Path.ofText "target/build.log", .file [3]⟩] }]
  calls := []
  log := []

def halfBuiltPlan : Plan where
  root := Path.here
  helpers := [{ manifest := "codegen/Cargo.toml" }]
  inputs := ["half.proto"]
  generationDir := "tmp"

theorem a_helper_that_fails_leaves_the_old_directory :
    ∃ after, Ends (regenerate halfBuiltPlan false) halfBuiltHost
        (.error (.command ["cargo", "build", "--manifest-path=codegen/Cargo.toml"] (some 101) ""))
        after ∧
      after.tree.get? ["tmp", "old.rs"] = some (.file [1]) ∧
      after.tree.get? ["src", "lib.rs"] = some (.file [2]) ∧
      after.tree.get? ["target", "build.log"] = some (.file [3]) := by
  have hrun := ends_run (regenerate halfBuiltPlan false) halfBuiltHost
  have hcalls : (((regenerate halfBuiltPlan false).run).run halfBuiltHost).2.calls =
      halfBuiltHost.calls ++ preparation halfBuiltPlan := by decide +kernel
  obtain ⟨_, made, hmade, _, hprepared⟩ := the_version_guards_the_files hrun
  have heq := List.append_cancel_left (hcalls.symm.trans hmade)
  subst heq
  obtain ⟨hresult, honly⟩ := hprepared 1 _ _ rfl rfl rfl
  rw [hresult] at hrun
  refine ⟨_, hrun, ?_, ?_, ?_⟩
  · rw [honly.kept _ (by decide +kernel)]
    decide +kernel
  · rw [honly.kept _ (by decide +kernel)]
    decide +kernel
  · rw [honly.tree]
    decide +kernel

end Regeneration

end ProtoRefresh
