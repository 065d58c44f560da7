-- The commands of a regeneration. Those that prepare it are planned from
-- the start and do not look at the files; then the compiler is run once, by
-- the name that the last of them has printed. No other step runs anything.
import ProtoRefresh.Proofs.Compiler.Command
import ProtoRefresh.Proofs.Host.Commands
import ProtoRefresh.Proofs.Regeneration.Generate

namespace ProtoRefresh

open ProtoRefresh.Action

variable {α β : Type} {host after : Host}

/-! ## Steps that run nothing -/

theorem Glob.quiet_search (start : Path) (pattern : String) : Quiet (search start pattern) :=
  (Quiet.ofExcept _).bind fun _ => .get_bind fun _ => .pure _

theorem Glob.quiet_searchBelow (start : Path) (pattern : String) :
    Quiet (searchBelow start pattern) :=
  (Quiet.ofExcept _).bind fun _ => .get_bind fun _ => .pure _

theorem Glob.quiet_listFiles (root : Path) (pattern : String) : Quiet (listFiles root pattern) := by
  unfold listFiles
  exact .guard (.get_bind fun _ => .pure _)

theorem Plan.quiet_resolveInput (root : Path) (pattern : String) :
    Quiet (resolveInput root pattern) := by
  unfold resolveInput
  split
  · exact .pure _
  · apply (Glob.quiet_listFiles root pattern).bind
    intro found
    split
    · exact (quiet_log _ _).bind fun _ => .pure _
    · exact .pure _

theorem Plan.quiet_resolveInputs (plan : Plan) : Quiet plan.resolveInputs :=
  (Quiet.mapM (quiet_resolveInput plan.root) plan.inputs).bind fun _ => .pure _

namespace Rewrite

theorem quiet_rewriteTree (directory : Path) (rules : List Rule) (pattern : String) :
    Quiet (rewriteTree directory rules pattern) :=
  (Glob.quiet_searchBelow directory pattern).bind fun files =>
    (quiet_rewriteFiles rules files).bind fun _ => (quiet_log _ _).bind fun _ => .pure _

end Rewrite

namespace Relocation

theorem quiet_expand (directory : Path) (pattern : String) (claimed : List Path) :
    Quiet (expand directory pattern claimed) := by
  unfold expand
  split
  · apply (Glob.quiet_search directory pattern).bind
    intro found
    exact .guard (.pure _)
  · apply Quiet.guard
    apply (quiet_isFile _).bind
    intro there
    exact .guard (.pure _)

theorem quiet_differs (target p : Path) : Quiet (differs target p) := by
  have hchecksum : ∀ q, Quiet (fileChecksum q) := fun q => (quiet_readFile q).bind fun _ => .pure _
  apply (quiet_isFile target).bind
  intro there
  split
  · exact (hchecksum target).bind fun _ => (hchecksum p).bind fun _ => .pure _
  · exact .pure _

theorem quiet_place (root : Path) (dryRun : Bool) (source : Source) (p : Path) :
    Quiet (place root dryRun source p) := by
  have hlast : ∀ message placement, Quiet (do
      Action.log .debug message
      return placement : Action Placement) := fun message placement =>
    (quiet_log _ message).bind fun _ => .pure placement
  apply (quiet_differs _ p).bind
  intro changed
  dsimp only
  split
  · apply (quiet_makeDirectories _ _ _).bind
    intro _
    exact (quiet_moveFile p _).bind fun _ => hlast _ _
  · exact hlast _ _

theorem quiet_placeSources (directory root : Path) (dryRun : Bool) (sources : List Source) :
    ∀ claimed, Quiet (placeSources directory root dryRun sources claimed) := by
  induction sources with
  | nil => exact fun _ => .pure _
  | cons source rest ih =>
    intro claimed
    apply (quiet_expand directory source.pattern claimed).bind
    intro found
    apply (Quiet.mapM (quiet_place root dryRun source) found).bind
    intro placed
    exact (ih _).bind fun _ => .pure _

end Relocation

namespace Regeneration

theorem quiet_makeFresh (directory : Path) : Quiet (makeFresh directory) := by
  apply (quiet_pathExists directory).bind
  intro there
  dsimp only
  split
  · exact (quiet_removeTree directory).bind fun _ => quiet_makeDirectories _ _ _
  · exact quiet_makeDirectories _ _ _

theorem quiet_listGenerated (plan : Plan) : Quiet (listGenerated plan) :=
  (Glob.quiet_searchBelow _ _).bind fun _ => (quiet_log _ _).bind fun _ => .pure _

end Regeneration

/-! ## The commands before the compiler -/

namespace Regeneration

/-- The call of a command of a plan. -/
def planned (plan : Plan) (argv : List String) (captured : Bool) : Call :=
  ⟨argv, some plan.root.text, captured⟩

/-- The call that builds a helper: all of its package, or only the program that it names. -/
def cargoBuild (plan : Plan) (helper : Helper) : Call :=
  match helper.bin with
  | none => planned plan ["cargo", "build", "--manifest-path=" ++ helper.manifest] false
  | some bin =>
    if bin = "" then planned plan ["cargo", "build", "--manifest-path=" ++ helper.manifest] false
    else
      planned plan ["cargo", "build", "--manifest-path=" ++ helper.manifest, "--bin", bin] false

/-- The call that runs a helper for what it prints. A helper that names no program is asked for one
with the name `None`. -/
def cargoRun (plan : Plan) (finder : Helper) : Call :=
  match finder.bin with
  | none =>
    planned plan ["cargo", "run", "--manifest-path=" ++ finder.manifest, "--bin", "None"] true
  | some bin =>
    planned plan ["cargo", "run", "--manifest-path=" ++ finder.manifest, "--bin", bin] true

/-- The calls that a plan makes before it touches its directory: the compiler tells its version, the
helpers are built in order, and one of them tells which compiler to run. -/
def preparation (plan : Plan) : List Call :=
  planned plan [plan.versionCompiler, "--version"] true :: plan.helpers.map (cargoBuild plan) ++
    (plan.compilerFinder.map (cargoRun plan)).toList

/-- The compiler that a plan runs: the one that its helper has told, or the standard one. -/
def compilerName (plan : Plan) (host : Host) : String :=
  match plan.compilerFinder with
  | none => "protoc"
  | some _ => Text.trimmed (host.answer (plan.helpers.length + 1)).stdout

/-- Everything before the directory is touched. -/
def prepare (plan : Plan) : Action (String × Toolchain) := do
  let version ← compilerVersion plan.versionCompiler (some plan.root.text)
  checkVersion version plan.versionStart
  return (version, ← plan.toolchain)

/-- Fills the directory once it is made afresh, and lists and rewrites what is in it then. -/
def fill (plan : Plan) (version : String) (toolchain : Toolchain) :
    Action (String × List String × List Path) := do
  compile plan toolchain
  let generated ← listGenerated plan
  let rules ← Action.ofExcept (plan.rules.mapError Failure.pattern)
  let rewritten ← Rewrite.rewriteTree (generationDir plan) rules (generatedPattern plan)
  return (version, generated, rewritten)

/-- Everything after the preparation. -/
def finish (plan : Plan) (check : Bool) (version : String) (toolchain : Toolchain) :
    Action Report := do
  makeFresh (generationDir plan)
  let (version, generated, rewritten) ← fill plan version toolchain
  let placements ← Relocation.relocate (generationDir plan) plan.root plan.moves check
  return ⟨version, generated, rewritten.map (textBelow (generationDir plan)), placements⟩

theorem generate_eq (plan : Plan) : generate plan =
    prepare plan >>= fun x => makeFresh (generationDir plan) >>= fun _ => fill plan x.1 x.2 := by
  unfold generate prepare fill
  simp only [bind_assoc, pure_bind]

theorem regenerate_eq (plan : Plan) (check : Bool) :
    regenerate plan check = prepare plan >>= fun x => finish plan check x.1 x.2 := by
  unfold regenerate finish
  simp only [generate_eq, bind_assoc]

theorem planned_buildCommand (plan : Plan) (helper : Helper) :
    planned plan helper.buildCommand false = cargoBuild plan helper := by
  unfold Helper.buildCommand cargoBuild
  cases helper.bin with
  | none => rfl
  | some bin =>
    by_cases hbin : bin = ""
    · subst hbin
      rfl
    · rw [Option.filter_some_pos (by simpa using hbin)]
      exact (if_neg hbin).symm

theorem planned_runCommand (plan : Plan) (finder : Helper) :
    planned plan finder.runCommand true = cargoRun plan finder := by
  unfold Helper.runCommand cargoRun
  cases finder.bin with
  | none => rfl
  | some bin => rfl

theorem scripted_build (plan : Plan) (helper : Helper) :
    Scripted [cargoBuild plan helper] (helper.build (some plan.root.text)) := by
  have hrun := scripted_runCommand helper.buildCommand (some plan.root.text) false
  rw [← planned_buildCommand]
  exact hrun.bind fun _ => .pure _

theorem scripted_run (plan : Plan) (finder : Helper) :
    Scripted [cargoRun plan finder] (finder.run (some plan.root.text)) := by
  have hrun := scripted_runCommand finder.runCommand (some plan.root.text) true
  rw [← planned_runCommand]
  exact hrun.bind fun _ => .pure _

theorem scripted_helpers (plan : Plan) : Scripted (plan.helpers.map (cargoBuild plan))
    (plan.helpers.forM fun helper => helper.build (some plan.root.text)) :=
  .forM (scripted_build plan) plan.helpers

theorem scripted_ofWorkspace (workspace : Path) (compiler lang : String) (system : Option String) :
    Scripted [] (Toolchain.ofWorkspace workspace compiler lang system) := by
  unfold Toolchain.ofWorkspace
  apply Scripted.guard
  intro host result after h
  rw [ends_get_bind, ends_pure] at h
  obtain ⟨rfl, rfl⟩ := h
  refine ⟨[], .nothing rfl rfl rfl, fun tree => ?_⟩
  rw [ends_get_bind, ends_pure]
  exact ⟨rfl, rfl⟩

theorem scripted_toolchain (plan : Plan) :
    Scripted (plan.helpers.map (cargoBuild plan) ++
      (plan.compilerFinder.map (cargoRun plan)).toList) plan.toolchain := by
  unfold Plan.toolchain
  apply (scripted_helpers plan).bind
  intro _
  cases plan.compilerFinder with
  | none => exact scripted_ofWorkspace _ _ _ _
  | some finder =>
    exact (scripted_run plan finder).bind fun compiler => (scripted_log _ _).bind fun _ =>
      (Scripted.pure compiler).bind fun _ => scripted_ofWorkspace _ _ _ _

theorem scripted_version (plan : Plan) :
    Scripted [planned plan [plan.versionCompiler, "--version"] true]
      (compilerVersion plan.versionCompiler (some plan.root.text)) :=
  (scripted_runCommand _ _ true).bind fun _ => .pure _

theorem scripted_checkVersion (version start : String) :
    Scripted [] (checkVersion version start) := by
  unfold checkVersion
  exact .guard (scripted_log _ _)

theorem scripted_prepare (plan : Plan) : Scripted (preparation plan) (prepare plan) := by
  have hplanned : preparation plan = [planned plan [plan.versionCompiler, "--version"] true] ++
      ([] ++ (plan.helpers.map (cargoBuild plan) ++
        (plan.compilerFinder.map (cargoRun plan)).toList ++ [])) := by
    simp [preparation]
  rw [hplanned]
  exact (scripted_version plan).bind fun version => (scripted_checkVersion version _).bind fun _ =>
    (scripted_toolchain plan).bind fun toolchain => .pure (version, toolchain)

theorem keeps_prepare (plan : Plan) : Keeps Host.Proper (prepare plan) :=
  (keeps_compilerVersion _ _).bind fun _ => (keeps_checkVersion _ _).bind fun _ =>
    (keeps_toolchain plan).bind fun _ => .pure _

/-! ## The compiler -/

theorem gives_ofWorkspace {workspace : Path} {compiler lang : String} {system : Option String}
    {toolchain : Toolchain}
    (h : Gives (Toolchain.ofWorkspace workspace compiler lang system) host toolchain after) :
    toolchain.compiler = compiler := by
  unfold Toolchain.ofWorkspace at h
  obtain ⟨_, h⟩ := gives_guard.1 h
  rw [gives_get_bind, gives_pure] at h
  rw [← h.1]

/-- A helper tells what it has printed. -/
theorem gives_run {helper : Helper} {directory : Option String} {told : String}
    (h : Gives (helper.run directory) host told after) :
    told = Text.trimmed (host.answer 0).stdout := by
  obtain ⟨printed, _, hrun, hlast⟩ := gives_bind.1 h
  obtain ⟨rfl, _⟩ := gives_pure.1 hlast
  obtain ⟨hresult, _⟩ := ends_runCommand.1 (ends_ok_iff.2 hrun)
  obtain ⟨_, rfl⟩ := Call.result_eq_ok_iff.1 hresult.symm
  rfl

/-- Once its preparation has ended well a plan has its compiler. -/
theorem compiler_of_gives_prepare {plan : Plan} {version : String} {toolchain : Toolchain}
    (h : Gives (prepare plan) host (version, toolchain) after) :
    toolchain.compiler = compilerName plan host := by
  unfold prepare at h
  obtain ⟨told, telling, hversion, h⟩ := gives_bind.1 h
  obtain ⟨_, checked, hcheck, h⟩ := gives_bind.1 h
  obtain ⟨found, _, htoolchain, hlast⟩ := gives_bind.1 h
  obtain ⟨heq, rfl⟩ := gives_pure.1 hlast
  cases heq
  unfold Plan.toolchain at htoolchain
  obtain ⟨_, built, hhelpers, htoolchain⟩ := gives_bind.1 htoolchain
  have hresponses : built.responses = host.responses.drop (plan.helpers.length + 1) := by
    rw [(scripted_helpers plan).responses hhelpers, (scripted_checkVersion _ _).responses hcheck,
      (scripted_version plan).responses hversion, List.drop_drop, List.drop_drop, List.length_map]
    congr 1
    simp only [List.length_cons, List.length_nil]
    omega
  unfold compilerName
  cases hfinder : plan.compilerFinder with
  | none =>
    rw [hfinder] at htoolchain
    exact gives_ofWorkspace htoolchain
  | some finder =>
    rw [hfinder] at htoolchain
    obtain ⟨compiler, _, hrun, htoolchain⟩ := gives_bind.1 htoolchain
    obtain ⟨_, _, _, htoolchain⟩ := gives_bind.1 htoolchain
    rw [gives_ofWorkspace htoolchain, gives_run hrun, Host.answer_of_drop hresponses]

/-- The action runs one program at most, and at most once. -/
def RunsOnce (program : String) (directory : Option String) (action : Action α) : Prop :=
  ∀ ⦃host result after⦄, Ends action host result after →
    ∃ arguments made, Made [⟨program :: arguments, directory, false⟩] made host result after

variable {program : String} {directory : Option String}

theorem RunsOnce.after_quiet {first : Action α} {rest : α → Action β} (hfirst : Quiet first)
    (hrest : ∀ a, RunsOnce program directory (rest a)) :
    RunsOnce program directory (first >>= rest) := by
  intro host result after h
  rcases ends_bind.1 h with ⟨failure, hfail, rfl⟩ | ⟨a, middle, hgives, hends⟩
  · exact ⟨[], [], (hfirst.made hfail).failing _⟩
  · obtain ⟨arguments, made, hmade⟩ := hrest a hends
    exact ⟨arguments, made, (hfirst.made (ends_ok_iff.2 hgives)).append hmade⟩

theorem RunsOnce.bind_quiet {first : Action α} {rest : α → Action β}
    (hfirst : RunsOnce program directory first) (hrest : ∀ a, Quiet (rest a)) :
    RunsOnce program directory (first >>= rest) := by
  intro host result after h
  rcases ends_bind.1 h with ⟨failure, hfail, rfl⟩ | ⟨a, middle, hgives, hends⟩
  · obtain ⟨arguments, made, hmade⟩ := hfirst hfail
    exact ⟨arguments, made, hmade.failing []⟩
  · obtain ⟨arguments, made, hmade⟩ := hfirst (ends_ok_iff.2 hgives)
    have hboth := hmade.append ((hrest a).made hends)
    rw [List.append_nil] at hboth
    exact ⟨arguments, made ++ [], hboth⟩

theorem command_eq_ok {setup : Compiler.Setup} {argv : List String}
    (h : setup.command = .ok argv) : ∃ arguments, argv = setup.compiler :: arguments := by
  obtain ⟨_, _, _, rfl⟩ := Compiler.Setup.command_eq_ok_iff.1 h
  exact ⟨_, rfl⟩

theorem runs_once_run (setup : Compiler.Setup) :
    RunsOnce setup.compiler (setup.directory.map Path.text) setup.run := by
  intro host result after h
  rcases ends_bind.1 h with ⟨failure, hfail, rfl⟩ | ⟨argv, middle, hgives, hends⟩
  · exact ⟨[], [], ((Quiet.ofExcept _).made hfail).failing _⟩
  · obtain ⟨hargv, rfl⟩ := gives_ofExcept.1 hgives
    obtain ⟨arguments, rfl⟩ := command_eq_ok hargv
    have hrest : RunsOnce setup.compiler (setup.directory.map Path.text) (do
        Action.ensureDirectory (setup.locate (setup.outDir.getD Path.here))
        let _ ← runCommand (setup.compiler :: arguments) (setup.directory.map Path.text) false
        Action.log .debug ("generated " ++ toString setup.inputs.length ++ " input(s) into " ++
          (setup.outDir.getD Path.here).text)) := by
      apply RunsOnce.after_quiet (quiet_makeDirectories _ _ _)
      intro _
      have hrun := scripted_runCommand (setup.compiler :: arguments)
        (setup.directory.map Path.text) false
      apply RunsOnce.bind_quiet _ fun _ => quiet_log _ _
      intro host result after h
      obtain ⟨made, hmade, _⟩ := hrun h
      exact ⟨arguments, made, hmade⟩
    exact hrest hends

theorem runs_once_compile (plan : Plan) (toolchain : Toolchain) :
    RunsOnce toolchain.compiler (some plan.root.text) (compile plan toolchain) := by
  have hrun : ∀ inputs, RunsOnce toolchain.compiler (some plan.root.text)
      (Compiler.Setup.ofSettings (settings plan toolchain ++ [.inputs inputs])).run :=
    fun inputs => runs_once_run _
  unfold compile
  intro host result after h
  rcases ends_guard.1 h with ⟨_, rfl, rfl⟩ | ⟨_, h⟩
  · exact ⟨[], [], .refused _ after .wrongType⟩
  · exact RunsOnce.after_quiet (Plan.quiet_resolveInputs plan) (fun inputs => hrun _) h

theorem runs_once_fill (plan : Plan) (version : String) (toolchain : Toolchain) :
    RunsOnce toolchain.compiler (some plan.root.text) (fill plan version toolchain) := by
  apply (runs_once_compile plan toolchain).bind_quiet
  intro _
  apply (quiet_listGenerated plan).bind
  intro generated
  apply (Quiet.ofExcept _).bind
  intro rules
  exact (Rewrite.quiet_rewriteTree _ rules _).bind fun _ => .pure _

theorem runs_once_finish (plan : Plan) (check : Bool) (version : String) (toolchain : Toolchain) :
    RunsOnce toolchain.compiler (some plan.root.text) (finish plan check version toolchain) := by
  apply RunsOnce.after_quiet (quiet_makeFresh _)
  intro _
  apply (runs_once_fill plan version toolchain).bind_quiet
  rintro ⟨version, generated, rewritten⟩
  exact (Relocation.quiet_placeSources _ _ _ _ _).bind fun _ => .pure _

/-! ## All commands -/

/-- The calls that were made are the first of those that were planned: each but the last one has
ended well, one without its program or with another status was the last and is the failure of the
whole run, and a run that ends well has made them all. -/
structure InOrder (planned made : List Call) (host : Host) (result : Except Failure Report)
    (after : Host) : Prop where
  calls : after.calls = host.calls ++ made
  in_order : made <+: planned
  answered : ∀ k, k + 1 < made.length → (host.answer k).outcome = .ended 0
  missing : ∀ k call, made[k]? = some call → (host.answer k).outcome = .missing →
    k + 1 = made.length ∧ result = .error (.command call.argv none "")
  failed : ∀ k call status, made[k]? = some call → (host.answer k).outcome = .ended status →
    status ≠ 0 → k + 1 = made.length ∧
      ∃ stderr, result = .error (.command call.argv (some status) stderr)
  complete : ∀ report, result = .ok report → made = planned

theorem inOrder_of_made {planned made : List Call} {result : Except Failure Report}
    (h : Made planned made host result after) (hargv : ∀ call ∈ planned, call.argv ≠ []) :
    InOrder planned made host result after := by
  refine ⟨h.calls, h.in_order, ?_, ?_, ?_, h.complete⟩
  · intro k hk
    cases hr : made[k].result (host.answer k) with
    | ok value => exact (Call.result_eq_ok_iff.1 hr).1
    | error failure =>
      have hlast := (h.failed k _ failure (List.getElem?_eq_getElem _) hr).1
      omega
  · intro k call hk hmissing
    have hcall : call.argv.isEmpty = false :=
      List.isEmpty_eq_false_iff.2 (hargv call (h.in_order.subset (List.mem_of_getElem? hk)))
    exact h.failed k call _ hk (by rw [Call.result, hmissing, hcall]; rfl)
  · intro k call status hk hended hstatus
    have hresult := h.failed k call _ hk (by rw [Call.result, hended]; exact if_pos hstatus)
    exact ⟨hresult.1, _, hresult.2⟩

/-- Whatever the plan, the files and the answers are: a regeneration runs the commands that prepare
it, then the compiler, in order and no command twice, until one of them fails. -/
theorem commands_run_in_order (plan : Plan) (check : Bool) (host : Host) :
    ∃ arguments made, InOrder
      (preparation plan ++ [planned plan (compilerName plan host :: arguments) false]) made host
      (((regenerate plan check).run).run host).1 (((regenerate plan check).run).run host).2 := by
  have hargv : ∀ arguments, ∀ call ∈ preparation plan ++
      [planned plan (compilerName plan host :: arguments) false], call.argv ≠ [] := by
    intro arguments
    have hbuild : ∀ helper, (cargoBuild plan helper).argv ≠ [] := by
      intro helper
      rw [← planned_buildCommand]
      exact List.cons_ne_nil _ _
    have hrun : ∀ finder, (cargoRun plan finder).argv ≠ [] := by
      intro finder
      rw [← planned_runCommand]
      exact List.cons_ne_nil _ _
    unfold preparation
    simp only [List.forall_mem_append, List.forall_mem_cons, List.forall_mem_map]
    refine ⟨⟨⟨List.cons_ne_nil _ _, fun helper _ => hbuild helper⟩, ?_⟩,
      List.cons_ne_nil _ _, by simp⟩
    cases plan.compilerFinder with
    | none => simp
    | some finder => exact List.forall_mem_singleton.2 (hrun finder)
  have hrun := ends_run (regenerate plan check) host
  revert hrun
  generalize (((regenerate plan check).run).run host).1 = result
  generalize (((regenerate plan check).run).run host).2 = after
  intro hrun
  rw [regenerate_eq] at hrun
  rcases ends_bind.1 hrun with ⟨failure, hfail, rfl⟩ | ⟨⟨version, toolchain⟩, middle, hgives, hends⟩
  · obtain ⟨made, hmade, _⟩ := scripted_prepare plan hfail
    exact ⟨[], made, inOrder_of_made (hmade.failing _) (hargv [])⟩
  · obtain ⟨made, hmade, _⟩ := scripted_prepare plan (ends_ok_iff.2 hgives)
    obtain ⟨arguments, makes, hmakes⟩ := runs_once_finish plan check version toolchain hends
    rw [compiler_of_gives_prepare hgives] at hmakes
    exact ⟨arguments, made ++ makes, inOrder_of_made (hmade.append hmakes) (hargv arguments)⟩

end Regeneration

end ProtoRefresh
