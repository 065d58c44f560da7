-- The way of the inputs into the command of the compiler. They are resolved
-- once the directory is made afresh, and they are the last arguments, at
-- least one for each entry of the plan.
import ProtoRefresh.Proofs.Regeneration.Failing
import ProtoRefresh.Proofs.Regeneration.Fresh

namespace ProtoRefresh.Regeneration

open FileTree ProtoRefresh.Action

variable {host after : Host} {plan : Plan} {toolchain : Toolchain}

/-! ## The call of the compiler -/

theorem calls_of_quiet {α : Type} {action : Action α} (hquiet : Quiet action)
    {result : Except Failure α} (h : Ends action host result after) : after.calls = host.calls := by
  rw [hquiet h]

/-- The compiler is called with these inputs. -/
def IsCalled (plan : Plan) (host after : Host) (texts : List String) : Prop :=
  ∃ arguments, after.calls = host.calls ++
    [planned plan (arguments ++ texts.map fun text => (Path.ofText text).text) false]

/-- The inputs of a setup are the last arguments of its command. -/
theorem arguments_eq (plan : Plan) (toolchain : Toolchain) (outDir : Path) (texts : List String) :
    ∃ arguments, (Compiler.Setup.ofSettings
      (settings plan toolchain ++ [.inputs (texts.map Path.ofText)])).arguments outDir =
        arguments ++ texts.map fun text => (Path.ofText text).text := by
  unfold Compiler.Setup.arguments
  refine ⟨_, congrArg _ ?_⟩
  exact List.map_map

theorem isCalled_of_run {texts : List String} {result : Except Failure Unit}
    (h : Ends (Compiler.Setup.ofSettings
      (settings plan toolchain ++ [.inputs (texts.map Path.ofText)])).run host result after) :
    (after.calls = host.calls ∧ ∃ failure, result = .error failure) ∨
      IsCalled plan host after texts := by
  rcases ends_bind.1 h with ⟨failure, hfail, rfl⟩ | ⟨argv, middle, hgives, hends⟩
  · exact Or.inl ⟨calls_of_quiet (.ofExcept _) hfail, failure, rfl⟩
  obtain ⟨hargv, rfl⟩ := gives_ofExcept.1 hgives
  obtain ⟨outDir, _, _, rfl⟩ := Compiler.Setup.command_eq_ok_iff.1 hargv
  rcases ends_bind.1 hends with ⟨failure, hfail, rfl⟩ | ⟨_, made, hmake, hends⟩
  · exact Or.inl ⟨calls_of_quiet (quiet_makeDirectories _ _ _) hfail, failure, rfl⟩
  have hmade := calls_of_quiet (quiet_makeDirectories _ _ _) (ends_ok_iff.2 hmake)
  obtain ⟨arguments, harguments⟩ := arguments_eq plan toolchain outDir texts
  rw [harguments] at hends
  refine Or.inr ⟨arguments, ?_⟩
  rw [← hmade]
  rcases ends_bind.1 hends with ⟨failure, hfail, _⟩ | ⟨_, called, hcall, hlog⟩
  · rw [(ends_runCommand.1 hfail).2]
    rfl
  · rw [calls_of_quiet (quiet_log _ _) hlog, (ends_runCommand.1 (ends_ok_iff.2 hcall)).2]
    rfl

theorem isCalled_of_compile {result : Except Failure Unit}
    (h : Ends (compile plan toolchain) host result after) :
    (after.calls = host.calls ∧ ∃ failure, result = .error failure) ∨
      ∃ texts left, Gives plan.resolveInputs host texts left ∧ IsCalled plan host after texts := by
  unfold compile at h
  rcases ends_guard.1 h with ⟨_, rfl, rfl⟩ | ⟨_, h⟩
  · exact Or.inl ⟨rfl, _, rfl⟩
  rcases ends_bind.1 h with ⟨failure, hfail, rfl⟩ | ⟨texts, left, hgives, hends⟩
  · exact Or.inl ⟨calls_of_quiet (Plan.quiet_resolveInputs plan) hfail, failure, rfl⟩
  have hleft := calls_of_quiet (Plan.quiet_resolveInputs plan) (ends_ok_iff.2 hgives)
  rcases isCalled_of_run hends with ⟨hcalls, hfails⟩ | ⟨arguments, hcalls⟩
  · exact Or.inl ⟨hcalls.trans hleft, hfails⟩
  · exact Or.inr ⟨texts, left, hgives, arguments, by rw [hcalls, hleft]⟩

theorem isCalled_of_fill {version : String}
    {result : Except Failure (String × List String × List Path)}
    (h : Ends (fill plan version toolchain) host result after) :
    (after.calls = host.calls ∧ ∃ failure, result = .error failure) ∨
      ∃ texts left, Gives plan.resolveInputs host texts left ∧ IsCalled plan host after texts := by
  have hrest : Quiet (do
      let generated ← listGenerated plan
      let rules ← Action.ofExcept (plan.rules.mapError Failure.pattern)
      let rewritten ← Rewrite.rewriteTree (generationDir plan) rules (generatedPattern plan)
      return (version, generated, rewritten)) :=
    (quiet_listGenerated plan).bind fun _ => (Quiet.ofExcept _).bind fun rules =>
      (Rewrite.quiet_rewriteTree _ rules _).bind fun _ => .pure _
  unfold fill at h
  rcases ends_bind.1 h with ⟨failure, hfail, rfl⟩ | ⟨_, compiled, hgives, hends⟩
  · exact (isCalled_of_compile hfail).imp (fun h => ⟨h.1, _, rfl⟩) id
  · rcases isCalled_of_compile (ends_ok_iff.2 hgives) with
      ⟨_, _, heq⟩ | ⟨texts, left, hresolve, arguments, hcalls⟩
    · cases heq
    · exact Or.inr ⟨texts, left, hresolve, arguments, by rw [calls_of_quiet hrest hends, hcalls]⟩

/-- After its preparation a run calls nothing, and fails, or it calls the compiler with the inputs
that are found once its directory is made afresh. -/
theorem isCalled_of_finish {check : Bool} {version : String} {result : Except Failure Report}
    (h : Ends (finish plan check version toolchain) host result after) :
    (after.calls = host.calls ∧ ∃ failure, result = .error failure) ∨
      ∃ fresh texts left, Gives (makeFresh (generationDir plan)) host () fresh ∧
        Gives plan.resolveInputs fresh texts left ∧ IsCalled plan host after texts := by
  unfold finish at h
  rcases ends_bind.1 h with ⟨failure, hfail, rfl⟩ | ⟨_, fresh, hfresh, hends⟩
  · exact Or.inl ⟨calls_of_quiet (quiet_makeFresh _) hfail, failure, rfl⟩
  have hcalls := calls_of_quiet (quiet_makeFresh _) (ends_ok_iff.2 hfresh)
  rcases ends_bind.1 hends with ⟨failure, hfail, rfl⟩ | ⟨⟨version, generated, rewritten⟩, filled,
    hgives, hends⟩
  · rcases isCalled_of_fill hfail with ⟨hnone, _⟩ | ⟨texts, left, hresolve, arguments, hcalled⟩
    · exact Or.inl ⟨hnone.trans hcalls, failure, rfl⟩
    · exact Or.inr ⟨fresh, texts, left, hfresh, hresolve, arguments, by rw [hcalled, hcalls]⟩
  · have hrest : Quiet (do
        let placements ← Relocation.relocate (generationDir plan) plan.root plan.moves check
        return (⟨version, generated, rewritten.map (textBelow (generationDir plan)), placements⟩ :
          Report)) :=
      (Relocation.quiet_placeSources _ _ _ _ _).bind fun _ => .pure _
    rcases isCalled_of_fill (ends_ok_iff.2 hgives) with
      ⟨_, _, heq⟩ | ⟨texts, left, hresolve, arguments, hcalled⟩
    · cases heq
    · exact Or.inr ⟨fresh, texts, left, hfresh, hresolve, arguments, by
        rw [calls_of_quiet hrest hends, hcalled, hcalls]⟩

/-! ## Whole runs -/

theorem fails_regenerate_setup (plan : Plan) (check : Bool) :
    FailsWith Failure.SparesSetup (regenerate plan check) := by
  refine (fails_regenerate_step plan check).mono ?_
  rintro failure (⟨found, rfl⟩ | h)
  · trivial
  · exact h.sparesSetup

/-- The inputs of a plan are the blocks of its entries in order, none of them empty, unless there is
an entry that cannot be listed. A run never lacks an output directory or inputs for the compiler: it
fails before, or the last arguments of the compiler are the paths of these inputs, as they are once
the directory is made afresh. -/
theorem the_inputs_reach_the_compiler_in_order {plan : Plan} {host : Host} (hhost : host.Proper)
    (hroot : plan.root.Proper) :
    (∃ result after, Ends plan.resolveInputs host result after ∧
      (((∃ pattern ∈ plan.inputs, Plan.IsEnded plan.root pattern) ∧
          result = .error (.endedPath .listing)) ∨
        (∀ pattern ∈ plan.inputs, ¬ Plan.IsEnded plan.root pattern) ∧ ∃ blocks,
          List.Forall₂ (Plan.IsBlock host.tree host.current plan.root) plan.inputs blocks ∧
          (∀ block ∈ blocks, block ≠ []) ∧ result = .ok blocks.flatten)) ∧
    ∀ check result after, Ends (regenerate plan check) host result after →
      result ≠ .error .noOutput ∧ result ≠ .error .noInputs ∧
      ∃ made, after.calls = host.calls ++ made ∧
        (∀ report, result = .ok report → made.length = (preparation plan).length + 1) ∧
        ∀ call, made[(preparation plan).length]? = some call →
          ∃ found start fresh blocks arguments, Gives (prepare plan) host found start ∧
            Gives (makeFresh (generationDir plan)) start () fresh ∧
            List.Forall₂ (Plan.IsBlock fresh.tree fresh.current plan.root) plan.inputs blocks ∧
            (∀ block ∈ blocks, block ≠ []) ∧
            call.argv = arguments ++ blocks.flatten.map fun text => (Path.ofText text).text := by
  have hspelled := Path.ofText_text hroot
  constructor
  · have hends := ends_run plan.resolveInputs host
    refine ⟨_, _, hends, ?_⟩
    rcases Plan.ends_resolveInputs hhost.tree hspelled hends with hended | ⟨hopen, blocks, h, heq⟩
    · exact Or.inl hended
    · exact Or.inr ⟨hopen, blocks, h, Plan.ne_nil_of_blocks h, heq⟩
  · intro check result after hrun
    have hspares := fails_regenerate_setup plan check
    refine ⟨?_, ?_, ?_⟩
    · rintro rfl
      exact hspares hrun
    · rintro rfl
      exact hspares hrun
    rw [regenerate_eq] at hrun
    rcases ends_bind.1 hrun with ⟨failure, hfail, rfl⟩ | ⟨found, start, hgives, hends⟩
    · obtain ⟨made, hmade, _⟩ := scripted_prepare plan hfail
      refine ⟨made, hmade.calls, nofun, fun call hcall => ?_⟩
      have hlength := hmade.in_order.length_le
      rw [List.getElem?_eq_none hlength] at hcall
      cases hcall
    · obtain ⟨made, hmade, _⟩ := scripted_prepare plan (ends_ok_iff.2 hgives)
      have hplanned := hmade.complete _ rfl
      subst hplanned
      rcases isCalled_of_finish hends with ⟨hcalls, failure, rfl⟩ |
        ⟨fresh, texts, left, hfresh, hresolve, arguments, hcalls⟩
      · refine ⟨_, hcalls.trans hmade.calls, nofun, fun call hcall => ?_⟩
        rw [List.getElem?_eq_none (Nat.le_refl _)] at hcall
        cases hcall
      · rw [hmade.calls, List.append_assoc] at hcalls
        refine ⟨_, hcalls, fun _ _ => List.length_append, fun call hcall => ?_⟩
        have hproper := keeps_makeFresh (hroot.joinText _) hfresh (keeps_prepare plan hgives hhost)
        rcases Plan.ends_resolveInputs hproper.tree hspelled (ends_ok_iff.2 hresolve) with
          ⟨_, heq⟩ | ⟨_, blocks, h, heq⟩
        · cases heq
        · cases heq
          rw [List.getElem?_append_right (Nat.le_refl _), Nat.sub_self] at hcall
          refine ⟨found, start, fresh, blocks, arguments, hgives, hfresh, h,
            Plan.ne_nil_of_blocks h, ?_⟩
          rw [← Option.some.inj hcall]
          rfl

/-- A file in the root, one in a directory, and no others. -/
def mixedHost : Host where
  tree := (FileTree.empty.withFile ["z.proto"] [1]).withFile ["b", "x.proto"] [2]
  current := []
  scratch := Path.here
  responses := [{ stdout := "libprotoc 3.21\n" }]
  calls := []
  log := []

/-- A plan with a file, a pattern that lists one, and a pattern that lists none. -/
def mixedPlan : Plan where
  root := Path.here
  inputs := ["./z.proto", ".//b/*.proto", "none/*"]
  generationDir := "tmp"

theorem mixed_inputs_reach_the_compiler :
    (∃ blocks, List.Forall₂ (Plan.IsBlock mixedHost.tree [] Path.here) mixedPlan.inputs blocks ∧
      blocks.flatten = ["./z.proto", "b/x.proto", "none/*"]) ∧
    ∃ report after, Gives (regenerate mixedPlan false) mixedHost report after ∧
      ∃ call arguments, ∃ blocks : List (List String), after.calls[1]? = some call ∧
        blocks.length = 3 ∧ (∀ block ∈ blocks, block ≠ []) ∧
        call.argv = arguments ++ blocks.flatten.map fun text => (Path.ofText text).text := by
  have hresolved : Gives mixedPlan.resolveInputs mixedHost ["./z.proto", "b/x.proto", "none/*"]
      ((mixedPlan.resolveInputs.run).run mixedHost).2 := gives_of_toOption (by decide +kernel)
  have hrun : Gives (regenerate mixedPlan false) mixedHost ⟨"libprotoc 3.21", [], [], []⟩
      (((regenerate mixedPlan false).run).run mixedHost).2 := gives_of_toOption (by decide +kernel)
  obtain ⟨⟨result, after, hends, hinputs⟩, hruns⟩ :=
    @the_inputs_reach_the_compiler_in_order mixedPlan mixedHost (by decide +kernel)
      (by decide +kernel)
  obtain ⟨rfl, _⟩ := hends.unique (ends_ok_iff.2 hresolved)
  constructor
  · rcases hinputs with ⟨_, heq⟩ | ⟨_, blocks, hblocks, _, heq⟩
    · cases heq
    · exact ⟨blocks, hblocks, (Except.ok.inj heq).symm⟩
  · refine ⟨_, _, hrun, ?_⟩
    obtain ⟨_, _, made, hcalls, hmade, hlast⟩ := hruns _ _ _ (ends_ok_iff.2 hrun)
    have hlength : made.length = 2 := hmade _ rfl
    obtain ⟨_, _, _, blocks, arguments, _, _, hblocks, hne, hargv⟩ :=
      hlast made[1] (List.getElem?_eq_getElem _)
    refine ⟨made[1], arguments, blocks, ?_, hblocks.length_eq.symm, hne, hargv⟩
    rw [hcalls]
    exact List.getElem?_eq_getElem _

/-- A plan with a pattern for files in a directory that no path can name. -/
def endedPlan : Plan where
  root := Path.here
  inputs := ["a\x00b/*.proto"]
  generationDir := "tmp"

theorem a_directory_that_cannot_be_named_is_not_passed_through :
    Plan.IsEnded endedPlan.root "a\x00b/*.proto" ∧
      ∃ after, Ends endedPlan.resolveInputs mixedHost (.error (.endedPath .listing)) after :=
  ⟨⟨by decide, by decide⟩, _, ⟨Prod.ext (eq_error_of_match (by decide +kernel)) rfl⟩⟩

end ProtoRefresh.Regeneration
