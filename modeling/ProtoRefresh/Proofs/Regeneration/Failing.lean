-- With what a regeneration fails. A step fails for its values, its commands
-- or the system, which is told to the user, unless the plan itself has a
-- fault that no step expects: a pattern that cannot be read, an option whose
-- name options cannot have, or a move from an absolute pattern. The compiler
-- always gets an output directory, and inputs if the plan has any.
import ProtoRefresh.Proofs.Host.Failing
import ProtoRefresh.Proofs.Plan.Inputs
import ProtoRefresh.Proofs.Regeneration.Calls

namespace ProtoRefresh

open ProtoRefresh.Action

/-! ## Setbacks -/

/-- The failure is about something else than the version of the compiler. -/
def Failure.SparesVersion : Failure → Prop
  | .version _ => False
  | _ => True

/-- The failure is about something else than a setup that makes no command. -/
def Failure.SparesSetup : Failure → Prop
  | .noOutput => False
  | .noInputs => False
  | _ => True

/-- A failure that a step expects, and neither the one of the check of the version nor one of a
setup that makes no command. -/
structure Failure.IsSetback (failure : Failure) : Prop where
  shown : failure.family ≠ .other
  sparesVersion : failure.SparesVersion
  sparesSetup : failure.SparesSetup

theorem Failure.IsOfFiles.isSetback {failure : Failure} (h : failure.IsOfFiles) :
    failure.IsSetback := by
  cases h with
  | file error shown => exact ⟨nofun, trivial, trivial⟩
  | notTree p => exact ⟨nofun, trivial, trivial⟩
  | taken shown => exact ⟨nofun, trivial, trivial⟩
  | ended use => exact ⟨nofun, trivial, trivial⟩
  | undecodable fault => exact ⟨nofun, trivial, trivial⟩
  | unencodable fault => exact ⟨nofun, trivial, trivial⟩

theorem Call.isSetback_of_result {call : Call} {response : Response} {failure : Failure}
    (hargv : call.argv ≠ []) (h : call.result response = .error failure) : failure.IsSetback := by
  unfold Call.result at h
  split at h
  · split at h
    · rename_i hempty
      exact absurd (List.isEmpty_iff.1 hempty) hargv
    · cases h
      exact ⟨nofun, trivial, trivial⟩
  · cases h
    exact ⟨nofun, trivial, trivial⟩
  · split at h
    · cases h
      exact ⟨nofun, trivial, trivial⟩
    · cases h

theorem Action.fails_runCommand {argv : List String} (hargv : argv ≠ [])
    (directory : Option String) (captured : Bool) :
    FailsWith Failure.IsSetback (runCommand argv directory captured) := by
  intro host failure after h
  exact Call.isSetback_of_result hargv (ends_runCommand.1 h).1.symm

/-! ## Faults of plans -/

/-- A plan has a fault that no step expects. -/
inductive Plan.Fault (plan : Plan) : Failure → Prop
  | pattern {substitution : Rewrite.Substitution} {error : Pattern.PatternError}
      (hmem : substitution ∈ plan.substitutions) (hrule : substitution.rule = .error error)
      (hother : error ≠ .clashingAlphabets) : plan.Fault (.pattern error)
  | option {value : Document.Value} (hmem : ("self", value) ∈ plan.options) : plan.Fault .wrongType
  | glob {source : Relocation.Source} (hmem : source ∈ Relocation.sourcesOf plan.moves)
      (hpattern : Glob.isPattern source.pattern = true)
      (habsolute : (Path.ofText source.pattern).isAbsolute = true) : plan.Fault (.glob .absolute)

theorem Plan.Fault.family {plan : Plan} {failure : Failure} (h : plan.Fault failure) :
    failure.family = .other := by
  cases h with
  | @pattern substitution error hmem hrule hother =>
    cases error with
    | clashingAlphabets => exact absurd rfl hother
    | malformed => rfl
    | tooManyRounds => rfl
  | option hmem => rfl
  | glob hmem hpattern habsolute => rfl

theorem Plan.Fault.sparesVersion {plan : Plan} {failure : Failure} (h : plan.Fault failure) :
    failure.SparesVersion := by
  cases failure with
  | version found => cases h.family
  | _ => trivial

theorem Plan.Fault.sparesSetup {plan : Plan} {failure : Failure} (h : plan.Fault failure) :
    failure.SparesSetup := by
  cases failure with
  | noOutput => cases h.family
  | noInputs => cases h.family
  | _ => trivial

/-- What a step of a plan may fail with: a setback, or a fault of the plan. -/
inductive Plan.MayFail (plan : Plan) : Failure → Prop
  | setback {failure : Failure} (h : failure.IsSetback) : plan.MayFail failure
  | fault {failure : Failure} (h : plan.Fault failure) : plan.MayFail failure

theorem Plan.MayFail.sparesVersion {plan : Plan} {failure : Failure} (h : plan.MayFail failure) :
    failure.SparesVersion := by
  cases h with
  | setback h => exact h.sparesVersion
  | fault h => exact h.sparesVersion

theorem Plan.MayFail.sparesSetup {plan : Plan} {failure : Failure} (h : plan.MayFail failure) :
    failure.SparesSetup := by
  cases h with
  | setback h => exact h.sparesSetup
  | fault h => exact h.sparesSetup

variable {α : Type} {plan : Plan}

theorem Action.FailsWith.setback {action : Action α} (h : FailsWith Failure.IsOfFiles action) :
    FailsWith Failure.IsSetback action := h.mono fun _ hfiles => hfiles.isSetback

theorem Action.FailsWith.mayFail {action : Action α} (h : FailsWith Failure.IsSetback action) :
    FailsWith plan.MayFail action := h.mono fun _ hsetback => .setback hsetback

/-! ## The preparation -/

theorem fails_toolchain (plan : Plan) : FailsWith Failure.IsSetback plan.toolchain := by
  have hhelpers : FailsWith Failure.IsSetback
      (plan.helpers.forM fun helper => helper.build (some plan.root.text)) := by
    apply FailsWith.forM
    intro helper
    exact (fails_runCommand (List.cons_ne_nil _ _) _ _).bind fun _ => .pure _
  have hworkspace : ∀ compiler, FailsWith Failure.IsSetback
      (Toolchain.ofWorkspace (plan.root.joinText plan.workspace) compiler plan.lang none) := by
    intro compiler
    unfold Toolchain.ofWorkspace
    exact .guard ⟨nofun, trivial, trivial⟩ (.get_bind fun _ => .pure _)
  refine hhelpers.bind fun _ => ?_
  dsimp only
  split
  · exact hworkspace _
  · rename_i finder _
    have hfinder : FailsWith Failure.IsSetback (finder.run (some plan.root.text)) :=
      (fails_runCommand (List.cons_ne_nil _ _) _ _).bind fun _ => .pure _
    exact hfinder.bind fun compiler => (fails_log _ _).bind fun _ =>
      (FailsWith.pure compiler).bind hworkspace

/-! ## Patterns of files -/

namespace Glob

theorem Stage.ofName_eq_error {name : String} {fault : GlobFault}
    (h : Stage.ofName name = .error fault) : fault = .starsInName := by
  unfold Stage.ofName at h
  split at h
  · cases h
  · split at h
    · cases h
      rfl
    · split at h
      · cases h
      · cases h

theorem Query.ofText_eq_error {pattern : String} {fault : GlobFault}
    (h : Query.ofText pattern = .error fault) :
    fault = .starsInName ∨ fault = .absolute ∧ (Path.ofText pattern).isAbsolute = true := by
  unfold Query.ofText at h
  dsimp only at h
  split at h
  · rename_i habsolute
    cases h
    exact Or.inr ⟨rfl, habsolute⟩
  · rcases except_bind_eq_error.1 h with hstages | ⟨_, _, hlast⟩
    · obtain ⟨name, _, hname⟩ := except_mapM_eq_error hstages
      exact Or.inl (Stage.ofName_eq_error hname)
    · cases hlast

/-- A search fails for its pattern only. -/
theorem fails_ofText {P : Failure → Prop} {pattern : String} (hsetback : ∀ failure,
    failure.IsSetback → P failure)
    (habsolute : (Path.ofText pattern).isAbsolute = true → P (.glob .absolute)) :
    FailsWith P (Action.ofExcept ((Query.ofText pattern).mapError Failure.glob)) := by
  apply FailsWith.ofMapError
  intro fault h
  rcases Query.ofText_eq_error h with rfl | ⟨rfl, habs⟩
  · exact hsetback _ ⟨nofun, trivial, trivial⟩
  · exact habsolute habs

theorem fails_search {source : Relocation.Source}
    (hmem : source ∈ Relocation.sourcesOf plan.moves) (hpattern : isPattern source.pattern = true)
    (start : Path) : FailsWith plan.MayFail (search start source.pattern) :=
  (fails_ofText (fun _ => .setback) fun habsolute => .fault (.glob hmem hpattern habsolute)).bind
    fun _ => .get_bind fun _ => .pure _

/-- The pattern for generated files starts with a star, whatever their suffix is. -/
theorem isAbsolute_generatedPattern (plan : Plan) :
    (Path.ofText (Regeneration.generatedPattern plan)).isAbsolute = false := by
  unfold Regeneration.generatedPattern Path.ofText Path.ofChars Path.isAbsolute Path.leadingSlashes
  rw [String.toList_append]
  rfl

theorem fails_searchBelow (start : Path) : FailsWith Failure.IsSetback
    (searchBelow start (Regeneration.generatedPattern plan)) := by
  refine (fails_ofText (fun _ h => h) fun habsolute => ?_).bind fun _ => .get_bind fun _ => .pure _
  rw [isAbsolute_generatedPattern plan] at habsolute
  cases habsolute

end Glob

/-! ## The compiler -/

theorem Plan.fails_resolveInputs (plan : Plan) :
    FailsWith Failure.IsSetback plan.resolveInputs := by
  have hlist : ∀ pattern, FailsWith Failure.IsSetback (Glob.listFiles plan.root pattern) := by
    intro pattern
    unfold Glob.listFiles
    exact .guard ⟨nofun, trivial, trivial⟩ (.get_bind fun _ => .pure _)
  refine (FailsWith.mapM (fun pattern => ?_) plan.inputs).bind fun _ => .pure _
  unfold resolveInput
  split
  · exact .pure _
  · refine (hlist pattern).bind fun found => ?_
    split
    · exact (fails_log _ _).bind fun _ => .pure _
    · exact .pure _

/-- A run of the compiler fails with a setback, or because its setup makes no command. -/
theorem Compiler.Setup.fails_run (setup : Setup) : FailsWith
    (fun failure => failure.IsSetback ∨ setup.command = .error failure) setup.run := by
  intro host failure after h
  rcases ends_bind.1 h with ⟨other, hfail, heq⟩ | ⟨argv, middle, hgives, hends⟩
  · cases heq
    exact Or.inr (ends_ofExcept.1 hfail).1.symm
  · -- the compiler itself comes first, so the command is not empty
    obtain ⟨arguments, rfl⟩ := Regeneration.command_eq_ok (gives_ofExcept.1 hgives).1
    have hrest : FailsWith Failure.IsSetback (do
        Action.ensureDirectory (setup.locate (setup.outDir.getD Path.here))
        let _ ← runCommand (setup.compiler :: arguments) (setup.directory.map Path.text) false
        Action.log .debug ("generated " ++ toString setup.inputs.length ++ " input(s) into " ++
          (setup.outDir.getD Path.here).text)) :=
      (fails_makeDirectories _ _ _).setback.bind fun _ =>
        (fails_runCommand (List.cons_ne_nil _ _) _ _).bind fun _ => fails_log _ _
    exact Or.inl (hrest hends)

/-- Of all settings only the options of a plan can be refused. -/
theorem Regeneration.fault_of_isRefused {toolchain : Toolchain}
    (h : (settings plan toolchain).any Compiler.Setting.isRefused = true) :
    plan.Fault .wrongType := by
  unfold settings at h
  simp only [List.any_cons, List.any_nil, Compiler.Setting.isRefused, Bool.or_false,
    Bool.false_or, List.any_eq_true, decide_eq_true_eq] at h
  obtain ⟨⟨name, value⟩, hmem, hname⟩ := h
  dsimp only at hname
  rw [hname] at hmem
  exact .option hmem

/-- The setup of the compiler for a plan lacks nothing but, maybe, inputs. -/
theorem Regeneration.noInputs_of_command {toolchain : Toolchain} {inputs : List Path}
    {failure : Failure} (h : (Compiler.Setup.ofSettings
      (settings plan toolchain ++ [.inputs inputs])).command = .error failure) :
    inputs = [] ∧ failure = .noInputs := by
  rcases Compiler.Setup.command_cases (Compiler.Setup.ofSettings
    (settings plan toolchain ++ [.inputs inputs])) with
    ⟨hnone, _⟩ | ⟨_, _, hinputs, hcommand⟩ | ⟨_, _, _, hcommand⟩
  · cases hnone
  · cases h.symm.trans hcommand
    exact ⟨hinputs, rfl⟩
  · cases h.symm.trans hcommand

theorem Regeneration.fails_compile (plan : Plan) (toolchain : Toolchain) :
    FailsWith plan.MayFail (compile plan toolchain) := by
  intro host failure after h
  unfold compile at h
  rcases ends_guard.1 h with ⟨hrefused, heq, _⟩ | ⟨_, h⟩
  · cases heq
    exact .fault (fault_of_isRefused hrefused)
  · rcases ends_bind.1 h with ⟨other, hfail, heq⟩ | ⟨texts, middle, hgives, hends⟩
    · cases heq
      exact .setback (Plan.fails_resolveInputs plan hfail)
    · rcases Compiler.Setup.fails_run _ hends with hsetback | hcommand
      · exact .setback hsetback
      · obtain ⟨hnone, rfl⟩ := noInputs_of_command hcommand
        rw [List.map_eq_nil_iff] at hnone
        exact absurd hnone (Plan.ne_nil_of_gives_resolveInputs hgives)

/-! ## Rewriting -/

namespace Rewrite

theorem mayFail_of_rules {error : Pattern.PatternError}
    (h : plan.rules = .error error) : plan.MayFail (.pattern error) := by
  obtain ⟨substitution, hmem, hrule⟩ := except_mapM_eq_error h
  by_cases hclash : error = .clashingAlphabets
  · rw [hclash]
    exact .setback ⟨nofun, trivial, trivial⟩
  · exact .fault (.pattern hmem hrule hclash)

theorem fails_rewriteFile (p : Path) (rules : List Rule) :
    FailsWith Failure.IsOfFiles (rewriteFile p rules) := by
  have hread : FailsWith Failure.IsOfFiles (readText p) :=
    (fails_readFile p).bind fun _ => fails_decode _
  exact hread.bind fun old => (fails_writeText _ _).bind fun _ =>
    (fails_change _ _).bind fun _ => .pure _

theorem fails_rewriteFiles (rules : List Rule) (files : List Path) :
    FailsWith Failure.IsOfFiles (rewriteFiles rules files) := by
  induction files with
  | nil => exact .pure _
  | cons p rest ih => exact (fails_rewriteFile p rules).bind fun _ => ih.bind fun _ => .pure _

theorem fails_rewriteTree (directory : Path) (rules : List Rule) : FailsWith Failure.IsSetback
    (rewriteTree directory rules (Regeneration.generatedPattern plan)) :=
  (Glob.fails_searchBelow directory).bind fun files =>
    (fails_rewriteFiles rules files).setback.bind fun _ => (fails_log _ _).bind fun _ => .pure _

end Rewrite

/-! ## Relocation -/

namespace Relocation

theorem fails_expand {source : Source} (hmem : source ∈ sourcesOf plan.moves) (directory : Path)
    (claimed : List Path) : FailsWith plan.MayFail (expand directory source.pattern claimed) := by
  unfold expand
  split
  · rename_i hpattern
    refine (Glob.fails_search hmem hpattern directory).bind fun found => ?_
    exact .guard (.setback ⟨nofun, trivial, trivial⟩) (.pure _)
  · refine .guard (.setback ⟨nofun, trivial, trivial⟩) ((fails_isFile _).bind fun there => ?_)
    exact .guard (.setback ⟨nofun, trivial, trivial⟩) (.pure _)

theorem fails_place (root : Path) (dryRun : Bool) (source : Source) (p : Path) :
    FailsWith Failure.IsOfFiles (place root dryRun source p) := by
  have hchecksum : ∀ q, FailsWith Failure.IsOfFiles (fileChecksum q) :=
    fun q => (fails_readFile q).bind fun _ => .pure _
  have hdiffers : ∀ target, FailsWith Failure.IsOfFiles (differs target p) := by
    intro target
    refine (fails_isFile target).bind fun there => ?_
    split
    · exact (hchecksum target).bind fun _ => (hchecksum p).bind fun _ => .pure _
    · exact .pure _
  have hlast : ∀ message placement, FailsWith Failure.IsOfFiles (do
      Action.log .debug message
      return placement : Action Placement) := fun message placement =>
    (fails_log _ message).bind fun _ => .pure placement
  refine (hdiffers _).bind fun changed => ?_
  dsimp only
  split
  · refine (fails_makeDirectories _ _ _).bind fun _ => ?_
    exact (fails_moveFile p _).bind fun _ => hlast _ _
  · exact hlast _ _

theorem fails_placeSources (directory root : Path) (dryRun : Bool) (sources : List Source)
    (hsources : ∀ source ∈ sources, source ∈ sourcesOf plan.moves) : ∀ claimed,
      FailsWith plan.MayFail (placeSources directory root dryRun sources claimed) := by
  induction sources with
  | nil => exact fun _ => .pure _
  | cons source rest ih =>
    intro claimed
    refine (fails_expand (hsources source List.mem_cons_self) directory claimed).bind
      fun found => ?_
    refine (FailsWith.mapM (fails_place root dryRun source) found).setback.mayFail.bind
      fun placed => ?_
    exact (ih (fun other ho => hsources other (List.mem_cons_of_mem source ho)) _).bind
      fun _ => .pure _

end Relocation

/-! ## The whole run -/

namespace Regeneration

theorem fails_makeFresh (directory : Path) :
    FailsWith Failure.IsOfFiles (makeFresh directory) := by
  refine (fails_pathExists directory).bind fun there => ?_
  dsimp only
  split
  · exact (fails_removeTree directory).bind fun _ => fails_makeDirectories _ _ _
  · exact fails_makeDirectories _ _ _

/-- Once the compiler is prepared no failure is about its version any more. -/
theorem fails_finish (plan : Plan) (check : Bool) (version : String) (toolchain : Toolchain) :
    FailsWith plan.MayFail (finish plan check version toolchain) := by
  have hlist : FailsWith Failure.IsSetback (listGenerated plan) :=
    (Glob.fails_searchBelow _).bind fun _ => (fails_log _ _).bind fun _ => .pure _
  have hrules : FailsWith plan.MayFail (Action.ofExcept (plan.rules.mapError Failure.pattern)) :=
    .ofMapError fun _ h => Rewrite.mayFail_of_rules h
  have hfill : FailsWith plan.MayFail (fill plan version toolchain) :=
    (fails_compile plan toolchain).bind fun _ => hlist.mayFail.bind fun generated =>
      hrules.bind fun rules => (Rewrite.fails_rewriteTree _ rules).mayFail.bind fun _ => .pure _
  exact (fails_makeFresh _).setback.mayFail.bind fun _ => hfill.bind fun _ =>
    (Relocation.fails_placeSources _ _ _ _ (fun _ h => h) _).bind fun _ => .pure _

/-- Whatever the files and the answers of the commands are: a regeneration fails for the version of
its compiler, or with what a step may fail with. -/
theorem fails_regenerate_step (plan : Plan) (check : Bool) :
    FailsWith (fun failure => (∃ found, failure = .version found) ∨ plan.MayFail failure)
      (regenerate plan check) := by
  have hmay : ∀ failure, plan.MayFail failure →
      (∃ found, failure = .version found) ∨ plan.MayFail failure := fun failure h => Or.inr h
  have hversion : FailsWith plan.MayFail
      (compilerVersion plan.versionCompiler (some plan.root.text)) :=
    ((fails_runCommand (List.cons_ne_nil _ _) _ _).bind fun _ => .pure _ :
      FailsWith Failure.IsSetback _).mayFail
  have hprepare : FailsWith (fun failure => (∃ found, failure = .version found) ∨
      plan.MayFail failure) (prepare plan) := by
    refine (hversion.mono hmay).bind fun version => ?_
    have hcheck : FailsWith (fun failure => (∃ found, failure = .version found) ∨
        plan.MayFail failure) (checkVersion version plan.versionStart) := by
      unfold checkVersion
      exact .guard (Or.inl ⟨version, rfl⟩) (fails_log _ _)
    exact hcheck.bind fun _ => ((fails_toolchain plan).mayFail.mono hmay).bind fun _ => .pure _
  rw [regenerate_eq]
  exact hprepare.bind fun x => (fails_finish plan check x.1 x.2).mono hmay

/-- A regeneration fails with what is told to the user, or for a fault of its plan. -/
theorem fails_regenerate (plan : Plan) (check : Bool) :
    FailsWith (fun failure => failure.family ≠ .other ∨ plan.Fault failure)
      (regenerate plan check) := by
  refine (fails_regenerate_step plan check).mono ?_
  rintro failure (⟨found, rfl⟩ | h)
  · exact Or.inl nofun
  · cases h with
    | setback h => exact Or.inl h.shown
    | fault h => exact Or.inr h

end Regeneration

end ProtoRefresh
