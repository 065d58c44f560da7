-- Runs of the compiler from a script. A run that ends well is the script's
-- end too; a step that failed and a value that was refused are logged as
-- one error, and the script exits. A refusal of the system is neither: the
-- output directory that cannot be made and the compiler that may not be
-- started go past the script as they are.
import ProtoRefresh.Compiler.Run
import ProtoRefresh.Proofs.Compiler.Command
import ProtoRefresh.Proofs.Host.Commands
import ProtoRefresh.Proofs.Host.Failing

namespace ProtoRefresh

/-- The errors that have been logged. -/
def Host.errors (host : Host) : List LogRecord := host.log.filter (·.level = .error)

/-- The host after one more record. -/
def Host.withRecord (host : Host) (level : Level) (message : String) : Host :=
  { host with log := host.log ++ [⟨level, message⟩] }

namespace Compiler

open ProtoRefresh.Action

variable {setup : Setup} {host middle after : Host} {failure : Failure}

/-! ## Refusals -/

/-- The system refuses a run: its output directory cannot be made, or the compiler may not be
started. -/
inductive Setup.Refusal (setup : Setup) (host : Host) : Failure → Prop
  | directory {outDir : Path} {failure : Failure} {left : Host}
      (houtDir : setup.outDir = some outDir)
      (hinputs : setup.inputs ≠ []) (hsystem : failure.family = .system)
      (hmake : Ends (ensureDirectory (setup.locate outDir)) host (.error failure) left) :
      Refusal setup host failure
  | compiler {outDir : Path} {left : Host} (houtDir : setup.outDir = some outDir)
      (hinputs : setup.inputs ≠ [])
      (hmake : Gives (ensureDirectory (setup.locate outDir)) host () left)
      (hdenied : (left.answer 0).outcome = .denied) :
      Refusal setup host (.file .denied setup.compiler)

/-- The call that a setup makes. -/
def Setup.call (setup : Setup) (outDir : Path) : Call :=
  ⟨setup.arguments outDir, setup.directory.map Path.text, false⟩

/-- How a run ends: without a command it ends at once; else the directory is made, then the command
is run, and then what it has done is logged. -/
inductive Setup.RunEnds (setup : Setup) (host : Host) : Except Failure Unit → Host → Prop
  | unset {failure : Failure} (hcommand : setup.command = .error failure) :
      RunEnds setup host (.error failure) host
  | directory {outDir : Path} {failure : Failure} {left : Host}
      (houtDir : setup.outDir = some outDir) (hinputs : setup.inputs ≠ [])
      (hmake : Ends (ensureDirectory (setup.locate outDir)) host (.error failure) left) :
      RunEnds setup host (.error failure) left
  | compiler {outDir : Path} {failure : Failure} {made : Host}
      (houtDir : setup.outDir = some outDir) (hinputs : setup.inputs ≠ [])
      (hmake : Gives (ensureDirectory (setup.locate outDir)) host () made)
      (hcall : (setup.call outDir).result (made.answer 0) = .error failure) :
      RunEnds setup host (.error failure) (made.afterCall (setup.call outDir))
  | well {outDir : Path} {output : String} {made : Host}
      (houtDir : setup.outDir = some outDir) (hinputs : setup.inputs ≠ [])
      (hmake : Gives (ensureDirectory (setup.locate outDir)) host () made)
      (hcall : (setup.call outDir).result (made.answer 0) = .ok output) :
      RunEnds setup host (.ok ()) ((made.afterCall (setup.call outDir)).withRecord .debug
        ("generated " ++ toString setup.inputs.length ++ " input(s) into " ++ outDir.text))

theorem Setup.runEnds_of_ends {result : Except Failure Unit}
    (h : Ends setup.run host result after) : setup.RunEnds host result after := by
  unfold Setup.run at h
  rcases ends_bind.1 h with ⟨failure, hfail, rfl⟩ | ⟨argv, middle, hgives, h⟩
  · obtain ⟨hcommand, rfl⟩ := ends_ofExcept.1 hfail
    exact .unset hcommand.symm
  · obtain ⟨hcommand, rfl⟩ := gives_ofExcept.1 hgives
    obtain ⟨outDir, houtDir, hinputs, rfl⟩ := Setup.command_eq_ok_iff.1 hcommand
    rw [houtDir, Option.getD_some] at h
    rcases ends_bind.1 h with ⟨failure, hmake, rfl⟩ | ⟨_, made, hmake, h⟩
    · exact .directory houtDir hinputs hmake
    · rcases ends_bind.1 h with ⟨failure, hrun, rfl⟩ | ⟨output, called, hrun, h⟩
      · obtain ⟨hcall, rfl⟩ := ends_runCommand.1 hrun
        exact .compiler houtDir hinputs hmake hcall.symm
      · obtain ⟨hcall, rfl⟩ := ends_runCommand.1 (ends_ok_iff.2 hrun)
        obtain ⟨rfl, rfl⟩ := ends_modify.1 h
        exact .well houtDir hinputs hmake hcall.symm

/-! ## What runs log -/

/-- Two hosts have logged the same errors. -/
def SameErrors (host after : Host) : Prop := after.errors = host.errors

instance : Composes SameErrors where
  refl _ := rfl
  trans hfirst hrest := Eq.trans hrest hfirst

theorem errors_withRecord {level : Level} (h : level ≠ .error) (message : String) :
    (host.withRecord level message).errors = host.errors := by
  simp [Host.withRecord, Host.errors, h]

theorem errors_afterCall (host : Host) (call : Call) :
    (host.afterCall call).errors = host.errors := by
  simp [Host.afterCall, Host.errors]

/-- A run logs no error, however it ends. -/
theorem Setup.RunEnds.errors {result : Except Failure Unit} (h : setup.RunEnds host result after) :
    after.errors = host.errors := by
  have hmake : ∀ {outDir : Path} {result : Except Failure Unit} {left : Host},
      Ends (ensureDirectory (setup.locate outDir)) host result left → left.errors = host.errors :=
    fun {_ _ _} hends =>
      leads_makeDirectories_of_setTree (R := SameErrors) (fun _ _ => rfl) _ _ _ hends
  cases h with
  | unset _ => rfl
  | directory _ _ hends => exact hmake hends
  | compiler _ _ hgives _ => rw [errors_afterCall, hmake (ends_ok_iff.2 hgives)]
  | well _ _ hgives _ =>
    have hdebug : Level.debug ≠ .error := by decide
    rw [errors_withRecord hdebug, errors_afterCall, hmake (ends_ok_iff.2 hgives)]

/-! ## What runs fail with -/

/-- The call of a setup is refused by the system exactly if the compiler may not be started; all
else that it fails with is a failed step. -/
theorem Setup.call_fails {outDir : Path} {response : Response}
    (h : (setup.call outDir).result response = .error failure) :
    failure.family = .regeneration ∨
      response.outcome = .denied ∧ failure = .file .denied setup.compiler := by
  unfold Call.result at h
  cases houtcome : response.outcome with
  | missing =>
    rw [houtcome] at h
    cases h
    exact Or.inl rfl
  | denied =>
    rw [houtcome] at h
    cases h
    exact Or.inr ⟨rfl, rfl⟩
  | ended status =>
    rw [houtcome] at h
    dsimp only at h
    split at h
    · cases h
      exact Or.inl rfl
    · cases h

/-- A run fails because the system refuses it, or with what a script tells. -/
theorem Setup.RunEnds.family (h : setup.RunEnds host (.error failure) after) :
    setup.Refusal host failure ∨ failure.family = .regeneration ∨ failure.family = .value := by
  cases h with
  | unset hcommand =>
    rcases setup.command_cases with ⟨_, h⟩ | ⟨_, _, _, h⟩ | ⟨_, _, _, h⟩
    · cases hcommand.symm.trans h
      exact Or.inr (Or.inr rfl)
    · cases hcommand.symm.trans h
      exact Or.inr (Or.inr rfl)
    · cases hcommand.symm.trans h
  | directory houtDir hinputs hmake =>
    have hfiles := fails_makeDirectories _ _ _ hmake
    cases hfiles with
    | ended use => exact Or.inr (Or.inr rfl)
    | undecodable fault => exact Or.inr (Or.inr rfl)
    | unencodable fault => exact Or.inr (Or.inr rfl)
    | file error shown => exact Or.inl (.directory houtDir hinputs rfl hmake)
    | notTree p => exact Or.inl (.directory houtDir hinputs rfl hmake)
    | taken shown => exact Or.inl (.directory houtDir hinputs rfl hmake)
  | compiler houtDir hinputs hmake hcall =>
    rcases setup.call_fails hcall with hfamily | ⟨hdenied, rfl⟩
    · exact Or.inr (Or.inl hfamily)
    · exact Or.inl (.compiler houtDir hinputs hmake hdenied)

theorem Setup.Refusal.family (h : setup.Refusal host failure) : failure.family = .system := by
  cases h with
  | directory _ _ hsystem _ => exact hsystem
  | compiler _ _ _ _ => rfl

/-- What the system refuses is how the run ends. -/
theorem Setup.Refusal.ends_run (h : setup.Refusal host failure) :
    ∃ left, Ends setup.run host (.error failure) left := by
  have hcommand : ∀ {outDir : Path}, setup.outDir = some outDir → setup.inputs ≠ [] →
      Gives (Action.ofExcept setup.command) host (setup.arguments outDir) host :=
    fun houtDir hinputs =>
      gives_ofExcept.2 ⟨Setup.command_eq_ok_iff.2 ⟨_, houtDir, hinputs, rfl⟩, rfl⟩
  cases h with
  | @directory outDir _ left houtDir hinputs _ hmake =>
    refine ⟨left, ends_bind.2 (Or.inr ⟨_, host, hcommand houtDir hinputs, ?_⟩)⟩
    rw [houtDir]
    exact ends_bind.2 (Or.inl ⟨failure, hmake, rfl⟩)
  | @compiler outDir made houtDir hinputs hmake hdenied =>
    have hresult : (setup.call outDir).result (made.answer 0) =
        .error (.file .denied setup.compiler) := by
      unfold Call.result
      rw [hdenied]
      rfl
    refine ⟨made.afterCall (setup.call outDir),
      ends_bind.2 (Or.inr ⟨_, host, hcommand houtDir hinputs, ?_⟩)⟩
    rw [houtDir]
    refine (ends_bind_of_gives hmake).2 (ends_bind.2 (Or.inl ⟨_, ?_, rfl⟩))
    exact ends_runCommand.2 ⟨hresult.symm, rfl⟩

/-! ## Scripts -/

theorem ends_runFromScript_of_gives (h : Gives setup.run host () after) :
    Ends setup.runFromScript host (.ok ()) after :=
  ends_tryCatch.2 (Or.inl ⟨(), rfl, h⟩)

/-- A failed step or a refused value is logged, and the script exits. -/
theorem ends_runFromScript_of_told (h : Ends setup.run host (.error failure) middle)
    (htold : failure.family = .regeneration ∨ failure.family = .value) :
    Ends setup.runFromScript host (.error (.exit 1))
      (middle.withRecord .error ("codegen failed: " ++ failure.message)) := by
  refine ends_tryCatch.2 (Or.inr ⟨failure, middle, h, ?_⟩)
  have hexit : Ends (do
      Action.log .error ("codegen failed: " ++ failure.message)
      throw (.exit 1) : Action Unit) middle (.error (.exit 1))
        (middle.withRecord .error ("codegen failed: " ++ failure.message)) :=
    (ends_bind_of_changes (gives_log.2 rfl)).2 (ends_fail.2 ⟨rfl, rfl⟩)
  rcases htold with hfamily | hfamily
  · rw [hfamily]
    exact hexit
  · rw [hfamily]
    exact hexit

/-- Any other failure goes past the script. -/
theorem ends_runFromScript_of_refusal (h : Ends setup.run host (.error failure) middle)
    (hrefusal : setup.Refusal host failure) :
    Ends setup.runFromScript host (.error failure) middle := by
  refine ends_tryCatch.2 (Or.inr ⟨failure, middle, h, ?_⟩)
  rw [hrefusal.family]
  exact ends_fail.2 ⟨rfl, rfl⟩

/-- What the script leaves behind is what the run leaves behind, but for a record. If the system
refuses nothing, the script returns as the run does, or exits after one record of an error, the
run's failure; the run itself logs no error. What the system refuses goes past the script. -/
theorem a_script_returns_or_exits_unless_the_system_refuses (setup : Setup) (host : Host) :
    ∃ result middle, Ends setup.run host result middle ∧ middle.errors = host.errors ∧
      (((∀ failure, ¬ setup.Refusal host failure) ∧
          (result = .ok () ∧ Ends setup.runFromScript host (.ok ()) middle ∨
            ∃ failure, result = .error failure ∧ Ends setup.runFromScript host (.error (.exit 1))
              (middle.withRecord .error ("codegen failed: " ++ failure.message)))) ∨
        ∃ failure, setup.Refusal host failure ∧ result = .error failure ∧
          Ends setup.runFromScript host (.error failure) middle) := by
  have hrun := ends_run setup.run host
  generalize ((setup.run).run).run host = ended at hrun
  obtain ⟨result, middle⟩ := ended
  have hends := Setup.runEnds_of_ends hrun
  refine ⟨result, middle, hrun, hends.errors, ?_⟩
  by_cases hrefusal : ∃ failure, setup.Refusal host failure
  · obtain ⟨failure, hrefusal⟩ := hrefusal
    obtain ⟨left, hfails⟩ := hrefusal.ends_run
    obtain ⟨rfl, rfl⟩ := hrun.unique hfails
    exact Or.inr ⟨failure, hrefusal, rfl, ends_runFromScript_of_refusal hrun hrefusal⟩
  · have hnone := not_exists.1 hrefusal
    refine Or.inl ⟨hnone, ?_⟩
    cases result with
    | ok value => exact Or.inl ⟨rfl, ends_runFromScript_of_gives (ends_ok_iff.1 hrun)⟩
    | error failure =>
      have htold := hends.family.resolve_left (hnone failure)
      exact Or.inr ⟨failure, rfl, ends_runFromScript_of_told hrun htold⟩

/-- A file where the output directory has to be. -/
def blockedHost : Host where
  tree := FileTree.empty.withFile ["out"] []
  current := []
  scratch := Path.here
  responses := []
  calls := []
  log := []

/-- A setup with an input and an output directory. -/
def plainSetup : Setup := { outDir := Path.ofText "out", inputs := [Path.ofText "a.proto"] }

theorem a_file_in_place_of_the_directory_goes_past_the_script :
    ∃ after, Ends plainSetup.runFromScript blockedHost
      (.error (.file .alreadyExists "out")) after := by
  have hresult : ((plainSetup.runFromScript.run).run blockedHost).1 =
      .error (.file .alreadyExists "out") := by decide +kernel
  have hrun := ends_run plainSetup.runFromScript blockedHost
  rw [hresult] at hrun
  exact ⟨_, hrun⟩

/-- A compiler that fails has the script exit. -/
example : ((plainSetup.runFromScript.run).run
    { blockedHost with tree := FileTree.empty, responses := [{ outcome := .ended 2 }] }).1 =
      .error (.exit 1) := by decide +kernel

end Compiler

end ProtoRefresh
