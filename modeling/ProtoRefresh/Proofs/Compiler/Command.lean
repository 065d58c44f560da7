-- The command line of a setup: when there is one, and what stands in it.
import ProtoRefresh.Compiler.Setup

namespace ProtoRefresh.Compiler

/-! ## The arguments -/

/-- The arguments of the compiler, with the output directory. -/
def Setup.arguments (setup : Setup) (outDir : Path) : List String :=
  [setup.compiler] ++
    (setup.plugin.toList.map fun p => "--plugin=protoc-gen-" ++ setup.lang ++ "=" ++ p.text) ++
    ["--" ++ setup.lang ++ "_out", outDir.text] ++
    (if setup.options.isEmpty then []
      else ["--" ++ setup.lang ++ "_opt",
        ",".intercalate (setup.options.map fun option => option.1 ++ "=" ++ optionText option.2)]) ++
    setup.includes.map (fun p => "-I" ++ p.text) ++ setup.inputs.map Path.text

variable {setup : Setup} {argv : List String}

/-- There is a command as soon as there are an output directory and inputs. -/
theorem Setup.command_cases (setup : Setup) :
    (setup.outDir = none ∧ setup.command = .error .noOutput) ∨
    (∃ outDir, setup.outDir = some outDir ∧ setup.inputs = [] ∧
      setup.command = .error .noInputs) ∨
    ∃ outDir, setup.outDir = some outDir ∧ setup.inputs ≠ [] ∧
      setup.command = .ok (setup.arguments outDir) := by
  unfold command arguments sourceArguments optionsText
  cases houtDir : setup.outDir with
  | none => exact Or.inl ⟨rfl, rfl⟩
  | some outDir =>
    refine Or.inr ?_
    by_cases hinputs : setup.inputs = []
    · refine Or.inl ⟨outDir, rfl, hinputs, ?_⟩
      rw [hinputs]
      rfl
    · refine Or.inr ⟨outDir, rfl, hinputs, ?_⟩
      simp only [if_neg (mt List.isEmpty_iff.1 hinputs)]
      cases setup.plugin <;> simp [pure, Except.pure]

theorem Setup.command_eq_ok_iff : setup.command = .ok argv ↔
    ∃ outDir, setup.outDir = some outDir ∧ setup.inputs ≠ [] ∧ argv = setup.arguments outDir := by
  rcases setup.command_cases with
    ⟨houtDir, h⟩ | ⟨outDir, houtDir, hinputs, h⟩ | ⟨outDir, houtDir, hinputs, h⟩
  · simp [h, houtDir]
  · simp [h, hinputs]
  · simp [h, houtDir, hinputs, eq_comm]

end ProtoRefresh.Compiler
