-- Plans: everything that is needed to regenerate sources from .proto
-- files. Paths in a plan are seen from its root. A plan has at least one
-- input.
import ProtoRefresh.Document.Value
import ProtoRefresh.Relocation.Move
import ProtoRefresh.Rewrite.Rule
import ProtoRefresh.Toolchain.Basic

namespace ProtoRefresh

/-- A helper program that is built, or built and run, before the compiler. -/
structure Helper where
  manifest : String
  bin : Option String := none
  deriving DecidableEq, Repr

/-! ## What plans leave open -/

/-- How the version of the compiler has to start. -/
def Plan.standardVersionStart : String := "libprotoc 3"

/-- The directory to generate into. -/
def Plan.standardGenerationDir : String := "tmp-generated"

/-- How the names of generated files end. -/
def Plan.standardSuffix : String := ".rs"

/-! ## Plans -/

structure Plan where
  root : Path
  /-- How the version of the compiler has to start. -/
  versionStart : String := Plan.standardVersionStart
  /-- The compiler whose version is checked. -/
  versionCompiler : String := "protoc"
  helpers : List Helper := []
  /-- The helper that prints the compiler to run. -/
  compilerFinder : Option Helper := none
  /-- The directory that holds the build results. -/
  workspace : String := ".."
  lang : String := Toolchain.standardLang
  options : List (String × Document.Value) := []
  includes : List String := []
  /-- Names or patterns of .proto files. -/
  inputs : List String
  /-- The directory to generate into. -/
  generationDir : String := Plan.standardGenerationDir
  /-- How the names of generated files end. -/
  generatedSuffix : String := Plan.standardSuffix
  substitutions : List Rewrite.Substitution := []
  moves : List Relocation.Move := []
  inputs_ne_nil : inputs ≠ [] := by decide
  deriving Repr

/-- The rules that a plan's substitutions describe. -/
def Plan.rules (plan : Plan) : Except Pattern.PatternError (List Rewrite.Rule) :=
  plan.substitutions.mapM fun substitution => substitution.rule

end ProtoRefresh
