-- Inputs that another file hides. The walk reads an input where it is, and
-- takes it for the file of its proto path from then on. An import of that
-- proto path finds the first file in the include path instead. The two are
-- one file as long as nothing stands in an earlier include directory.
import ProtoRefresh.Proofs.Compiler.InputOrder

namespace ProtoRefresh.Compiler

/-! ## What hides an input -/

/-- What stands first at the proto path of an input, in the include directories before the one that
the input is seen from. -/
def Setup.hiding? (setup : Setup) (tree : FileTree) (current : Location) (p : Path)
    (proto : String) : Option Path :=
  ((setup.includesBefore p).map fun start => setup.locate (start.joinText proto)).find?
    fun p => tree.pathExists current p

/-- An input is hidden if something else stands before it in the include path. -/
def Setup.IsHidden (setup : Setup) (tree : FileTree) (current : Location) (p : Path)
    (proto : String) : Prop :=
  ∃ file ∈ setup.hiding? tree current p proto, file ≠ setup.locate p

variable {setup : Setup} {tree : FileTree} {current : Location} {p : Path} {proto : String}

/-- The import of an input's proto path finds that input if it is there and nothing hides it, and
only then. -/
theorem findImport_input_iff (hproper : p.Proper) (h : setup.relativePath p = .ok proto) :
    setup.findImport tree current proto = .ok (setup.locate p) ↔
      tree.pathExists current (setup.locate p) = true ∧
        ¬ setup.IsHidden tree current p proto := by
  obtain ⟨before, start, after, hincludes, hbefore, hstart, hjoin, _⟩ := relativePath_eq_ok hproper h
  unfold Setup.IsHidden Setup.hiding?
  rw [findImport_eq_ok_iff, includesBefore_eq hincludes hbefore hstart, hincludes, List.map_append,
    List.map_cons, hjoin, List.find?_append]
  cases hfound : (before.map fun start => setup.locate (start.joinText proto)).find?
      (fun p => tree.pathExists current p) with
  | none =>
    rw [Option.none_or]
    constructor
    · intro hfind
      exact ⟨List.find?_some hfind, fun ⟨_, hnone, _⟩ => Option.not_mem_none _ hnone⟩
    · rintro ⟨hthere, _⟩
      exact List.find?_cons_of_pos hthere
  | some file =>
    rw [Option.some_or]
    constructor
    · intro hfile
      cases hfile
      refine ⟨List.find?_some hfound, ?_⟩
      rintro ⟨other, ho, hne⟩
      exact hne (Option.mem_some.1 ho).symm
    · rintro ⟨_, hclear⟩
      by_contra hne
      exact hclear ⟨file, rfl, fun heq => hne (congrArg some heq)⟩

/-! ## The check of the imports -/

/-- When the check of the imports ends well, each input is the file that the import of its proto
path finds if it is there and nothing hides it, and only then. If that is so for all inputs, the
file that is read for a proto path is the same whether an input names it or an import. -/
theorem an_input_is_what_its_import_finds_unless_hidden {host after : Host} {listed : List String}
    (hproper : ∀ p ∈ setup.inputs, p.Proper)
    (h : Action.Gives setup.checkImports host listed after) :
    (∀ p ∈ setup.inputs, ∃ proto ∈ listed, setup.relativePath p = .ok proto ∧
      (setup.findImport host.tree host.current proto = .ok (setup.locate p) ↔
        host.tree.pathExists host.current (setup.locate p) = true ∧
          ¬ setup.IsHidden host.tree host.current p proto)) ∧
    ((∀ p ∈ setup.inputs, host.tree.pathExists host.current (setup.locate p) = true ∧
        ∀ proto, setup.relativePath p = .ok proto →
          ¬ setup.IsHidden host.tree host.current p proto) →
      ∃ visits, listed = protos visits ∧ DepthFirst setup host.tree host.current visits ∧
        ∀ visit ∈ visits,
          setup.findImport host.tree host.current visit.proto = .ok visit.file) := by
  obtain ⟨hrun, rfl⟩ := gives_checkImports.1 h
  obtain ⟨visits, rfl, hordered, _, hlisted⟩ := visits_of_reachable hrun
  refine ⟨fun p hp => ?_, fun hclear => ⟨visits, rfl, hordered, hordered.findImport ?_⟩⟩
  · obtain ⟨proto, hproto, hmem⟩ := hlisted p hp
    exact ⟨proto, hmem, hproto, findImport_input_iff (hproper p hp) hproto⟩
  · intro p hp proto hproto
    obtain ⟨hthere, hnot⟩ := hclear p hp
    exact (findImport_input_iff (hproper p hp) hproto).2 ⟨hthere, hnot proto hproto⟩

theorem shared_imports_are_read_where_inputs_are :
    (∀ p ∈ sharedImportsSetup.inputs, p.Proper) ∧
      Action.Gives sharedImportsSetup.checkImports sharedImportsHost
        ["a.proto", "b.proto", "c.proto"] sharedImportsHost ∧
      ∃ visits, ["a.proto", "b.proto", "c.proto"] = protos visits ∧
        DepthFirst sharedImportsSetup sharedImportsHost.tree [] visits ∧
        ∀ visit ∈ visits, sharedImportsSetup.findImport sharedImportsHost.tree [] visit.proto =
          .ok visit.file := by
  have hclear : ∀ p ∈ sharedImportsSetup.inputs,
      sharedImportsHost.tree.pathExists [] (sharedImportsSetup.locate p) = true ∧
        ∀ proto ∈ (sharedImportsSetup.relativePath p).toOption,
          sharedImportsSetup.hiding? sharedImportsHost.tree [] p proto = none := by
    decide +kernel
  refine ⟨sharedImports_proper, gives_sharedImports,
    (an_input_is_what_its_import_finds_unless_hidden sharedImports_proper gives_sharedImports).2 ?_⟩
  intro p hp
  obtain ⟨hthere, hnone⟩ := hclear p hp
  refine ⟨hthere, ?_⟩
  rintro proto hproto ⟨file, hfile, _⟩
  have hnothing : sharedImportsSetup.hiding? sharedImportsHost.tree sharedImportsHost.current p
      proto = none := hnone proto (by rw [hproto]; rfl)
  rw [hnothing] at hfile
  exact Option.not_mem_none _ hfile

/-- An input, and another file at its proto path in an include directory before that of the input.
The second input imports that proto path. -/
def hiddenInputHost : Host where
  tree :=
    ((FileTree.empty.withFile ["p", "a.proto"] (Action.encode "")).withFile
      ["p", "d.proto"] (Action.encode "import \"a.proto\";")).withFile
      ["q", "a.proto"] (Action.encode "import \"missing.proto\";")
  current := []
  scratch := Path.here
  responses := []
  calls := []
  log := []

def hiddenInputSetup : Setup :=
  { includes := [Path.ofText "q", Path.ofText "p"],
    inputs := [Path.ofText "p/a.proto", Path.ofText "p/d.proto"] }

/-- The check ends well, though the import of the input's proto path finds the other file. With the
inputs the other way round that file is read, and the check fails for what it imports. -/
theorem an_input_may_be_hidden_from_its_imports :
    Action.Gives hiddenInputSetup.checkImports hiddenInputHost ["a.proto", "d.proto"]
        hiddenInputHost ∧
      Path.ofText "p/a.proto" ∈ hiddenInputSetup.inputs ∧
      hiddenInputSetup.relativePath (Path.ofText "p/a.proto") = .ok "a.proto" ∧
      hiddenInputSetup.findImport hiddenInputHost.tree hiddenInputHost.current "a.proto" =
        .ok (Path.ofText "q/a.proto") ∧
      hiddenInputSetup.locate (Path.ofText "p/a.proto") ≠ Path.ofText "q/a.proto" ∧
      Action.Ends (hiddenInputSetup.withInputs
          [Path.ofText "p/d.proto", Path.ofText "p/a.proto"]).checkImports hiddenInputHost
        (.error (.imports (.notFound "missing.proto" hiddenInputSetup.includes)))
        hiddenInputHost := by
  refine ⟨gives_checkImports.2 ⟨eq_ok_of_toOption (by decide +kernel), rfl⟩, by decide +kernel,
    by decide +kernel, by decide +kernel, by decide +kernel, ends_checkImports.2 ⟨?_, rfl⟩⟩
  decide +kernel

end ProtoRefresh.Compiler
