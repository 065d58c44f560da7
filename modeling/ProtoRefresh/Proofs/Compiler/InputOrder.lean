-- Inputs in another order. As long as the import of an input's proto path
-- finds that input, a proto path has one file, however the walk over the
-- imports gets to it. So the walk over some of the inputs comes to its end
-- if that over all of them does, and lists nothing else.
import ProtoRefresh.Proofs.Compiler.DepthFirst
import ProtoRefresh.Proofs.Compiler.IncludePath
import ProtoRefresh.Proofs.Host.Ending

namespace ProtoRefresh.Compiler

open FileTree

variable {setup : Setup} {tree : FileTree} {current : Location} {p start : Path}
  {proto : String} {known seen : List String} {inputs : List Path}

/-! ## The file of a proto path -/

/-- The include directories before the one that a path is seen from. -/
def Setup.includesBefore (setup : Setup) (p : Path) : List Path :=
  setup.includes.takeWhile fun start => (relativeTo? p start).isNone

theorem includesBefore_eq {before after : List Path} (h : setup.includes = before ++ start :: after)
    (hbefore : ∀ other ∈ before, ¬ p.StartsWith other) (hstart : p.StartsWith start) :
    setup.includesBefore p = before := by
  have hpass : ∀ other ∈ before, (relativeTo? p other).isNone = true := fun other ho =>
    Option.isNone_iff_eq_none.2 (relativeTo?_eq_none_iff.2 (hbefore other ho))
  have hstop : ¬ (relativeTo? p start).isNone = true := fun hnone =>
    relativeTo?_eq_none_iff.1 (Option.isNone_iff_eq_none.1 hnone) hstart
  unfold Setup.includesBefore
  rw [h, List.takeWhile_append_of_pos hpass, List.takeWhile_cons, if_neg hstop, List.append_nil]

/-- The import of an input's proto path finds the input, unless something hides it. -/
theorem findImport_of_relativePath (hproper : p.Proper)
    (hthere : tree.pathExists current (setup.locate p) = true)
    (hfirst : ∀ start ∈ setup.includesBefore p,
      tree.pathExists current (setup.locate (start.joinText proto)) = false)
    (h : setup.relativePath p = .ok proto) :
    setup.findImport tree current proto = .ok (setup.locate p) := by
  obtain ⟨before, start, after, hincludes, hbefore, hstart, hjoin, _⟩ := relativePath_eq_ok hproper h
  rw [includesBefore_eq hincludes hbefore hstart] at hfirst
  rw [findImport_eq_ok_iff, hincludes, List.map_append, List.map_cons, hjoin, List.find?_append,
    List.find?_eq_none.2, Option.none_or, List.find?_cons_of_pos hthere]
  intro candidate hcandidate
  obtain ⟨other, ho, rfl⟩ := List.mem_map.1 hcandidate
  rw [hfirst other ho]
  exact Bool.false_ne_true

/-! ## Closed proto paths -/

/-- Each of some proto paths has a file in the include path, which imports none but them. -/
def Setup.Closed (setup : Setup) (tree : FileTree) (current : Location) (known : List String) :
    Prop :=
  ∀ proto ∈ known, ∃ file dependencies, setup.findImport tree current proto = .ok file ∧
    importsOf tree current file = .ok dependencies ∧ dependencies ⊆ known

/-- The import of each input's proto path finds that input. -/
def Setup.FindsInputs (setup : Setup) (tree : FileTree) (current : Location) : Prop :=
  ∀ input ∈ setup.inputs, ∀ proto, setup.relativePath input = .ok proto →
    setup.findImport tree current proto = .ok (setup.locate input)

/-- In the depth-first order each proto path comes with the file that its import finds, if that is
so for the inputs. -/
theorem DepthFirst.findImport {visits : List Visit} (h : DepthFirst setup tree current visits)
    (hinputs : setup.FindsInputs tree current) :
    ∀ visit ∈ visits, setup.findImport tree current visit.proto = .ok visit.file := by
  induction h with
  | start => exact fun visit hvisit => absurd hvisit List.not_mem_nil
  | input _ inputs_eq _ _ relative _ ih =>
    intro visit hvisit
    rcases List.mem_append.1 hvisit with hvisit | hvisit
    · exact ih visit hvisit
    · rw [List.mem_singleton.1 hvisit]
      exact hinputs _ (by simp [inputs_eq]) _ relative
  | dependency _ _ _ _ _ found ih =>
    intro visit hvisit
    rcases List.mem_append.1 hvisit with hvisit | hvisit
    · exact ih visit hvisit
    · rw [List.mem_singleton.1 hvisit]
      exact found

/-- A walk comes to its end, and lists known proto paths only, if each of its steps does. -/
theorem foldlM_subset {α : Type} {step : List String → α → Except Failure (List String)}
    {steps : List α} (hstep : ∀ a ∈ steps, ∀ seen, seen ⊆ known →
      ∃ more, step seen a = .ok more ∧ more ⊆ known) (hseen : seen ⊆ known) :
    ∃ more, steps.foldlM step seen = .ok more ∧ more ⊆ known := by
  induction steps generalizing seen with
  | nil => exact ⟨seen, rfl, hseen⟩
  | cons a rest ih =>
    obtain ⟨next, hnext, hsub⟩ := hstep a List.mem_cons_self seen hseen
    obtain ⟨more, hmore, hknown⟩ := ih (fun b hb => hstep b (List.mem_cons_of_mem a hb)) hsub
    exact ⟨more, by rw [List.foldlM_cons, hnext]; exact hmore, hknown⟩

/-- A visit among closed proto paths comes to its end, and lists none but them. -/
theorem Setup.Closed.visit (h : setup.Closed tree current known) (depth : Nat) :
    ∀ {seen : List String} {proto : String} {file : Path}, seen ⊆ known → proto ∈ known →
      setup.findImport tree current proto = .ok file →
      ∃ more, setup.visit tree current depth seen proto file = .ok more ∧ more ⊆ known := by
  induction depth with
  | zero => exact fun hseen _ _ => ⟨_, rfl, hseen⟩
  | succ depth ih =>
    intro seen proto file hseen hproto hfound
    unfold Setup.visit
    by_cases hlisted : proto ∈ seen
    · exact ⟨seen, if_pos (by simpa using hlisted), hseen⟩
    · rw [if_neg (by simpa using hlisted)]
      obtain ⟨other, dependencies, hother, himports, hsub⟩ := h proto hproto
      obtain rfl := Except.ok.inj (hfound.symm.trans hother)
      rw [himports]
      refine foldlM_subset (fun dependency hd listed hl => ?_) ?_
      · split
        · exact ⟨listed, rfl, hl⟩
        · obtain ⟨found, _, hfound, _⟩ := h dependency (hsub hd)
          rw [hfound]
          exact ih hl (hsub hd) hfound
      · exact List.append_subset.2 ⟨hseen, List.cons_subset.2 ⟨hproto, List.nil_subset _⟩⟩

/-! ## Other inputs -/

/-- The setup with other inputs. -/
def Setup.withInputs (setup : Setup) (inputs : List Path) : Setup := { setup with inputs := inputs }

theorem Setup.FindsInputs.withInputs (h : setup.FindsInputs tree current)
    (hsome : inputs ⊆ setup.inputs) : (setup.withInputs inputs).FindsInputs tree current :=
  fun input hinput => h input (hsome hinput)

/-- The walk over some of the inputs comes to its end if the walk over all of them does, and lists
nothing else. -/
theorem reachable_subset {listed : List String} (hinputs : setup.FindsInputs tree current)
    (hsome : inputs ⊆ setup.inputs) (h : setup.reachable tree current = .ok listed) :
    ∃ other, (setup.withInputs inputs).reachable tree current = .ok other ∧ other ⊆ listed := by
  obtain ⟨visits, rfl, hordered, hexplored, hlisted⟩ := visits_of_reachable h
  have hfiles := hordered.findImport hinputs
  have hclosed : (setup.withInputs inputs).Closed tree current (protos visits) := by
    intro proto hproto
    obtain ⟨visit, hvisit, rfl⟩ := List.mem_map.1 hproto
    obtain ⟨dependencies, himports, hall⟩ := hexplored visit hvisit
    exact ⟨visit.file, dependencies, hfiles visit hvisit, himports, fun d hd => hall d hd⟩
  refine foldlM_subset (fun input hinput seen hseen => ?_) (List.nil_subset _)
  obtain ⟨proto, hproto, hmem⟩ := hlisted input (hsome hinput)
  have hrelative : (setup.withInputs inputs).relativePath input = .ok proto := hproto
  rw [hrelative]
  exact hclosed.visit _ hseen hmem (hinputs input (hsome hinput) proto hproto)

theorem reachable_nodup {listed : List String} (h : setup.reachable tree current = .ok listed) :
    listed.Nodup := by
  obtain ⟨visits, rfl, hordered, _⟩ := visits_of_reachable h
  exact hordered.nodup

/-- The walks over the inputs in two orders come to their end together, and list the same. -/
theorem reachable_perm (hperm : inputs.Perm setup.inputs)
    (hinputs : setup.FindsInputs tree current) {listed : List String}
    (h : setup.reachable tree current = .ok listed) :
    ∃ other, (setup.withInputs inputs).reachable tree current = .ok other ∧
      other.Perm listed := by
  obtain ⟨other, hother, hsub⟩ := reachable_subset hinputs hperm.subset h
  -- the same holds the other way round, so nothing is missing
  have hothers := hinputs.withInputs hperm.subset
  obtain ⟨again, hagain, hback⟩ := reachable_subset hothers hperm.symm.subset hother
  obtain rfl : again = listed := Except.ok.inj (hagain.symm.trans h)
  exact ⟨other, hother, (List.perm_ext_iff_of_nodup (reachable_nodup hother)
    (reachable_nodup h)).2 fun proto => ⟨fun hp => hsub hp, fun hp => hback hp⟩⟩

/-! ## The check of the imports -/

theorem ends_checkImports {host after : Host} {result : Except Failure (List String)} :
    Action.Ends setup.checkImports host result after ↔
      result = setup.reachable host.tree host.current ∧ after = host := by
  unfold Setup.checkImports
  rw [Action.ends_get_bind, Action.ends_ofExcept]

theorem gives_checkImports {host after : Host} {listed : List String} :
    Action.Gives setup.checkImports host listed after ↔
      setup.reachable host.tree host.current = .ok listed ∧ after = host := by
  rw [← Action.ends_ok_iff, ends_checkImports, eq_comm]

/-- The check of the imports fails for all orders of the inputs or for none, and lists the same
proto paths for each of them. For that each input has to be there, and no include directory before
the one that it is seen from may hold anything at its proto path. -/
theorem the_order_of_the_inputs_does_not_matter {host : Host} (hperm : inputs.Perm setup.inputs)
    (hproper : ∀ p ∈ setup.inputs, p.Proper)
    (hthere : ∀ p ∈ setup.inputs, host.tree.pathExists host.current (setup.locate p) = true)
    (hfirst : ∀ p ∈ setup.inputs, ∀ proto, setup.relativePath p = .ok proto →
      ∀ start ∈ setup.includesBefore p,
        host.tree.pathExists host.current (setup.locate (start.joinText proto)) = false) :
    (∃ failure other, Action.Ends setup.checkImports host (.error failure) host ∧
        Action.Ends (setup.withInputs inputs).checkImports host (.error other) host) ∨
      ∃ listed other, Action.Gives setup.checkImports host listed host ∧
        Action.Gives (setup.withInputs inputs).checkImports host other host ∧
        other.Perm listed := by
  have hinputs : setup.FindsInputs host.tree host.current := fun input hi proto hproto =>
    findImport_of_relativePath (hproper input hi) (hthere input hi) (hfirst input hi proto hproto)
      hproto
  cases hrun : setup.reachable host.tree host.current with
  | ok listed =>
    obtain ⟨other, hother, hsame⟩ := reachable_perm hperm hinputs hrun
    exact Or.inr ⟨listed, other, gives_checkImports.2 ⟨hrun, rfl⟩,
      gives_checkImports.2 ⟨hother, rfl⟩, hsame⟩
  | error failure =>
    cases hother : (setup.withInputs inputs).reachable host.tree host.current with
    | ok other =>
      have hback : setup.inputs.Perm (setup.withInputs inputs).inputs := hperm.symm
      obtain ⟨listed, hlisted, _⟩ :=
        reachable_perm hback (hinputs.withInputs hperm.subset) hother
      cases hlisted.symm.trans hrun
    | error otherFailure =>
      exact Or.inl ⟨failure, otherFailure, ends_checkImports.2 ⟨hrun.symm, rfl⟩,
        ends_checkImports.2 ⟨hother.symm, rfl⟩⟩

/-- Two inputs in two include directories: the second one imports the first one and what that one
imports. -/
def sharedImportsHost : Host where
  tree :=
    ((FileTree.empty.withFile ["p", "a.proto"] (Action.encode "import \"b.proto\";")).withFile
      ["p", "b.proto"] (Action.encode "")).withFile
      ["q", "c.proto"] (Action.encode "import \"b.proto\"; import \"a.proto\";")
  current := []
  scratch := Path.here
  responses := []
  calls := []
  log := []

def sharedImportsSetup : Setup :=
  { includes := [Path.ofText "q", Path.ofText "p"],
    inputs := [Path.ofText "p/a.proto", Path.ofText "q/c.proto"] }

theorem sharedImports_proper : ∀ p ∈ sharedImportsSetup.inputs, p.Proper :=
  List.forall_mem_cons.2 ⟨Path.ofText_proper _, List.forall_mem_singleton.2 (Path.ofText_proper _)⟩

theorem gives_sharedImports : Action.Gives sharedImportsSetup.checkImports sharedImportsHost
    ["a.proto", "b.proto", "c.proto"] sharedImportsHost :=
  gives_checkImports.2 ⟨eq_ok_of_toOption (by decide +kernel), rfl⟩

def sharedImportsReversed : List Path := [Path.ofText "q/c.proto", Path.ofText "p/a.proto"]

theorem shared_imports_are_listed_in_both_orders :
    sharedImportsReversed.Perm sharedImportsSetup.inputs ∧
      (∀ p ∈ sharedImportsSetup.inputs, p.Proper ∧
        sharedImportsHost.tree.pathExists [] (sharedImportsSetup.locate p) = true) ∧
      Action.Gives sharedImportsSetup.checkImports sharedImportsHost
        ["a.proto", "b.proto", "c.proto"] sharedImportsHost ∧
      Action.Gives (sharedImportsSetup.withInputs sharedImportsReversed).checkImports
        sharedImportsHost ["c.proto", "b.proto", "a.proto"] sharedImportsHost ∧
      ["c.proto", "b.proto", "a.proto"].Perm ["a.proto", "b.proto", "c.proto"] := by
  have hperm : sharedImportsReversed.Perm sharedImportsSetup.inputs := by decide +kernel
  have hthere : ∀ p ∈ sharedImportsSetup.inputs,
      sharedImportsHost.tree.pathExists [] (sharedImportsSetup.locate p) = true := by
    decide +kernel
  have hfirst : ∀ p ∈ sharedImportsSetup.inputs,
      ∀ proto ∈ (sharedImportsSetup.relativePath p).toOption,
        ∀ start ∈ sharedImportsSetup.includesBefore p, sharedImportsHost.tree.pathExists []
          (sharedImportsSetup.locate (start.joinText proto)) = false := by
    decide +kernel
  have hother : Action.Gives (sharedImportsSetup.withInputs sharedImportsReversed).checkImports
      sharedImportsHost ["c.proto", "b.proto", "a.proto"] sharedImportsHost :=
    gives_checkImports.2 ⟨eq_ok_of_toOption (by decide +kernel), rfl⟩
  rcases the_order_of_the_inputs_does_not_matter hperm sharedImports_proper hthere
      (fun p hp proto hproto => hfirst p hp proto (by rw [hproto]; rfl)) with
    ⟨_, _, hends, _⟩ | ⟨_, _, hgives, hothers, hsame⟩
  · cases (hends.unique (Action.ends_ok_iff.2 gives_sharedImports)).1
  · obtain ⟨rfl, _⟩ := gives_sharedImports.unique hgives
    obtain ⟨rfl, _⟩ := hother.unique hothers
    exact ⟨hperm, fun p hp => ⟨sharedImports_proper p hp, hthere p hp⟩, gives_sharedImports, hother,
      hsame⟩

end ProtoRefresh.Compiler
