-- The walk over the imports. It marks a proto path before it follows what
-- its file imports, and all inputs share one list. So at each moment
-- everything listed is explored but for the files that are still open,
-- and the last of these is where the walk goes on.
import Mathlib.Data.Finset.Card
import Mathlib.Data.List.Nodup
import Mathlib.Logic.Relation
import ProtoRefresh.Compiler.ImportPath
import ProtoRefresh.Proofs.FileTree.Walk

namespace ProtoRefresh.Compiler

/-! ## Depth-first order -/

/-- A proto path with the file that was read for it. -/
structure Visit where
  proto : String
  file : Path

/-- The proto paths of some visits. -/
def protos (visits : List Visit) : List String := visits.map Visit.proto

@[simp] theorem protos_append (visits more : List Visit) :
    protos (visits ++ more) = protos visits ++ protos more := List.map_append

@[simp] theorem protos_cons (visit : Visit) (visits : List Visit) :
    protos (visit :: visits) = visit.proto :: protos visits := rfl

variable (setup : Setup) (tree : FileTree) (current : Location)

/-- A file is explored as soon as all that it imports is listed. -/
def Visit.Explored (visit : Visit) (listed : List Visit) : Prop :=
  ∃ dependencies, importsOf tree current visit.file = .ok dependencies ∧
    ∀ dependency ∈ dependencies, dependency ∈ protos listed

/-- Visits in depth-first order, each proto path where it is first seen. -/
inductive DepthFirst : List Visit → Prop
  | start : DepthFirst []
  /-- The walk goes to an input when it has listed the inputs before it and explored all that it
  has listed, so all that those inputs reach. -/
  | input {listed : List Visit} {earlier later : List Path} {input : Path} {proto : String}
      (ordered : DepthFirst listed)
      (inputs_eq : setup.inputs = earlier ++ input :: later)
      (listed_earlier : ∀ p ∈ earlier, ∃ start, setup.relativePath p = .ok start ∧
        start ∈ protos listed)
      (explored : ∀ visit ∈ listed, visit.Explored tree current listed)
      (relative : setup.relativePath input = .ok proto)
      (fresh : proto ∉ protos listed) :
      DepthFirst (listed ++ [⟨proto, setup.locate input⟩])
  /-- The walk goes on at the last file that is not explored, with the first of its imports that
  is not listed. -/
  | dependency {before after : List Visit} {visit : Visit} {earlier later : List String}
      {dependency : String} {file : Path}
      (ordered : DepthFirst (before ++ visit :: after))
      (explored : ∀ v ∈ after, v.Explored tree current (before ++ visit :: after))
      (imports_eq : importsOf tree current visit.file = .ok (earlier ++ dependency :: later))
      (listed_earlier : ∀ d ∈ earlier, d ∈ protos (before ++ visit :: after))
      (fresh : dependency ∉ protos (before ++ visit :: after))
      (found : setup.findImport tree current dependency = .ok file) :
      DepthFirst (before ++ visit :: after ++ [⟨dependency, file⟩])

/-- One proto path imports another one, by the file that was read for it. -/
def Imports (visits : List Visit) (proto dependency : String) : Prop :=
  ∃ visit ∈ visits, visit.proto = proto ∧
    ∃ dependencies, importsOf tree current visit.file = .ok dependencies ∧
      dependency ∈ dependencies

/-- A proto path that an input names or that such a path reaches through imports. -/
def Reached (visits : List Visit) (proto : String) : Prop :=
  ∃ input ∈ setup.inputs, ∃ start, setup.relativePath input = .ok start ∧
    Relation.ReflTransGen (Imports tree current visits) start proto

variable {setup tree current}

/-! ## Laws of the order -/

theorem Visit.Explored.mono {visit : Visit} {listed more : List Visit}
    (h : visit.Explored tree current listed) (hsub : ∀ p ∈ protos listed, p ∈ protos more) :
    visit.Explored tree current more := by
  obtain ⟨dependencies, hd, hall⟩ := h
  exact ⟨dependencies, hd, fun d hmem => hsub d (hall d hmem)⟩

theorem DepthFirst.nodup {visits : List Visit} (h : DepthFirst setup tree current visits) :
    (protos visits).Nodup := by
  induction h with
  | start => exact List.nodup_nil
  | input _ _ _ _ _ fresh ih =>
    rw [protos_append]
    exact ih.append (List.nodup_singleton _) (by simpa [protos] using fresh)
  | dependency _ _ _ _ fresh _ ih =>
    rw [protos_append]
    exact ih.append (List.nodup_singleton _) (by simpa [protos] using fresh)

theorem Imports.mono {visits more : List Visit} (hsub : visits ⊆ more) {proto dependency : String}
    (h : Imports tree current visits proto dependency) :
    Imports tree current more proto dependency := by
  obtain ⟨visit, hv, hrest⟩ := h
  exact ⟨visit, hsub hv, hrest⟩

theorem Reached.mono {visits more : List Visit} (hsub : visits ⊆ more) {proto : String}
    (h : Reached setup tree current visits proto) : Reached setup tree current more proto := by
  obtain ⟨input, hi, start, hs, hr⟩ := h
  refine ⟨input, hi, start, hs, ?_⟩
  induction hr with
  | refl => exact .refl
  | tail _ himport ih => exact ih.tail (himport.mono hsub)

/-- What is listed is reached from an input. -/
theorem DepthFirst.reached {visits : List Visit} (h : DepthFirst setup tree current visits) :
    ∀ proto ∈ protos visits, Reached setup tree current visits proto := by
  induction h with
  | start => simp [protos]
  | @input listed earlier later input proto _ inputs_eq _ _ relative _ ih =>
    intro p hp
    rw [protos_append, List.mem_append] at hp
    rcases hp with hp | hp
    · exact (ih p hp).mono (List.subset_append_left _ _)
    · obtain rfl : p = proto := by simpa [protos] using hp
      exact ⟨input, by simp [inputs_eq], p, relative, .refl⟩
  | @dependency before after visit earlier later dependency file _ _ imports_eq _ _ _ ih =>
    intro p hp
    rw [protos_append, List.mem_append] at hp
    rcases hp with hp | hp
    · exact (ih p hp).mono (List.subset_append_left _ _)
    · obtain rfl : p = dependency := by simpa [protos] using hp
      obtain ⟨input, hi, start, hs, hr⟩ :=
        (ih visit.proto (by simp)).mono (List.subset_append_left _ [⟨p, file⟩])
      exact ⟨input, hi, start, hs, hr.tail ⟨visit, by simp, rfl, _, imports_eq, by simp⟩⟩

/-- What the inputs reach is listed, once all inputs are and all that is listed is explored. -/
theorem mem_of_reached {visits : List Visit}
    (hinputs : ∀ input ∈ setup.inputs, ∃ start, setup.relativePath input = .ok start ∧
      start ∈ protos visits)
    (hexplored : ∀ visit ∈ visits, visit.Explored tree current visits) {proto : String}
    (h : Reached setup tree current visits proto) : proto ∈ protos visits := by
  obtain ⟨input, hi, start, hs, hr⟩ := h
  induction hr with
  | refl =>
    obtain ⟨other, ho, hmem⟩ := hinputs input hi
    cases ho.symm.trans hs
    exact hmem
  | tail _ himport _ =>
    obtain ⟨visit, hv, _, dependencies, hd, hmem⟩ := himport
    obtain ⟨others, ho, hall⟩ := hexplored visit hv
    cases ho.symm.trans hd
    exact hall _ hmem

/-! ## How deep the walk goes -/

/-- What a file imports, if it has a text. -/
def importsIn : Entry → List String
  | .file content => ((sourceText content).map Proto.imports).toOption.getD []
  | .directory => []

/-- What the files of a tree import, file by file. -/
def importNames (tree : FileTree) : List String :=
  tree.entries.flatMap fun entry => importsIn entry.2

theorem importCount_eq (tree : FileTree) : importCount tree = (importNames tree).length := by
  have hfold : ∀ (f : Nat → Location × Entry → Nat),
      (∀ n entry, f n entry = n + (importsIn entry.2).length) →
      ∀ (entries : List (Location × Entry)) (n : Nat), entries.foldl f n =
        n + (entries.flatMap fun e => importsIn e.2).length := by
    intro f hf entries
    induction entries with
    | nil => simp
    | cons entry rest ih =>
      intro n
      rw [List.foldl_cons, List.flatMap_cons, List.length_append, ih, hf, Nat.add_assoc]
  unfold importCount
  rw [hfold _ ?_, Nat.zero_add, importNames]
  rintro n ⟨place, content | _⟩ <;> rfl

/-- What a file imports stands in the text of a file of the tree. -/
theorem importsOf_eq_ok {file : Path} {dependencies : List String}
    (h : importsOf tree current file = .ok dependencies) :
    ∃ content source, tree.read current file = .ok content ∧ sourceText content = .ok source ∧
      Proto.imports source = dependencies := by
  unfold importsOf at h
  dsimp only at h
  by_cases he : Action.isEnded file = true
  · rw [if_pos he] at h
    cases h
  · rw [if_neg he] at h
    cases hr : tree.read current file with
    | error e =>
      simp only [hr] at h
      cases h
    | ok content =>
      simp only [hr] at h
      cases hs : sourceText content with
      | error fault =>
        simp only [hs] at h
        cases h
      | ok source =>
        simp only [hs] at h
        cases h
        exact ⟨content, source, rfl, hs, rfl⟩

theorem mem_importNames {file : Path} {dependencies : List String}
    (h : importsOf tree current file = .ok dependencies) {dependency : String}
    (hd : dependency ∈ dependencies) : dependency ∈ importNames tree := by
  obtain ⟨content, source, hread, hsource, rfl⟩ := importsOf_eq_ok h
  obtain ⟨_, hget⟩ := FileTree.read_eq_ok_iff.1 hread
  have hno : tree.get? (file.location current) ≠ some .directory := by simp [hget]
  have hne := FileTree.ne_nil_of_not_directory hno
  refine List.mem_flatMap.2 ⟨_, (tree.mem_entries_iff hne _).2 hget, ?_⟩
  simpa [importsIn, hsource, Except.map, Except.toOption] using hd

/-- How many imports of the tree are not listed. -/
def unlisted (tree : FileTree) (listed : List String) : Nat :=
  ((importNames tree).toFinset \ listed.toFinset).card

theorem unlisted_le (tree : FileTree) (listed : List String) :
    unlisted tree listed ≤ importCount tree := by
  rw [importCount_eq]
  exact (Finset.card_le_card Finset.sdiff_subset).trans (List.toFinset_card_le _)

theorem unlisted_mono {listed more : List String} (h : listed ⊆ more) :
    unlisted tree more ≤ unlisted tree listed := by
  apply Finset.card_le_card
  intro name hn
  simp only [Finset.mem_sdiff, List.mem_toFinset] at hn ⊢
  exact ⟨hn.1, fun hl => hn.2 (h hl)⟩

/-- A new import that is listed leaves one less. -/
theorem unlisted_lt {listed : List String} {name : String} (hn : name ∈ importNames tree)
    (hfresh : name ∉ listed) : unlisted tree (listed ++ [name]) < unlisted tree listed := by
  apply Finset.card_lt_card
  refine ⟨fun other ho => ?_, fun hsub => ?_⟩
  · simp only [Finset.mem_sdiff, List.mem_toFinset, List.mem_append] at ho ⊢
    exact ⟨ho.1, fun hl => ho.2 (Or.inl hl)⟩
  · have hmem : name ∈ (importNames tree).toFinset \ listed.toFinset := by simp [hn, hfresh]
    simpa using hsub hmem

/-! ## The walk -/

/-- The walk through what one file imports: all but the file itself is explored after each import,
and each import is listed when the walk is past it. -/
theorem follow_dependencies {depth : Nat} {before : List Visit} {visit : Visit}
    {all : List String} (himports : importsOf tree current visit.file = .ok all)
    (hvisit : ∀ listed dependency file seen, unlisted tree (protos listed ++ [dependency]) < depth →
      dependency ∉ protos listed →
      DepthFirst setup tree current (listed ++ [⟨dependency, file⟩]) →
      setup.visit tree current depth (protos listed) dependency file = .ok seen →
      ∃ more, seen = protos (listed ++ ⟨dependency, file⟩ :: more) ∧
        DepthFirst setup tree current (listed ++ ⟨dependency, file⟩ :: more) ∧
        ∀ v ∈ ⟨dependency, file⟩ :: more,
          v.Explored tree current (listed ++ ⟨dependency, file⟩ :: more))
    (rest : List String) :
    ∀ (past : List String) (after : List Visit) (seen : List String), all = past ++ rest →
      unlisted tree (protos (before ++ visit :: after)) ≤ depth →
      DepthFirst setup tree current (before ++ visit :: after) →
      (∀ v ∈ after, v.Explored tree current (before ++ visit :: after)) →
      (∀ d ∈ past, d ∈ protos (before ++ visit :: after)) →
      rest.foldlM (fun seen dependency => do
        if seen.contains dependency then return seen
        let found ← setup.findImport tree current dependency
        setup.visit tree current depth seen dependency found)
        (protos (before ++ visit :: after)) = .ok seen →
      ∃ more, seen = protos (before ++ visit :: more) ∧
        DepthFirst setup tree current (before ++ visit :: more) ∧
        ∀ v ∈ visit :: more, v.Explored tree current (before ++ visit :: more) := by
  induction rest with
  | nil =>
    intro past after seen hall _ hordered hexplored hpast hrun
    rw [List.foldlM_nil] at hrun
    cases hrun
    refine ⟨after, rfl, hordered, fun v hv => ?_⟩
    rcases List.mem_cons.1 hv with rfl | hv
    · exact ⟨all, himports, by simpa [hall] using hpast⟩
    · exact hexplored v hv
  | cons dependency rest ih =>
    intro past after seen hall hdepth hordered hexplored hpast hrun
    rw [List.foldlM_cons, except_bind_eq_ok] at hrun
    obtain ⟨next, hnext, hrun⟩ := hrun
    have hall' : all = past ++ [dependency] ++ rest := by simp [hall]
    by_cases hseen : dependency ∈ protos (before ++ visit :: after)
    · rw [if_pos (by simpa using hseen)] at hnext
      cases hnext
      refine ih (past ++ [dependency]) after seen hall' hdepth hordered hexplored ?_ hrun
      intro d hd
      rcases List.mem_append.1 hd with hd | hd
      · exact hpast d hd
      · rw [List.mem_singleton.1 hd]
        exact hseen
    · rw [if_neg (by simpa using hseen)] at hnext
      obtain ⟨file, hfile, hnext⟩ := except_bind_eq_ok.1 hnext
      have hin : dependency ∈ importNames tree := mem_importNames himports (by simp [hall])
      have hless := unlisted_lt hin hseen
      obtain ⟨more, rfl, hordered', hexplored'⟩ := hvisit (before ++ visit :: after) dependency file
        next (by omega) hseen
        (.dependency hordered hexplored (by rw [himports, hall]) hpast hseen hfile) hnext
      -- what was explored stays so, and the new visits come after the file
      have hsplit : before ++ visit :: after ++ ⟨dependency, file⟩ :: more =
          before ++ visit :: (after ++ ⟨dependency, file⟩ :: more) := by simp
      have hsub : ∀ p ∈ protos (before ++ visit :: after),
          p ∈ protos (before ++ visit :: after ++ ⟨dependency, file⟩ :: more) := by
        intro p hp
        rw [protos_append]
        exact List.mem_append_left _ hp
      have hdepth' : unlisted tree _ ≤ depth := (unlisted_mono hsub).trans hdepth
      rw [hsplit] at hordered' hexplored' hsub hdepth' hrun
      refine ih (past ++ [dependency]) _ seen hall' hdepth' hordered' ?_ ?_ hrun
      · intro v hv
        rcases List.mem_append.1 hv with hv | hv
        · exact (hexplored v hv).mono hsub
        · exact hexplored' v hv
      · intro d hd
        rcases List.mem_append.1 hd with hd | hd
        · exact hsub d (hpast d hd)
        · simp [List.mem_singleton.1 hd]

/-- A visit lists what is next and explores all that it lists. -/
theorem visit_explores (depth : Nat) :
    ∀ (listed : List Visit) (proto : String) (file : Path) (seen : List String),
      unlisted tree (protos listed ++ [proto]) < depth → proto ∉ protos listed →
      DepthFirst setup tree current (listed ++ [⟨proto, file⟩]) →
      setup.visit tree current depth (protos listed) proto file = .ok seen →
      ∃ more, seen = protos (listed ++ ⟨proto, file⟩ :: more) ∧
        DepthFirst setup tree current (listed ++ ⟨proto, file⟩ :: more) ∧
        ∀ v ∈ ⟨proto, file⟩ :: more,
          v.Explored tree current (listed ++ ⟨proto, file⟩ :: more) := by
  induction depth with
  | zero =>
    intro listed proto file seen hdepth
    omega
  | succ depth ih =>
    intro listed proto file seen hdepth hfresh hordered hrun
    unfold Setup.visit at hrun
    rw [if_neg (by simpa using hfresh)] at hrun
    obtain ⟨dependencies, himports, hrun⟩ := except_bind_eq_ok.1 hrun
    refine @follow_dependencies setup tree current depth listed ⟨proto, file⟩ dependencies himports
      ih dependencies [] [] seen rfl ?_ hordered (by simp) (by simp) (by simpa [protos] using hrun)
    have : protos (listed ++ [⟨proto, file⟩]) = protos listed ++ [proto] := by simp [protos]
    rw [this]
    omega

/-- The walk through the inputs leaves all that is listed explored and all inputs listed. -/
theorem follow_inputs (rest : List Path) :
    ∀ (past : List Path) (listed : List Visit) (seen : List String),
      setup.inputs = past ++ rest → DepthFirst setup tree current listed →
      (∀ v ∈ listed, v.Explored tree current listed) →
      (∀ p ∈ past, ∃ start, setup.relativePath p = .ok start ∧ start ∈ protos listed) →
      rest.foldlM (fun seen p => do
        let proto ← setup.relativePath p
        setup.visit tree current (importCount tree + 2) seen proto (setup.locate p))
        (protos listed) = .ok seen →
      ∃ visits, seen = protos visits ∧ DepthFirst setup tree current visits ∧
        (∀ v ∈ visits, v.Explored tree current visits) ∧
        ∀ p ∈ setup.inputs, ∃ start, setup.relativePath p = .ok start ∧ start ∈ protos visits := by
  induction rest with
  | nil =>
    intro past listed seen hinputs hordered hexplored hpast hrun
    rw [List.foldlM_nil] at hrun
    cases hrun
    exact ⟨listed, rfl, hordered, hexplored, by simpa [hinputs] using hpast⟩
  | cons input rest ih =>
    intro past listed seen hinputs hordered hexplored hpast hrun
    rw [List.foldlM_cons, except_bind_eq_ok] at hrun
    obtain ⟨next, hnext, hrun⟩ := hrun
    obtain ⟨proto, hproto, hnext⟩ := except_bind_eq_ok.1 hnext
    have hinputs' : setup.inputs = past ++ [input] ++ rest := by simp [hinputs]
    by_cases hseen : proto ∈ protos listed
    · unfold Setup.visit at hnext
      rw [if_pos (by simpa using hseen)] at hnext
      cases hnext
      refine ih (past ++ [input]) listed seen hinputs' hordered hexplored ?_ hrun
      intro p hp
      rcases List.mem_append.1 hp with hp | hp
      · exact hpast p hp
      · rw [List.mem_singleton.1 hp]
        exact ⟨proto, hproto, hseen⟩
    · have hle := unlisted_le tree (protos listed ++ [proto])
      obtain ⟨more, rfl, hordered', hexplored'⟩ := visit_explores _ listed proto
        (setup.locate input) next (by omega) hseen
        (.input hordered hinputs hpast hexplored hproto hseen) hnext
      have hsub : ∀ p ∈ protos listed,
          p ∈ protos (listed ++ ⟨proto, setup.locate input⟩ :: more) := by
        intro p hp
        rw [protos_append]
        exact List.mem_append_left _ hp
      refine ih (past ++ [input]) _ seen hinputs' hordered' ?_ ?_ hrun
      · intro v hv
        rcases List.mem_append.1 hv with hv | hv
        · exact (hexplored v hv).mono hsub
        · exact hexplored' v hv
      · intro p hp
        rcases List.mem_append.1 hp with hp | hp
        · obtain ⟨start, hs, hmem⟩ := hpast p hp
          exact ⟨start, hs, hsub start hmem⟩
        · rw [List.mem_singleton.1 hp]
          exact ⟨proto, hproto, by simp⟩

/-- The proto paths that are reached are those of visits in depth-first order, all of them explored,
with all inputs among them. -/
theorem visits_of_reachable {listed : List String} (h : setup.reachable tree current = .ok listed) :
    ∃ visits, listed = protos visits ∧ DepthFirst setup tree current visits ∧
      (∀ v ∈ visits, v.Explored tree current visits) ∧
      ∀ p ∈ setup.inputs, ∃ start, setup.relativePath p = .ok start ∧ start ∈ protos visits :=
  follow_inputs setup.inputs [] [] listed rfl .start (by simp) (by simp) h

/-- The proto paths that the check of the imports lists are those that the inputs reach, each of
them once, in depth-first order. -/
theorem the_imports_are_listed_depth_first {setup : Setup} {host after : Host}
    {listed : List String} (h : (setup.checkImports).Gives host listed after) :
    ∃ visits, listed = protos visits ∧ DepthFirst setup host.tree host.current visits ∧
      listed.Nodup ∧
      ∀ proto, proto ∈ listed ↔ Reached setup host.tree host.current visits proto := by
  unfold Setup.checkImports at h
  obtain ⟨_, _, hget, hcheck⟩ := Action.gives_bind.1 h
  obtain ⟨rfl, rfl⟩ := Action.gives_get.1 hget
  obtain ⟨hrun, rfl⟩ := Action.gives_ofExcept.1 hcheck
  unfold Setup.reachable at hrun
  obtain ⟨visits, rfl, hordered, hexplored, hinputs⟩ :=
    follow_inputs setup.inputs [] [] listed rfl .start (by simp) (by simp) hrun
  refine ⟨visits, rfl, hordered, hordered.nodup, fun proto => ⟨hordered.reached proto, ?_⟩⟩
  exact mem_of_reached hinputs hexplored

/-- Two files import each other, and one of them imports a third one that imports itself. -/
def entangledHost : Host where
  tree :=
    ((FileTree.empty.withFile ["a.proto"]
      (Action.encode "import \"b.proto\"; import \"c.proto\";")).withFile
      ["b.proto"] (Action.encode "import \"a.proto\";")).withFile
      ["c.proto"] (Action.encode "import 'c.proto';")
  current := []
  scratch := Path.here
  responses := []
  calls := []
  log := []

/-- The first and the third of these files, seen from the directory that holds them. -/
def entangledSetup : Setup :=
  { includes := [Path.here], inputs := [Path.ofText "a.proto", Path.ofText "c.proto"] }

set_option maxRecDepth 10000 in
theorem entangled_imports_are_listed :
    (entangledSetup.checkImports).Gives entangledHost ["a.proto", "b.proto", "c.proto"]
      entangledHost ∧
    ∃ visits, ["a.proto", "b.proto", "c.proto"] = protos visits ∧
      DepthFirst entangledSetup entangledHost.tree entangledHost.current visits ∧
      ["a.proto", "b.proto", "c.proto"].Nodup ∧
      ∀ proto, proto ∈ ["a.proto", "b.proto", "c.proto"] ↔
        Reached entangledSetup entangledHost.tree entangledHost.current visits proto := by
  have hlisted : entangledSetup.reachable entangledHost.tree entangledHost.current =
      .ok ["a.proto", "b.proto", "c.proto"] := eq_ok_of_toOption (by decide +kernel)
  have hrun : (entangledSetup.checkImports).Gives entangledHost
      ["a.proto", "b.proto", "c.proto"] entangledHost :=
    Action.gives_bind.2 ⟨_, _, Action.gives_get.2 ⟨rfl, rfl⟩,
      Action.gives_ofExcept.2 ⟨hlisted, rfl⟩⟩
  exact ⟨hrun, the_imports_are_listed_depth_first hrun⟩

end ProtoRefresh.Compiler
