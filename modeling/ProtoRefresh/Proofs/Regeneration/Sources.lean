-- The directory that a plan generates into, and the sources of the plan.
-- The directory is removed before anything is generated, and nothing asks
-- what is in it. A source goes with it if it is there or below, in a check
-- as in any other run, and every other source stays.
import ProtoRefresh.Proofs.Regeneration.Calls
import ProtoRefresh.Proofs.Regeneration.Fresh

namespace ProtoRefresh.Regeneration

open FileTree ProtoRefresh.Action

variable {host after : Host} {directory : Path}

/-! ## Removing -/

/-- Removes what a path leads to, if it leads to anything. -/
def clear (directory : Path) : Action Unit := do
  if ← Action.pathExists directory then Action.removeTree directory

theorem makeFresh_eq (directory : Path) : makeFresh directory =
    clear directory >>= fun _ => Action.makeNewDirectory directory := by
  unfold makeFresh clear
  rw [bind_assoc]
  congr 1
  funext there
  cases there <;> rfl

/-- A place that goes when a directory is removed: the directory itself or something in it. -/
structure IsCleared (host : Host) (directory : Path) (place : Location) : Prop where
  isDirectory : host.tree.isDirectory host.current directory = true
  below : directory.location host.current <+: place

/-- What the removal of a directory does, however it ends: nothing is left in the directory, and
nothing but the directory has changed. It stays itself if it cannot be removed. -/
structure Clears (host : Host) (directory : Path) (cleared : Except Failure Unit) (after : Host) :
    Prop where
  gone : ∀ place, IsCleared host directory place →
    place ≠ directory.location host.current ∨ cleared = .ok () → after.tree.get? place = none
  kept : ∀ place, ¬ IsCleared host directory place → after.tree.get? place = host.tree.get? place

/-- Nothing happens where there is no directory. -/
theorem Clears.refl (hno : host.tree.isDirectory host.current directory ≠ true)
    (cleared : Except Failure Unit) : Clears host directory cleared host where
  gone := fun _ hplace => absurd hplace.isDirectory hno
  kept := fun _ _ => rfl

/-- The tree without what is in a directory. -/
theorem clears_of_emptied (hdir : host.tree.isDirectory host.current directory = true)
    (failure : Failure) : Clears host directory (.error failure) { host with
      tree := host.tree.remove fun place => (directory.location host.current).isPrefixOf place &&
        place != directory.location host.current } where
  gone := by
    rintro place ⟨_, hbelow⟩ (hother | hok)
    · have hne : place ≠ [] := by
        rintro rfl
        exact hother (List.prefix_nil.1 hbelow).symm
      rw [get?_remove _ _ hne, if_pos]
      simp [hbelow, hother]
    · cases hok
  kept := by
    intro place hplace
    have hbelow : ¬ directory.location host.current <+: place := fun h => hplace ⟨hdir, h⟩
    by_cases hnil : place = []
    · rw [hnil, get?_nil, get?_nil]
    · rw [get?_remove _ _ hnil, if_neg]
      simp [hbelow]

/-- The tree without a directory, which is not the root. -/
theorem clears_of_removed (hdir : host.tree.isDirectory host.current directory = true)
    (hne : directory.location host.current ≠ []) : Clears host directory (.ok ()) { host with
      tree := host.tree.eraseBelow (directory.location host.current) } where
  gone := by
    rintro place ⟨_, hbelow⟩ _
    have hplace : place ≠ [] := by
      rintro rfl
      exact hne (List.prefix_nil.1 hbelow)
    rw [get?_of_ne_nil _ hplace, lookup_eraseBelow, if_pos hbelow]
  kept := fun place hplace => get?_eraseBelow _ fun hbelow => hplace ⟨hdir, hbelow⟩

/-- A path that ends with a name does not lead to the root. -/
theorem location_ne_nil {current : Location} (hparts : directory.parts ≠ [])
    (hname : directory.name ≠ "..") : directory.location current ≠ [] := by
  obtain ⟨slashes, parts⟩ := directory
  rcases List.eq_nil_or_concat' parts with rfl | ⟨before, part, rfl⟩
  · exact absurd rfl hparts
  · rw [Path.name, List.getLast?_concat, Option.getD_some] at hname
    rw [Path.location_snoc, Location.after, if_neg hname]
    simp

theorem clears_of_ends {cleared : Except Failure Unit}
    (h : Ends (clear directory) host cleared after) : Clears host directory cleared after := by
  unfold clear at h
  cases hexists : host.tree.pathExists host.current directory with
  | false =>
    rw [ends_bind_of_gives (gives_pathExists.2 ⟨hexists, rfl⟩)] at h
    obtain ⟨rfl, rfl⟩ := ends_pure.1 h
    refine .refl (fun hdir => ?_) _
    obtain ⟨hwalks, hget⟩ := isDirectory_iff.1 hdir
    rw [pathExists_iff.2 ⟨hwalks, by rw [hget]; rfl⟩] at hexists
    cases hexists
  | true =>
    rw [ends_bind_of_gives (gives_pathExists.2 ⟨hexists, rfl⟩), if_pos rfl] at h
    obtain ⟨hwalks, hsome⟩ := pathExists_iff.1 hexists
    unfold removeTree at h
    rw [ends_get_bind, locate_eq_ok_iff.2 ⟨hwalks, rfl⟩] at h
    cases hget : host.tree.get? (directory.location host.current) with
    | none =>
      rw [hget] at hsome
      cases hsome
    | some entry =>
      simp only [hget] at h
      cases entry with
      | file content =>
        obtain ⟨rfl, rfl⟩ := ends_fail.1 h
        refine .refl (fun hdir => ?_) _
        rw [(isDirectory_iff.1 hdir).2] at hget
        cases hget
      | directory =>
        have hdir := isDirectory_iff.2 ⟨hwalks, hget⟩
        -- the contents go first, and then the directory may turn out to have no name of its own
        rw [ends_bind_of_changes (gives_setTree.2 rfl)] at h
        rcases ends_guard.1 h with ⟨_, rfl, rfl⟩ | ⟨hparts, h⟩
        · exact clears_of_emptied hdir _
        rcases ends_guard.1 h with ⟨_, rfl, rfl⟩ | ⟨_, h⟩
        · exact clears_of_emptied hdir _
        rcases ends_guard.1 h with ⟨_, rfl, rfl⟩ | ⟨hname, h⟩
        · exact clears_of_emptied hdir _
        obtain ⟨rfl, rfl⟩ := ends_modify.1 h
        rw [erase_remove_below]
        exact clears_of_removed hdir (location_ne_nil (by simpa using hparts) hname)

/-! ## Sources -/

/-- What a plan is about: its root, the files that its inputs name, the directories that it
includes, and the places that its moves bring files to. -/
inductive IsSource (plan : Plan) (host : Host) : Path → Prop
  | root : IsSource plan host plan.root
  | input {pattern text : String} {files : List String} {left : Host} (hin : pattern ∈ plan.inputs)
      (hfiles : Gives (Plan.resolveInput plan.root pattern) host files left)
      (htext : text ∈ files) : IsSource plan host (plan.root.joinText text)
  | included {text : String} (hin : text ∈ plan.includes) :
      IsSource plan host (plan.root.joinText text)
  | destination {source : Relocation.Source} (hin : source ∈ Relocation.sourcesOf plan.moves)
      (generated : Path) : IsSource plan host (source.target plan.root generated)

/-- A text that spells a way down from the root of a plan. -/
structure LeadsDown (text : String) : Prop where
  relative : (Path.ofText text).isAbsolute = false
  noBack : ".." ∉ (Path.ofText text).parts

instance (text : String) : Decidable (LeadsDown text) :=
  decidable_of_iff ((Path.ofText text).isAbsolute = false ∧ ".." ∉ (Path.ofText text).parts)
    ⟨fun h => ⟨h.1, h.2⟩, fun h => ⟨h.relative, h.noBack⟩⟩

theorem LeadsDown.location_joinText {text : String} (h : LeadsDown text) (root : Path)
    {current : Location} : (root.joinText text).location current =
      root.location current ++ (Path.ofText text).parts := by
  unfold Path.joinText
  rw [Path.join_eq_below root h.relative, Path.location_below root h.noBack]

/-- Of two ways down from the root, the one that starts with the other leads into its directory. -/
theorem isCleared_joinText_iff {plan : Plan} {text : String} (hdir : LeadsDown plan.generationDir)
    (htext : LeadsDown text) :
    IsCleared host (generationDir plan) ((plan.root.joinText text).location host.current) ↔
      host.tree.isDirectory host.current (generationDir plan) = true ∧
        (Path.ofText plan.generationDir).parts <+: (Path.ofText text).parts := by
  have hbelow : (generationDir plan).location host.current <+:
      (plan.root.joinText text).location host.current ↔
        (Path.ofText plan.generationDir).parts <+: (Path.ofText text).parts := by
    rw [generationDir, hdir.location_joinText, htext.location_joinText,
      List.prefix_append_right_inj]
  rw [← hbelow]
  exact ⟨fun h => ⟨h.isDirectory, h.below⟩, fun h => ⟨h.1, h.2⟩⟩

/-! ## Whole runs -/

/-- Everything after the old directory is gone. -/
def refill (plan : Plan) (check : Bool) (version : String) (toolchain : Toolchain) :
    Action Report := do
  Action.makeNewDirectory (generationDir plan)
  let (version, generated, rewritten) ← fill plan version toolchain
  let placements ← Relocation.relocate (generationDir plan) plan.root plan.moves check
  return ⟨version, generated, rewritten.map (textBelow (generationDir plan)), placements⟩

theorem finish_eq (plan : Plan) (check : Bool) (version : String) (toolchain : Toolchain) :
    finish plan check version toolchain =
      clear (generationDir plan) >>= fun _ => refill plan check version toolchain := by
  unfold finish refill
  rw [makeFresh_eq, bind_assoc]

/-- A run, a check or not, fails before it removes anything, or it removes the directory of its
plan: every source at or below the directory goes with all that is in it, every other one stays,
and the run goes on from there, or ends if the directory itself could not be removed. Where the
directory and a source are spelled as ways down from the root, the source goes exactly if its way
starts with that of the directory. -/
theorem the_sources_in_the_directory_go_and_the_others_stay {plan : Plan} {check : Bool}
    {host after : Host} {result : Except Failure Report}
    (hrun : Ends (regenerate plan check) host result after) :
    (∃ failure, Ends (prepare plan) host (.error failure) after ∧ result = .error failure) ∨
    ∃ version toolchain start cleared emptied,
      Gives (prepare plan) host (version, toolchain) start ∧
      Ends (clear (generationDir plan)) start cleared emptied ∧
      (cleared = .ok () → Ends (refill plan check version toolchain) emptied result after) ∧
      (∀ failure, cleared = .error failure → result = .error failure ∧ after = emptied) ∧
      (∀ source, IsSource plan start source → start.tree.pathExists start.current source = true →
        (¬ IsCleared start (generationDir plan) (source.location start.current) →
          emptied.tree.get? (source.location start.current) =
            start.tree.get? (source.location start.current)) ∧
        (IsCleared start (generationDir plan) (source.location start.current) →
          ∀ place, source.location start.current <+: place →
            place ≠ (generationDir plan).location start.current ∨ cleared = .ok () →
              emptied.tree.get? place = none)) ∧
      (LeadsDown plan.generationDir → ∀ text, LeadsDown text →
        (IsCleared start (generationDir plan)
            ((plan.root.joinText text).location start.current) ↔
          start.tree.isDirectory start.current (generationDir plan) = true ∧
            (Path.ofText plan.generationDir).parts <+: (Path.ofText text).parts)) := by
  rw [regenerate_eq] at hrun
  rcases ends_bind.1 hrun with ⟨failure, hfail, rfl⟩ | ⟨⟨version, toolchain⟩, start, hgives, hends⟩
  · exact Or.inl ⟨failure, hfail, rfl⟩
  right
  have hclear := ends_run (clear (generationDir plan)) start
  have hclears := clears_of_ends hclear
  refine ⟨version, toolchain, start, _, _, hgives, hclear, ?_, ?_, ?_, ?_⟩
  · intro hok
    rw [hok, ends_ok_iff] at hclear
    rwa [finish_eq, ends_bind_of_gives hclear] at hends
  · intro failure hfailure
    rw [hfailure] at hclear
    rw [finish_eq] at hends
    rcases ends_bind.1 hends with ⟨other, hother, rfl⟩ | ⟨_, _, hgives, _⟩
    · obtain ⟨heq, rfl⟩ := hclear.unique hother
      cases heq
      exact ⟨rfl, rfl⟩
    · cases (hclear.unique (ends_ok_iff.2 hgives)).1
  · intro source _ _
    refine ⟨fun hout => hclears.kept _ hout, fun hin place hplace => ?_⟩
    exact hclears.gone place ⟨hin.isDirectory, hin.below.trans hplace⟩
  · exact fun hdir text htext => isCleared_joinText_iff hdir htext

/-- A project with an input, a directory that is included, a file that was brought there before, and
what is left of the run that brought it. -/
def projectHost : Host where
  tree := (((FileTree.empty.withFile ["proj", "main.proto"] [1]).withFile
    ["proj", "inc", "b.proto"] [2]).withFile ["proj", "src", "a.pb.rs"] [3]).withFile
    ["proj", "tmp", "old.rs"] [4]
  current := []
  scratch := Path.here
  responses :=
    [{ stdout := "libprotoc 3.21\n" }, { writes := [⟨Path.ofText "a.pb.rs", .file [5]⟩] }]
  calls := []
  log := []

/-- The plan of the project, with a directory to generate into. -/
def projectPlan (generationDir : String) : Plan where
  root := Path.ofText "proj"
  inputs := ["main.proto"]
  includes := ["inc"]
  generationDir := generationDir
  moves := [{ sources := ["a.pb.rs"], dest := "src" }]

theorem a_directory_of_its_own_spares_the_sources :
    ∃ result after, Ends (regenerate (projectPlan "tmp") true) projectHost result after ∧
      ∃ found start cleared emptied, Gives (prepare (projectPlan "tmp")) projectHost found start ∧
        Ends (clear (generationDir (projectPlan "tmp"))) start cleared emptied ∧
        emptied.tree.get? ["proj", "main.proto"] = some (.file [1]) ∧
        emptied.tree.get? ["proj", "inc"] = some .directory := by
  have hrun := ends_run (regenerate (projectPlan "tmp") true) projectHost
  have hprepared : Gives (prepare (projectPlan "tmp")) projectHost
      ("libprotoc 3.21", ⟨"protoc", some ⟨1, ["target", "debug", "protoc-gen-rust"]⟩, "rust"⟩)
      (((prepare (projectPlan "tmp")).run).run projectHost).2 :=
    gives_of_toOption (by decide +kernel)
  refine ⟨_, _, hrun, ?_⟩
  rcases the_sources_in_the_directory_go_and_the_others_stay hrun with
    ⟨failure, hfail, _⟩ | ⟨version, toolchain, start, cleared, emptied, hgives, hclear, _, _,
      hsources, hdown⟩
  · cases (hfail.unique (ends_ok_iff.2 hprepared)).1
  · obtain ⟨_, rfl⟩ := hgives.unique hprepared
    -- neither way down from the root starts with the name of the directory
    have hinput := (hsources _ (.input (List.mem_singleton.2 rfl) (gives_pure.2 ⟨rfl, rfl⟩)
      (List.mem_singleton.2 rfl)) (by decide +kernel)).1 fun hcleared =>
        absurd ((hdown (by decide) "main.proto" (by decide)).1 hcleared).2 (by decide)
    have hincluded := (hsources _ (.included (List.mem_singleton.2 rfl)) (by decide +kernel)).1
      fun hcleared => absurd ((hdown (by decide) "inc" (by decide)).1 hcleared).2 (by decide)
    exact ⟨_, _, _, _, hgives, hclear, hinput.trans (by decide +kernel),
      hincluded.trans (by decide +kernel)⟩

/-- A check generates into the directory of its sources: it reports the change of a file, and the
file, the input and the directory that is included are gone. -/
theorem a_check_removes_its_sources :
    ∃ after, Gives (regenerate (projectPlan ".") true) projectHost
        ⟨"libprotoc 3.21", ["a.pb.rs"], [], [⟨"a.pb.rs", Path.ofText "proj/src/a.pb.rs", true⟩]⟩ after ∧
      after.tree.get? ["proj", "main.proto"] = none ∧ after.tree.get? ["proj", "inc"] = none ∧
      after.tree.get? ["proj", "src", "a.pb.rs"] = none :=
  ⟨_, gives_of_toOption (by decide +kernel), by decide +kernel, by decide +kernel,
    by decide +kernel⟩

end ProtoRefresh.Regeneration
