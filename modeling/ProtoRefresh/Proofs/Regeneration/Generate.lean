-- What a plan does before the relocation: its commands run, its directory
-- is made afresh, and the generated files are rewritten. All of that keeps
-- a proper host proper.
import ProtoRefresh.Proofs.Host.Keeps
import ProtoRefresh.Proofs.Rewrite.Files
import ProtoRefresh.Regeneration.Regenerate

namespace ProtoRefresh

open FileTree ProtoRefresh.Action

variable {host after : Host}

/-! ## Rewriting -/

/-- A file that can be read lies in a directory, or is where its host runs. -/
theorem FileTree.WellFormed.parent_proper {tree : FileTree} {current : Location}
    (h : tree.WellFormed) (hc : current.Proper) {p : Path} {content : Content}
    (hread : tree.read current p = .ok content) : (p.parent.location current).Proper := by
  obtain ⟨hwalks, _⟩ := read_eq_ok_iff.1 hread
  obtain ⟨slashes, parts⟩ := p
  rcases List.eq_nil_or_concat' parts with rfl | ⟨before, part, rfl⟩
  · unfold Path.parent
    rw [List.dropLast_nil]
    exact Path.location_proper (fun _ hpart => absurd hpart List.not_mem_nil) hc
  · obtain ⟨_, hdir⟩ := walks_snoc.1 hwalks
    unfold Path.parent
    rw [List.dropLast_concat]
    exact h.proper (by rw [hdir]; rfl)

/-- The name of the temporary file beside a file is proper. -/
theorem Rewrite.isName_temporary {tree : FileTree} {current : Location} (h : tree.WellFormed)
    {p : Path} {content : Content} (hread : tree.read current p = .ok content) :
    IsName (p.name ++ temporarySuffix) := by
  have hslash : '/' ∉ p.name.toList := by
    obtain ⟨_, hfile⟩ := read_eq_ok_iff.1 hread
    obtain ⟨slashes, parts⟩ := p
    rcases List.eq_nil_or_concat' parts with rfl | ⟨before, part, rfl⟩
    · simp [Path.name]
    · rw [Path.name, List.getLast?_concat, Option.getD_some]
      rw [Path.location_snoc, Location.after] at hfile
      split at hfile
      · rename_i hback
        rw [hback]
        decide
      · exact (h.isName _ part (by rw [hfile]; rfl)).2.2.2
  have hlength := temporary_name_length p.name
  refine ⟨?_, ?_, temporary_name_ne_back p.name, ?_⟩
  · intro he
    rw [he] at hlength
    exact absurd hlength (by decide)
  · intro he
    rw [he] at hlength
    exact absurd hlength (by decide)
  · rw [String.toList_append, List.mem_append, not_or]
    exact ⟨hslash, by decide⟩

namespace Rewrite

theorem keeps_rewriteFile (p : Path) (rules : List Rule) :
    Keeps Host.Proper (rewriteFile p rules) := by
  intro host value after h hp
  obtain ⟨_, content, _, new, written, replaced, hread, _, _, hwritten, hreplaced, _, rfl⟩ :=
    gives_rewriteFile.1 h
  -- the temporary file is new in the directory of the file, which is there already
  have hname := isName_temporary hp.tree hread
  have htemporary : ((temporary p).location host.current).Proper := by
    rw [temporary, Path.location_child _ hname.2.2.1]
    intro part hpart
    rcases List.mem_append.1 hpart with hpart | hpart
    · exact hp.tree.parent_proper hp.current hread part hpart
    · rw [List.mem_singleton.1 hpart]
      exact hname
  have hplace : (p.location host.current).Proper :=
    hp.tree.proper (by rw [(read_eq_ok_iff.1 hread).2]; rfl)
  exact hp.withTree ((hp.tree.write htemporary hwritten).rename hplace hreplaced)

theorem keeps_rewriteFiles (rules : List Rule) (files : List Path) :
    Keeps Host.Proper (rewriteFiles rules files) := by
  induction files with
  | nil => exact .pure _
  | cons p rest ih => exact (keeps_rewriteFile p rules).bind fun _ => ih.bind fun _ => .pure _

end Rewrite

theorem Glob.keeps_searchBelow {P : Host → Prop} (start : Path) (pattern : String) :
    Keeps P (searchBelow start pattern) :=
  (Keeps.ofExcept _).bind fun _ => .get_bind fun _ => .pure _

theorem Rewrite.keeps_rewriteTree (directory : Path) (rules : List Rule) (pattern : String) :
    Keeps Host.Proper (rewriteTree directory rules pattern) :=
  (Glob.keeps_searchBelow directory pattern).bind fun files =>
    (keeps_rewriteFiles rules files).bind fun _ => (keeps_log _ _).bind fun _ => .pure _

/-! ## Commands -/

theorem keeps_compilerVersion (compiler : String) (directory : Option String) :
    Keeps Host.Proper (compilerVersion compiler directory) :=
  (keeps_runCommand _ _ _).bind fun _ => .pure _

theorem keeps_checkVersion (version start : String) :
    Keeps Host.Proper (checkVersion version start) := by
  unfold checkVersion
  exact .guard (keeps_log _ _)

theorem keeps_toolchain (plan : Plan) : Keeps Host.Proper plan.toolchain := by
  have hhelpers : Keeps Host.Proper
      (plan.helpers.forM fun helper => helper.build (some plan.root.text)) :=
    .forM plan.helpers fun helper _ => (keeps_runCommand _ _ _).bind fun _ => .pure _
  have hworkspace : ∀ compiler, Keeps Host.Proper
      (Toolchain.ofWorkspace (plan.root.joinText plan.workspace) compiler plan.lang none) := by
    intro compiler
    unfold Toolchain.ofWorkspace
    exact .guard (.get_bind fun _ => .pure _)
  refine hhelpers.bind fun _ => ?_
  dsimp only
  split
  · exact hworkspace _
  · rename_i finder _
    have hfinder : Keeps Host.Proper (finder.run (some plan.root.text)) :=
      (keeps_runCommand _ _ _).bind fun _ => .pure _
    exact hfinder.bind fun compiler => (keeps_log _ _).bind fun _ =>
      (Keeps.pure compiler).bind hworkspace

theorem Compiler.Setup.keeps_run (setup : Setup)
    (hdirectory : ∀ p, setup.directory = some p → p.Proper)
    (houtDir : ∀ p, setup.outDir = some p → p.Proper) : Keeps Host.Proper setup.run := by
  have hlocate : (setup.locate (setup.outDir.getD Path.here)).Proper := by
    have hout : (setup.outDir.getD Path.here).Proper := by
      cases ho : setup.outDir with
      | none => exact Path.here_proper
      | some p => exact houtDir p ho
    unfold Setup.locate
    cases hd : setup.directory with
    | none => exact hout
    | some directory => exact (hdirectory directory hd).join hout
  refine (Keeps.ofExcept _).bind fun argv => ?_
  refine (keeps_makeDirectories hlocate _ _).bind fun _ => ?_
  exact (keeps_runCommand _ _ _).bind fun _ => keeps_log _ _

theorem keeps_resolveInput {P : Host → Prop} (hlog : ∀ level message, Keeps P (log level message))
    (root : Path) (pattern : String) : Keeps P (Plan.resolveInput root pattern) := by
  have hlist : Keeps P (Glob.listFiles root pattern) := by
    unfold Glob.listFiles
    exact .guard (.get_bind fun _ => .pure _)
  unfold Plan.resolveInput
  split
  · exact .pure _
  · refine hlist.bind fun found => ?_
    split
    · exact (hlog _ _).bind fun _ => .pure _
    · exact .pure _

/-! ## Everything up to the relocation -/

namespace Regeneration

theorem keeps_makeFresh {directory : Path} (h : directory.Proper) :
    Keeps Host.Proper (makeFresh directory) := by
  refine (keeps_pathExists directory).bind fun there => ?_
  dsimp only
  split
  · exact (keeps_removeTree directory).bind fun _ => keeps_makeDirectories h _ _
  · exact keeps_makeDirectories h _ _

theorem keeps_compile {plan : Plan} (hroot : plan.root.Proper) (toolchain : Toolchain) :
    Keeps Host.Proper (compile plan toolchain) := by
  have hinputs : Keeps Host.Proper plan.resolveInputs :=
    (Keeps.mapM (keeps_resolveInput keeps_log plan.root) plan.inputs).bind fun _ => .pure _
  unfold compile
  refine .guard ?_
  refine hinputs.bind fun inputs => ?_
  refine Compiler.Setup.keeps_run _ ?_ ?_
  · rintro p ⟨⟩
    exact hroot
  · rintro p ⟨⟩
    exact Path.ofText_proper plan.generationDir

/-- Generating keeps a host proper: what commands and rewriting leave behind is a well-formed tree
again. -/
theorem keeps_generate {plan : Plan} (hroot : plan.root.Proper) :
    Keeps Host.Proper (generate plan) := by
  refine (keeps_compilerVersion _ _).bind fun version => ?_
  refine (keeps_checkVersion _ _).bind fun _ => ?_
  refine (keeps_toolchain plan).bind fun toolchain => ?_
  refine (keeps_makeFresh (hroot.joinText _)).bind fun _ => ?_
  refine (keeps_compile hroot toolchain).bind fun _ => ?_
  refine Keeps.bind ?_ fun generated => ?_
  · exact (Glob.keeps_searchBelow _ _).bind fun _ => (keeps_log _ _).bind fun _ => .pure _
  · exact (Keeps.ofExcept _).bind fun rules =>
      (Rewrite.keeps_rewriteTree _ rules _).bind fun _ => .pure _

end Regeneration

end ProtoRefresh
