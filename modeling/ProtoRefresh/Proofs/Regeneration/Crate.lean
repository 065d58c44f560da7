-- A whole run of the plan for the crate. What the compiler has left is
-- listed and rewritten below its directory, and each file that is placed
-- arrives with its markers replaced.
import ProtoRefresh.Proofs.Path.Spelling
import ProtoRefresh.Proofs.Regeneration.Again
import ProtoRefresh.Proofs.Relocation.Crate
import ProtoRefresh.Proofs.Rewrite.Marked
import ProtoRefresh.Proofs.Rewrite.Tree

namespace ProtoRefresh

open FileTree ProtoRefresh.Action

namespace Regeneration

open Relocation Rewrite Text

variable {plan : Plan} {host after : Host} {directory : Path}

/-! ## What the compiler leaves -/

/-- Everything up to the compiler. -/
def runCompiler (plan : Plan) : Action Unit := do
  let (_, toolchain) ← prepare plan
  makeFresh (generationDir plan)
  compile plan toolchain

/-- The host that the compiler of a plan leaves behind. -/
def compiled (plan : Plan) (host : Host) : Host := (((runCompiler plan).run).run host).2

/-- A regular file that the compiler has left somewhere in its directory, with the ending of
generated files. -/
structure Generated (plan : Plan) (host : Host) (p : Path) : Prop where
  below : p.IsBelow (generationDir plan)
  isFile : (compiled plan host).tree.isFile (compiled plan host).current p = true
  ending : plan.generatedSuffix.toList <:+ p.name.toList

/-- Some texts list files, seen from a directory: each of the files once, and no other. -/
structure Lists (directory : Path) (texts : List String) (files : Path → Prop) : Prop where
  nodup : texts.Nodup
  mem_iff : ∀ text, text ∈ texts ↔ ∃ p, files p ∧ textBelow directory p = text
  told_apart : ∀ p q, files p → files q → textBelow directory p = textBelow directory q → p = q

/-! ## Texts of files -/

theorem textBelow_below (directory : Path) (names : List String) :
    textBelow directory (directory.below names) = (⟨0, names⟩ : Path).text := by
  have hrelative : (directory.below names).relativeTo? directory = some ⟨0, names⟩ := by
    simp [Path.relativeTo?, Path.below]
  rw [textBelow, hrelative]
  rfl

/-- Files below a directory are told apart by their texts. -/
theorem eq_of_textBelow {tree : FileTree} {current : Location} (hwf : tree.WellFormed) {p q : Path}
    (hp : p.IsBelow directory) (hq : q.IsBelow directory) (hpfile : tree.isFile current p = true)
    (hqfile : tree.isFile current q = true)
    (htext : textBelow directory p = textBelow directory q) : p = q := by
  have hproper : ∀ names, ".." ∉ names → tree.isFile current (directory.below names) = true →
      (⟨0, names⟩ : Path).Proper := by
    intro names hback hfile
    refine ⟨Nat.zero_le 2, fun part hpart => ?_⟩
    obtain ⟨content, hread⟩ := isFile_iff.1 hfile
    have hplace := hwf.proper (by rw [(read_eq_ok_iff.1 hread).2]; rfl)
    rw [Path.location_below _ hback] at hplace
    exact Or.inr (hplace part (List.mem_append_right _ hpart))
  obtain ⟨names, hnames, rfl⟩ := hp
  obtain ⟨others, hothers, rfl⟩ := hq
  rw [textBelow_below, textBelow_below] at htext
  have hspells := congrArg Path.ofText htext
  rw [Path.ofText_text (hproper names hnames hpfile),
    Path.ofText_text (hproper others hothers hqfile)] at hspells
  rw [(Path.mk.inj hspells).2]

/-- The texts of generated files list those files. -/
theorem lists_of_generated (hwf : (compiled plan host).tree.WellFormed) {files : List Path}
    (hnodup : files.Nodup) {chosen : Path → Prop} (hmem : ∀ p, p ∈ files ↔ chosen p)
    (hgenerated : ∀ p, chosen p → Generated plan host p) {texts : List String}
    (htexts : texts.Perm (files.map (textBelow (generationDir plan)))) :
    Lists (generationDir plan) texts chosen := by
  have hapart : ∀ p q, chosen p → chosen q →
      textBelow (generationDir plan) p = textBelow (generationDir plan) q → p = q := by
    intro p q hp hq
    have hpfile := hgenerated p hp
    have hqfile := hgenerated q hq
    exact eq_of_textBelow hwf hpfile.below hqfile.below hpfile.isFile hqfile.isFile
  refine ⟨htexts.nodup_iff.2 (hnodup.map_on fun p hp q hq => ?_), fun text => ?_, hapart⟩
  · exact hapart p q ((hmem p).1 hp) ((hmem q).1 hq)
  · rw [htexts.mem_iff, List.mem_map]
    simp only [hmem]

/-! ## The files of a plan -/

/-- A run up to the relocation compiles, lists what it finds then and rewrites it. -/
theorem compiled_of_gives {value : String × List String × List Path} {start : Host}
    (h : Gives (generate plan) host value start) :
    ∃ rules listed, plan.rules = .ok rules ∧
      Gives (runCompiler plan) host () (compiled plan host) ∧
      Gives (listGenerated plan) (compiled plan host) value.2.1 listed ∧
      Gives (rewriteTree (generationDir plan) rules (generatedPattern plan)) listed value.2.2
        start := by
  obtain ⟨version, toolchain, prepared, fresh, hprepare, hfresh, hfill⟩ := gives_generate.1 h
  unfold fill at hfill
  obtain ⟨_, middle, hcompile, hfill⟩ := gives_bind.1 hfill
  obtain ⟨generated, listed, hlist, hfill⟩ := gives_bind.1 hfill
  obtain ⟨rules, read, hread, hfill⟩ := gives_bind.1 hfill
  obtain ⟨rewritten, _, hrewrite, hlast⟩ := gives_bind.1 hfill
  obtain ⟨rfl, rfl⟩ := gives_pure.1 hlast
  obtain ⟨hrules, rfl⟩ := gives_ofExcept.1 hread
  have hrun : Gives (runCompiler plan) host () middle :=
    gives_bind.2 ⟨(version, toolchain), prepared, hprepare,
      gives_bind.2 ⟨(), fresh, hfresh, hcompile⟩⟩
  have hcompiled : compiled plan host = middle := by
    unfold compiled
    rw [hrun.run_eq]
  rw [hcompiled]
  exact ⟨rules, read, except_mapError_eq_ok.1 hrules, hrun, hlist, hrewrite⟩

theorem keeps_runCompiler (hroot : plan.root.Proper) : Keeps Host.Proper (runCompiler plan) :=
  (keeps_prepare plan).bind fun _ => (keeps_makeFresh (hroot.joinText _)).bind fun _ =>
    keeps_compile hroot _

theorem gives_listGenerated {texts : List String}
    (hquery : Glob.Query.ofText (generatedPattern plan) =
      .ok ⟨[.names (generatedPattern plan)], false⟩)
    (h : Gives (listGenerated plan) host texts after) :
    texts.Perm ((found host.tree host.current (generationDir plan) (generatedPattern plan)).map
      (textBelow (generationDir plan))) ∧ after = { host with log := after.log } := by
  unfold listGenerated at h
  obtain ⟨files, _, hsearch, h⟩ := gives_bind.1 h
  obtain ⟨query, hread, rfl, rfl⟩ := Glob.gives_searchBelow.1 hsearch
  obtain rfl := Except.ok.inj (hquery.symm.trans hread)
  obtain ⟨_, _, hlog, hlast⟩ := gives_bind.1 h
  obtain ⟨rfl, rfl⟩ := gives_pure.1 hlast
  rw [gives_log.1 hlog]
  exact ⟨List.mergeSort_perm _ _, rfl⟩

/-! ## The files of the crate -/

theorem generationDir_ofCrate (root : Path) :
    generationDir (.ofCrate root) = root.child Plan.standardGenerationDir :=
  Path.joinText_of_isName root (by decide : IsName Plan.standardGenerationDir)

theorem generatedPattern_ofCrate (root : Path) : generatedPattern (.ofCrate root) = "*.rs" := by
  rw [← String.toList_inj]
  rfl

theorem ofText_generatedPattern (root : Path) :
    Glob.Query.ofText (generatedPattern (.ofCrate root)) =
      .ok ⟨[.names (generatedPattern (.ofCrate root))], false⟩ := by
  rw [generatedPattern_ofCrate]
  rfl

/-- The pattern of the crate stands for the names with the ending of generated files. -/
theorem matches_generatedPattern (root : Path) (name : String) :
    Glob.nameMatches (generatedPattern (.ofCrate root)) name = true ↔
      Plan.standardSuffix.toList <:+ name.toList := by
  have hplain : ∀ c ∈ Plan.standardSuffix.toList, c ≠ '*' ∧ c ≠ '?' ∧ c ≠ '[' := by
    simp [Plan.standardSuffix]
  exact Glob.nameMatches_star hplain

/-- No temporary file is named like a generated file. -/
theorem temporary_not_generated (root : Path) (name : String) :
    Glob.nameMatches (generatedPattern (.ofCrate root)) (name ++ temporarySuffix) = false := by
  rw [generatedPattern_ofCrate]
  exact nameMatches_sources_temporary name

/-- What a search in the directory of the crate finds when the compiler has run. -/
def crateFound (root : Path) (host : Host) : List Path :=
  found (compiled (.ofCrate root) host).tree (compiled (.ofCrate root) host).current
    (generationDir (.ofCrate root)) (generatedPattern (.ofCrate root))

theorem nodup_crateFound (root : Path) (host : Host) : (crateFound root host).Nodup :=
  Glob.Query.files_nodup _ _

/-- A search finds the generated files. -/
theorem mem_crateFound {root p : Path} (hproper : (compiled (.ofCrate root) host).Proper) :
    p ∈ crateFound root host ↔ Generated (.ofCrate root) host p := by
  rw [crateFound, found, Glob.mem_files_below hproper.tree]
  constructor
  · rintro ⟨names, name, hnames, hback, rfl, hmatches, hfile⟩
    refine ⟨Path.IsBelow.child ⟨names, hnames, rfl⟩ hback, hfile, ?_⟩
    rw [Path.name_child]
    exact (matches_generatedPattern root name).1 hmatches
  · rintro ⟨⟨names, hnames, rfl⟩, hfile, hending⟩
    rcases List.eq_nil_or_concat' names with rfl | ⟨before, name, rfl⟩
    · rw [Path.below_nil, generationDir_ofCrate, Path.name_child] at hending
      exact absurd hending
        (by decide : ¬ Plan.standardSuffix.toList <:+ Plan.standardGenerationDir.toList)
    · have hsplit : (generationDir (.ofCrate root)).below (before ++ [name]) =
          ((generationDir (.ofCrate root)).below before).child name :=
        (Path.below_below _ before [name]).symm
      rw [hsplit, Path.name_child] at hending
      simp only [List.mem_append, List.mem_singleton, not_or] at hnames
      exact ⟨before, name, hnames.1, Ne.symm hnames.2, hsplit,
        (matches_generatedPattern root name).2 hending, hfile⟩

/-- The rules for the markers change the files that hold one. -/
theorem changes_serdeRules {p : Path} :
    Changes serdeRules host.current host.tree p ↔
      ∃ text, host.HoldsText p text ∧ Marked (points text) := by
  unfold Changes Host.HoldsText
  constructor
  · rintro ⟨content, old, hread, hold, hne⟩
    exact ⟨old, ⟨content, hread, hold⟩, rewriteText_ne_iff.1 hne⟩
  · rintro ⟨old, ⟨content, hread, hold⟩, hmarked⟩
    exact ⟨content, old, hread, hold, rewriteText_ne_iff.2 hmarked⟩

/-- Up to the relocation all generated files are listed and rewritten. -/
theorem rewritten_of_gives {root : Path} {value : String × List String × List Path} {start : Host}
    (hproper : (compiled (.ofCrate root) host).Proper)
    (h : Gives (generate (.ofCrate root)) host value start) :
    start.current = (compiled (.ofCrate root) host).current ∧
      value.2.1.Perm ((crateFound root host).map (textBelow (generationDir (.ofCrate root)))) ∧
      Rewritten serdeRules start.current (crateFound root host)
        (compiled (.ofCrate root) host).tree start.tree ∧
      value.2.2.Sublist (crateFound root host) ∧
      ∀ p, p ∈ value.2.2 ↔ p ∈ crateFound root host ∧
        ∃ text, (compiled (.ofCrate root) host).HoldsText p text ∧ Marked (points text) := by
  obtain ⟨rules, listed, hrules, _, hlist, hrewrite⟩ := compiled_of_gives h
  obtain rfl := Except.ok.inj ((Plan.rules_ofCrate root).symm.trans hrules)
  obtain ⟨hperm, hlisted⟩ := gives_listGenerated (ofText_generatedPattern root) hlist
  have hwf : listed.tree.WellFormed := by
    rw [hlisted]
    exact hproper.tree
  have hcurrent : start.current = (compiled (.ofCrate root) host).current := by
    rw [quiet_rewriteTree _ _ _ (ends_ok_iff.2 hrewrite), hlisted]
  obtain ⟨hrewritten, hsublist, hchanged⟩ := rewritten_rewriteTree hwf
    (ofText_generatedPattern root) (temporary_not_generated root) hrewrite
  rw [hlisted] at hrewritten hsublist hchanged
  refine ⟨hcurrent, hperm, hcurrent ▸ hrewritten, hsublist, fun p => ?_⟩
  rw [hchanged, ← changes_serdeRules]
  rfl

/-- What a run of the plan for the crate does to the files that the compiler has left. -/
structure Delivers (plan : Plan) (host : Host) (report : Report) (after : Host) : Prop where
  /-- Each file that is placed arrives with its markers replaced. -/
  arrive : ∀ placement ∈ report.placements, ∃ old new,
    (compiled plan host).HoldsText ((generationDir plan).child placement.source) old ∧
      after.HoldsText placement.destination new ∧
      points new = rewriteText serdeRules (points old) ∧ ¬ Marked (points new)
  generated : Lists (generationDir plan) report.generated (Generated plan host)
  rewritten : Lists (generationDir plan) report.rewritten fun p =>
    Generated plan host p ∧ ∃ text, (compiled plan host).HoldsText p text ∧ Marked (points text)

/-- A run of the plan for the crate that ends well delivers all files that it places, unless a
target is a directory or a file has the new name of another one. -/
theorem the_crate_gets_its_files_rewritten {root : Path} {report : Report} (hhost : host.Proper)
    (hroot : root.Proper) (hrun : Gives (regenerate (.ofCrate root) false) host report after)
    (hnoDirectory : ∀ placement ∈ report.placements,
      (relocationStart (.ofCrate root) host).tree.isDirectory
        (relocationStart (.ofCrate root) host).current placement.destination = false)
    (hmod : (compiled (.ofCrate root) host).tree.isFile (compiled (.ofCrate root) host).current
      ((generationDir (.ofCrate root)).child "mod.rs") = false) :
    Delivers (.ofCrate root) host report after := by
  obtain ⟨value, placements, start, hgenerate, hrelocate, rfl⟩ := gives_regenerate.1 hrun
  rw [relocationStart_of_gives hgenerate] at hnoDirectory
  have hplan : (Plan.ofCrate root).root.Proper := hroot
  have hproper : (compiled (.ofCrate root) host).Proper := by
    obtain ⟨_, _, _, hcompiled, _⟩ := compiled_of_gives hgenerate
    exact keeps_runCompiler hplan hcompiled hhost
  have hstart := keeps_generate hplan hgenerate hhost
  obtain ⟨hcurrent, hperm, hrewritten, hsublist, hchanged⟩ := rewritten_of_gives hproper hgenerate
  have hfound : ∀ p, p ∈ crateFound root host ↔ Generated (.ofCrate root) host p :=
    fun _ => mem_crateFound hproper
  refine ⟨fun placement hp => ?_, ?_, ?_⟩
  · have hnew : start.tree.isFile start.current
        ((generationDir (.ofCrate root)).child "mod.rs") = false := by
      rw [← hcurrent] at hmod
      exact Bool.eq_false_iff.2 fun hfile => absurd (hrewritten.isFile hfile) (by simp [hmod])
    rw [generationDir_ofCrate] at hrelocate hnew
    obtain ⟨hback, hending, content, hread, harrived⟩ := arrivals_crateMoves hstart.tree
      (by decide) (by decide) hrelocate hnoDirectory hnew placement hp
    rw [← generationDir_ofCrate] at hread
    -- what is placed was found and rewritten
    have hfile := hrewritten.isFile (isFile_iff.2 ⟨content, hread⟩)
    rw [hcurrent] at hfile
    have hgenerated : Generated (.ofCrate root) host
        ((generationDir (.ofCrate root)).child placement.source) :=
      ⟨(Path.IsBelow.refl _).child hback, hfile, by rwa [Path.name_child]⟩
    obtain ⟨before, old, new, hbefore, hold, hnew, hafter⟩ :=
      hrewritten.file _ ((hfound _).2 hgenerated)
    obtain rfl := Except.ok.inj (hafter.symm.trans hread)
    rw [hcurrent] at hbefore
    exact ⟨old, new, ⟨before, hbefore, hold⟩, ⟨_, harrived, decodeUtf8_encode _⟩, hnew.symm,
      hnew ▸ not_marked_rewriteText (points old)⟩
  · exact lists_of_generated hproper.tree (nodup_crateFound root host) hfound (fun _ => id) hperm
  · refine lists_of_generated hproper.tree ((nodup_crateFound root host).sublist hsublist)
      (fun p => ?_) (fun _ => And.left) (.refl _)
    rw [hchanged]
    exact and_congr_left fun _ => hfound p

/-- The compiler leaves the files that have their own place, and one with a marker. -/
def markedHost : Host where
  tree := FileTree.empty
  current := []
  scratch := Path.here
  responses :=
    [{ stdout := "libprotoc 3.1\n" }, {}, {}, { stdout := "protoc\n" },
     { writes :=
        [⟨⟨0, ["tmp-generated", "descriptor.rs"]⟩, .file [1]⟩,
         ⟨⟨0, ["tmp-generated", "plugin.rs"]⟩, .file [2]⟩,
         ⟨⟨0, ["tmp-generated", "rustproto.rs"]⟩, .file [3]⟩,
         ⟨⟨0, ["tmp-generated", "doctest_pb.rs"]⟩, .file [4]⟩,
         ⟨⟨0, ["tmp-generated", "well_known_types_mod.rs"]⟩, .file [5]⟩,
         ⟨⟨0, ["tmp-generated", "any.rs"]⟩, .file (encode insertionPoint)⟩] }]
  calls := []
  log := []

def herePlan : Plan := .ofCrate Path.here

def markedFile : Path := (generationDir herePlan).child "any.rs"

def markedFiles : List Path :=
  markedFile :: ["descriptor.rs", "doctest_pb.rs", "plugin.rs", "rustproto.rs",
    "well_known_types_mod.rs"].map (generationDir herePlan).child

def markedPlacements : List Placement :=
  [⟨"descriptor.rs", ⟨0, ["src", "descriptor.rs"]⟩, true⟩,
   ⟨"plugin.rs", ⟨0, ["src", "plugin.rs"]⟩, true⟩,
   ⟨"rustproto.rs", ⟨0, ["src", "rustproto.rs"]⟩, true⟩,
   ⟨"doctest_pb.rs", ⟨0, ["src", "doctest_pb.rs"]⟩, true⟩,
   ⟨"well_known_types_mod.rs", ⟨0, ["src", "well_known_types", "mod.rs"]⟩, true⟩,
   ⟨"any.rs", ⟨0, ["src", "well_known_types", "any.rs"]⟩, true⟩]

/-- The files below the directory, with the content of the one that had a marker. -/
def leftTree (content : Content) : FileTree where
  entries :=
    [(["tmp-generated"], .directory),
     (["tmp-generated", "any.rs"], .file content),
     (["tmp-generated", "descriptor.rs"], .file [1]),
     (["tmp-generated", "doctest_pb.rs"], .file [4]),
     (["tmp-generated", "plugin.rs"], .file [2]),
     (["tmp-generated", "rustproto.rs"], .file [3]),
     (["tmp-generated", "well_known_types_mod.rs"], .file [5])]
  sorted := by
    simp only [← List.pairwise_map (f := Prod.fst), List.map_cons, List.map_nil]
    decide +kernel

/-- A host that has run all commands. -/
def leftHost (content : Content) (calls : List Call) (log : List LogRecord) : Host where
  tree := leftTree content
  current := []
  scratch := Path.here
  responses := []
  calls := calls
  log := log

theorem gives_leftHost {α : Type} {action : Action α} {value : α} {content : Content}
    (h : (((action.run).run host).1.toOption, ((action.run).run host).2.tree,
      ((action.run).run host).2.current, ((action.run).run host).2.scratch,
      ((action.run).run host).2.responses) =
        (some value, leftTree content, [], Path.here, [])) :
    Gives action host value (leftHost content ((action.run).run host).2.calls
      ((action.run).run host).2.log) := by
  simp only [Prod.mk.injEq] at h
  obtain ⟨hvalue, htree, hcurrent, hscratch, hresponses⟩ := h
  have hleft : leftHost content ((action.run).run host).2.calls ((action.run).run host).2.log =
      ((action.run).run host).2 := by
    rw [leftHost, ← htree, ← hcurrent, ← hresponses, ← hscratch]
  rw [hleft]
  exact gives_of_toOption hvalue

/-- The host when the files are there, when they are listed and when they are rewritten. -/
def compiledHost : Host :=
  leftHost (encode insertionPoint) (compiled herePlan markedHost).calls
    (compiled herePlan markedHost).log

def listedHost : Host :=
  { compiledHost with
    log := compiledHost.log ++ [⟨.info, "generated 6 file(s) in tmp-generated"⟩] }

def changedHost : Host :=
  let host := (((rewriteFiles serdeRules markedFiles).run).run listedHost).2
  leftHost [] host.calls host.log

def rewrittenHost : Host :=
  { changedHost with
    log := changedHost.log ++ [⟨.info, "rewrote 1 of 6 generated file(s)"⟩] }

theorem gives_compiledHost : Gives (runCompiler herePlan) markedHost () compiledHost :=
  gives_leftHost (by decide +kernel)

theorem compiled_markedHost : compiled herePlan markedHost = compiledHost :=
  congrArg Prod.snd gives_compiledHost.run_eq

theorem found_markedFiles :
    found (leftTree (encode insertionPoint)) [] (generationDir herePlan)
      (generatedPattern herePlan) = markedFiles := by
  exact Glob.Query.files_eq_of_perm (by decide +kernel) (by decide +kernel)

theorem gives_searchBelow_markedFiles {calls : List Call} {log : List LogRecord} :
    Gives (Glob.searchBelow (generationDir herePlan) (generatedPattern herePlan))
      (leftHost (encode insertionPoint) calls log) markedFiles
      (leftHost (encode insertionPoint) calls log) :=
  Glob.gives_searchBelow.2 ⟨_, ofText_generatedPattern Path.here, found_markedFiles, rfl⟩

theorem gives_changedHost :
    Gives (rewriteFiles serdeRules markedFiles) listedHost [markedFile] changedHost :=
  gives_leftHost (by decide +kernel)

theorem gives_relocate_rewrittenHost : ∃ after,
    Gives (relocate (generationDir herePlan) Path.here crateMoves false) rewrittenHost
      markedPlacements after :=
  ⟨_, gives_of_toOption (by decide +kernel)⟩

theorem gives_markedHost : ∃ version texts,
    Gives (generate herePlan) markedHost (version, texts, [markedFile]) rewrittenHost := by
  obtain ⟨⟨version, toolchain⟩, prepared, hprepare, hrest⟩ := gives_bind.1 gives_compiledHost
  obtain ⟨_, fresh, hfresh, hcompile⟩ := gives_bind.1 hrest
  have hlist : Gives (listGenerated herePlan) compiledHost _ listedHost :=
    gives_bind.2 ⟨markedFiles, _, gives_searchBelow_markedFiles, gives_bind.2
      ⟨(), _, gives_log.2 (by rw [List.length_mergeSort]; rfl), gives_pure.2 ⟨rfl, rfl⟩⟩⟩
  have hrules : Gives (Action.ofExcept (herePlan.rules.mapError Failure.pattern)) listedHost
      serdeRules listedHost :=
    gives_ofExcept.2 ⟨by rw [herePlan, Plan.rules_ofCrate]; rfl, rfl⟩
  have hrewrite : Gives (rewriteTree (generationDir herePlan) serdeRules
      (generatedPattern herePlan)) listedHost [markedFile] rewrittenHost :=
    gives_bind.2 ⟨markedFiles, _, gives_searchBelow_markedFiles, gives_bind.2
      ⟨[markedFile], _, gives_changedHost, gives_bind.2
        ⟨(), _, gives_log.2 rfl, gives_pure.2 ⟨rfl, rfl⟩⟩⟩⟩
  have hfill : Gives (fill herePlan version toolchain) fresh (version, _, [markedFile])
      rewrittenHost :=
    gives_bind.2 ⟨(), _, hcompile, gives_bind.2 ⟨_, _, hlist, gives_bind.2
      ⟨serdeRules, _, hrules, gives_bind.2 ⟨[markedFile], _, hrewrite, gives_pure.2 ⟨rfl, rfl⟩⟩⟩⟩⟩
  exact ⟨version, _, gives_generate.2 ⟨version, toolchain, prepared, fresh, hprepare, hfresh,
    hfill⟩⟩

theorem a_marked_file_arrives_without_its_marker : ∃ report after,
    Gives (regenerate (.ofCrate Path.here) false) markedHost report after ∧
      report.placements = markedPlacements ∧ report.rewritten = ["any.rs"] ∧
      Delivers (.ofCrate Path.here) markedHost report after := by
  obtain ⟨version, texts, hgenerate⟩ := gives_markedHost
  obtain ⟨after, hrelocate⟩ := gives_relocate_rewrittenHost
  have hrun := gives_regenerate.2 ⟨_, _, _, hgenerate, hrelocate, rfl⟩
  have hrewritten : [markedFile].map (textBelow (generationDir herePlan)) = ["any.rs"] := by
    decide +kernel
  have hnoDirectory : ∀ placement ∈ markedPlacements,
      rewrittenHost.tree.isDirectory rewrittenHost.current placement.destination = false := by
    decide +kernel
  have hmod : compiledHost.tree.isFile compiledHost.current
      ((generationDir herePlan).child "mod.rs") = false := by decide +kernel
  rw [← relocationStart_of_gives hgenerate] at hnoDirectory
  rw [← compiled_markedHost] at hmod
  exact ⟨_, after, hrun, rfl, hrewritten, the_crate_gets_its_files_rewritten (by decide +kernel)
    (by decide +kernel) hrun hnoDirectory hmod⟩

end Regeneration

end ProtoRefresh
