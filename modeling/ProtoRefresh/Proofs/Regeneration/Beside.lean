-- A second run beside a first one. From hosts with the same files in the
-- directory of a plan both fill, list and rewrite it alike, and the second
-- one leaves everything outside as it is.
import ProtoRefresh.Proofs.Path.Spelling
import ProtoRefresh.Proofs.Regeneration.Calls
import ProtoRefresh.Proofs.Regeneration.Fresh
import ProtoRefresh.Proofs.Relocation.Again

namespace ProtoRefresh

open FileTree ProtoRefresh.Action

/-! ## Two trees -/

namespace FileTree

/-- In a directory another tree holds what a tree holds, and elsewhere what a third one holds. -/
structure Twin (current : Location) (directory : Path) (elsewhere tree other : FileTree) : Prop where
  there : tree.isDirectory current directory = true
  thereToo : other.isDirectory current directory = true
  inside : ∀ place, directory.location current <+: place → other.get? place = tree.get? place
  outside : ∀ place, ¬ directory.location current <+: place →
    other.get? place = elsewhere.get? place

variable {current : Location} {directory p : Path} {elsewhere tree other : FileTree}

namespace Twin

theorem thinned (h : Twin current directory elsewhere tree other) :
    Thinned current directory [] tree other where
  walks_whole := (isDirectory_iff.1 h.there).1
  walks_tree := (isDirectory_iff.1 h.thereToo).1
  get?_eq := fun place hp => by rw [if_neg List.not_mem_nil, h.inside place hp]
  noDirectory := by simp

theorem insideOf (h : Twin current directory elsewhere tree other) (hp : p.IsBelow directory)
    (hno : tree.get? (p.location current) ≠ some .directory) :
    (p.location current).InsideOf (directory.location current) := by
  refine ⟨hp.leads_down, fun heq => hno ?_⟩
  rw [heq]
  exact (isDirectory_iff.1 h.there).2

/-- A file may come strictly below the directory where the tree has a place for it, and so in the
other tree. -/
theorem placeForFile (h : Twin current directory elsewhere tree other) (hp : p.IsBelow directory)
    {place : Location} (hplace : tree.placeForFile current p = .ok place) :
    other.placeForFile current p = .ok place ∧ place.InsideOf (directory.location current) ∧
      tree.get? place ≠ some .directory := by
  obtain ⟨hwalks, rfl, hfree⟩ := placeForFile_eq_ok_iff.1 hplace
  have hno : tree.get? (p.location current) ≠ some .directory := by
    rcases hfree with ⟨old, hold⟩ | ⟨hnone, _⟩
    · simp [hold]
    · simp [hnone]
  have hinside := h.insideOf hp hno
  refine ⟨?_, hinside, hno⟩
  rw [placeForFile_eq_ok_iff, h.thinned.walks_iff hp, h.inside _ hinside.1,
    h.inside _ hinside.dropLast]
  exact ⟨hwalks, rfl, hfree⟩

/-- A change strictly below the directory, where no directory is, comes to both trees alike. -/
theorem changed (h : Twin current directory elsewhere tree other) {place : Location}
    (hinside : place.InsideOf (directory.location current))
    (hno : tree.get? place ≠ some .directory) {after made : FileTree} {entry : Option Entry}
    (hafter : ∀ l, after.get? l = if l = place then entry else tree.get? l)
    (hmade : ∀ l, made.get? l = if l = place then entry else other.get? l) :
    Twin current directory elsewhere after made := by
  have hnoToo : other.get? place ≠ some .directory := by rwa [h.inside _ hinside.1]
  refine ⟨isDirectory_mono h.there fun l hl => ?_, isDirectory_mono h.thereToo fun l hl => ?_,
    fun l hl => ?_, fun l hl => ?_⟩
  · rw [hafter, if_neg, hl]
    rintro rfl
    exact hno hl
  · rw [hmade, if_neg, hl]
    rintro rfl
    exact hnoToo hl
  · rw [hafter, hmade, h.inside l hl]
  · rw [hmade, if_neg, h.outside l hl]
    rintro rfl
    exact hl hinside.1

theorem write (h : Twin current directory elsewhere tree other) (hp : p.IsBelow directory)
    {content : Content} {after : FileTree} (hwrite : tree.write current p content = .ok after) :
    ∃ made, other.write current p content = .ok made ∧
      Twin current directory elsewhere after made := by
  obtain ⟨hplace, rfl⟩ := write_eq_ok_iff.1 hwrite
  obtain ⟨hplaceToo, hinside, hno⟩ := h.placeForFile hp hplace
  have hne := ne_nil_of_not_directory hno
  exact ⟨_, write_eq_ok_iff.2 ⟨hplaceToo, rfl⟩,
    h.changed hinside hno (fun l => get?_set tree hne l _) (fun l => get?_set other hne l _)⟩

theorem rename (h : Twin current directory elsewhere tree other) {source target : Path}
    (hsource : source.IsBelow directory) (htarget : target.IsBelow directory) {after : FileTree}
    (hrename : tree.rename current source target = .ok after) :
    ∃ made, other.rename current source target = .ok made ∧
      Twin current directory elsewhere after made := by
  obtain ⟨content, hread, hplace, rfl⟩ := rename_eq_ok_iff.1 hrename
  obtain ⟨hplaceToo, hinside, hno⟩ := h.placeForFile htarget hplace
  have hreadToo := (h.thinned.read_eq_ok_iff hsource).2 ⟨kept_iff.2 List.not_mem_nil, hread⟩
  have hfile : tree.get? (source.location current) ≠ some .directory := by
    rw [(read_eq_ok_iff.1 hread).2]
    simp
  have hne := ne_nil_of_not_directory hno
  have hneSource := ne_nil_of_not_directory hfile
  -- first the file goes from the one place, then it comes to the other one
  have hgone := h.changed (h.insideOf hsource hfile) hfile (get?_erase_of_ne_nil tree hneSource)
    (get?_erase_of_ne_nil other hneSource)
  have hnoGone : (tree.erase (source.location current)).get? (target.location current) ≠
      some .directory := by
    rw [get?_erase_of_ne_nil tree hneSource]
    split
    · simp
    · exact hno
  exact ⟨_, rename_eq_ok_iff.2 ⟨content, hreadToo, hplaceToo, rfl⟩,
    hgone.changed hinside hnoGone (fun l => get?_set _ hne l _) (fun l => get?_set _ hne l _)⟩

/-- Outputs that come into the directory come to both trees alike. -/
theorem withOutputs (h : Twin current directory elsewhere tree other)
    (hrenewable : Regeneration.Renewable current directory)
    (habove : ∀ place, place <+: directory.location current →
      elsewhere.get? place = some .directory) {outputs : List (Location × Entry)}
    (houtputs : ∀ output ∈ outputs, output.1.InsideOf (directory.location current)) :
    Twin current directory elsewhere (tree.withOutputs outputs) (other.withOutputs outputs) where
  there := hrenewable.isDirectory_withOutputs houtputs h.there
  thereToo := hrenewable.isDirectory_withOutputs houtputs h.thereToo
  inside := by
    intro place hp
    by_cases hnil : place = []
    · rw [hnil, get?_nil, get?_nil]
    · rw [get?_withOutputs _ _ hnil, get?_withOutputs _ _ hnil, h.inside place hp]
  outside := by
    intro place hp
    rw [get?_withOutputs_of_outside houtputs ?_ hp, h.outside place hp]
    intro above ha
    by_cases hbase : directory.location current <+: above
    · rw [ha.eq_of_length_le hbase.length_le]
      exact (isDirectory_iff.1 h.thereToo).2
    · rw [h.outside above hbase, habove above ha]

end Twin

end FileTree

/-! ## Two hosts -/

/-- Of two hosts the second one has the same files in a directory, and other files elsewhere. -/
structure Beside (directory : Path) (elsewhere : FileTree) (first second : Host) : Prop where
  proper : first.Proper
  current : second.current = first.current
  responses : second.responses = first.responses
  files : Twin first.current directory elsewhere first.tree second.tree

/-- What the action gives on a host it gives again on one beside it. -/
def Repeats {α : Type} (directory : Path) (elsewhere : FileTree) (action : Action α) : Prop :=
  ∀ ⦃first second value after⦄, Beside directory elsewhere first second →
    Gives action first value after →
      ∃ left, Gives action second value left ∧ Beside directory elsewhere after left

variable {α β : Type} {directory : Path} {elsewhere : FileTree}

theorem Repeats.pure (a : α) : Repeats directory elsewhere (Pure.pure a : Action α) := by
  intro first second value after h hrun
  obtain ⟨rfl, rfl⟩ := gives_pure.1 hrun
  exact ⟨second, gives_pure.2 ⟨rfl, rfl⟩, h⟩

theorem Repeats.ofExcept (result : Except Failure α) :
    Repeats directory elsewhere (Action.ofExcept result) := by
  intro first second value after h hrun
  obtain ⟨hresult, rfl⟩ := gives_ofExcept.1 hrun
  exact ⟨second, gives_ofExcept.2 ⟨hresult, rfl⟩, h⟩

theorem Repeats.bind {action : Action α} {rest : α → Action β}
    (haction : Repeats directory elsewhere action)
    (hrest : ∀ a, Repeats directory elsewhere (rest a)) :
    Repeats directory elsewhere (action >>= rest) := by
  intro first second value after h hrun
  obtain ⟨a, middle, hfirst, hlast⟩ := gives_bind.1 hrun
  obtain ⟨between, hagain, hbetween⟩ := haction h hfirst
  obtain ⟨left, hlastAgain, hleft⟩ := hrest a hbetween hlast
  exact ⟨left, gives_bind.2 ⟨a, between, hagain, hlastAgain⟩, hleft⟩

theorem repeats_log (level : Level) (message : String) :
    Repeats directory elsewhere (log level message) := by
  intro first second value after h hrun
  have hproper := keeps_log level message hrun h.proper
  rw [gives_log] at hrun
  subst hrun
  exact ⟨_, gives_log.2 rfl, hproper, h.current, h.responses, h.files⟩

/-! ## Searching again -/

namespace Glob

/-- A search in the directory finds the same files again, and finds them there. -/
theorem repeats_searchBelow_bind {pattern : String} (hnoBack : ".." ∉ (Path.ofText pattern).parts)
    {rest : List Path → Action β}
    (hrest : ∀ files, (∀ p ∈ files, p.IsBelow directory) →
      Repeats directory elsewhere (rest files)) :
    Repeats directory elsewhere (searchBelow directory pattern >>= rest) := by
  intro first second value after h hrun
  obtain ⟨files, searched, hsearch, hlast⟩ := gives_bind.1 hrun
  obtain ⟨query, hquery, hfiles, rfl⟩ := gives_searchBelow.1 hsearch
  have hstages : Stage.exactly ".." ∉ Stage.deep :: query.stages :=
    List.not_mem_cons_of_ne_of_not_mem (by simp) (Query.noBack_of_ofText hquery hnoBack)
  have hbelow : ∀ p ∈ files, p.IsBelow directory := by
    rw [← hfiles]
    exact fun p hp => Query.isBelow_of_mem_files h.proper.tree hstages hp
  have hkept : ∀ p, kept searched.current [] p = true := fun p => kept_iff.2 List.not_mem_nil
  have hagain : Gives (searchBelow directory pattern) second files second := by
    refine gives_searchBelow.2 ⟨query, hquery, ?_, rfl⟩
    rw [h.current, Query.files_thinned h.files.thinned h.proper.tree hstages (hkept directory),
      hfiles]
    exact List.filter_eq_self.2 fun p _ => hkept p
  obtain ⟨left, hrestAgain, hleft⟩ := hrest files hbelow h hlast
  exact ⟨left, gives_bind.2 ⟨files, second, hagain, hrestAgain⟩, hleft⟩

end Glob

/-! ## Rewriting again -/

namespace Rewrite

theorem repeats_rewriteFile {p : Path} (hp : p.IsBelow directory) (rules : List Rule) :
    Repeats directory elsewhere (rewriteFile p rules) := by
  intro first second value after h hrun
  have hproper := keeps_rewriteFile p rules hrun h.proper
  obtain ⟨hopen, content, old, new, written, replaced, hread, hold, hnew, hwritten, hreplaced,
    hchanged, rfl⟩ := gives_rewriteFile.1 hrun
  have htemporary := temporary_isBelow hp (ne_of_read hread h.files.there)
  have hreadToo := (h.files.thinned.read_eq_ok_iff hp).2 ⟨kept_iff.2 List.not_mem_nil, hread⟩
  obtain ⟨writtenToo, hwrittenToo, hfiles⟩ := h.files.write htemporary hwritten
  obtain ⟨replacedToo, hreplacedToo, hfiles⟩ := hfiles.rename htemporary hp hreplaced
  rw [← h.current] at hreadToo hwrittenToo hreplacedToo
  have hagain : Gives (rewriteFile p rules) second value { second with tree := replacedToo } :=
    gives_rewriteFile.2 ⟨hopen, content, old, new, writtenToo, replacedToo, hreadToo, hold, hnew,
      hwrittenToo, hreplacedToo, hchanged, rfl⟩
  exact ⟨_, hagain, hproper, h.current, h.responses, hfiles⟩

theorem repeats_rewriteFiles (rules : List Rule) (files : List Path) :
    (∀ p ∈ files, p.IsBelow directory) →
      Repeats directory elsewhere (rewriteFiles rules files) := by
  induction files with
  | nil => exact fun _ => .pure _
  | cons p rest ih =>
    intro hbelow
    exact (repeats_rewriteFile (hbelow p List.mem_cons_self) rules).bind fun _ =>
      (ih fun q hq => hbelow q (List.mem_cons_of_mem p hq)).bind fun _ => .pure _

theorem repeats_rewriteTree {pattern : String} (hnoBack : ".." ∉ (Path.ofText pattern).parts)
    (rules : List Rule) : Repeats directory elsewhere (rewriteTree directory rules pattern) :=
  Glob.repeats_searchBelow_bind hnoBack fun files hbelow =>
    (repeats_rewriteFiles rules files hbelow).bind fun _ =>
      (repeats_log _ _).bind fun _ => .pure _

end Rewrite

/-! ## Compiling again -/

/-- Whether a pattern can be listed at all does not depend on the files. -/
theorem Glob.listFiles_anywhere {root : Path} {pattern : String} {host after : Host}
    {found : List String} (h : Gives (listFiles root pattern) host found after) (other : Host) :
    ∃ texts, Gives (listFiles root pattern) other texts other := by
  unfold listFiles at h ⊢
  obtain ⟨hopen, _⟩ := gives_guard.1 h
  exact ⟨_, gives_guard.2 ⟨hopen, gives_get_bind.2 (gives_pure.2 ⟨rfl, rfl⟩)⟩⟩

theorem Plan.resolveInput_anywhere {root : Path} {pattern : String} {host after : Host}
    {found : List String} (h : Gives (resolveInput root pattern) host found after) (other : Host) :
    ∃ texts log, texts ≠ [] ∧
      Gives (resolveInput root pattern) other texts { other with log := log } := by
  unfold resolveInput at h ⊢
  by_cases hpattern : (!Glob.isPattern pattern) = true
  · rw [if_pos hpattern]
    exact ⟨[pattern], other.log, List.cons_ne_nil _ _, gives_pure.2 ⟨rfl, rfl⟩⟩
  · rw [if_neg hpattern] at h ⊢
    obtain ⟨_, _, hlist, _⟩ := gives_bind.1 h
    obtain ⟨texts, hagain⟩ := Glob.listFiles_anywhere hlist other
    by_cases hnone : texts.isEmpty = true
    · refine ⟨[pattern],
        other.log ++ [⟨.warning, "input pattern " ++ pattern ++ " matched nothing"⟩],
        List.cons_ne_nil _ _, gives_bind.2 ⟨texts, other, hagain, ?_⟩⟩
      rw [if_pos hnone]
      exact gives_bind.2 ⟨(), _, gives_log.2 rfl, gives_pure.2 ⟨rfl, rfl⟩⟩
    · refine ⟨texts.map fun text => (Path.ofText text).text, other.log, ?_,
        gives_bind.2 ⟨texts, other, hagain, ?_⟩⟩
      · simpa using hnone
      · rw [if_neg hnone]
        exact gives_pure.2 ⟨rfl, rfl⟩

/-- Inputs that can be resolved on one host can be resolved on each one, and there are some. -/
theorem Plan.resolveInputs_anywhere {plan : Plan} {host after : Host} {found : List String}
    (h : Gives plan.resolveInputs host found after) (other : Host) :
    ∃ texts log, texts ≠ [] ∧ Gives plan.resolveInputs other texts { other with log := log } := by
  have hinputs : ∀ (inputs : List String) {host after : Host} {found : List (List String)},
      Gives (inputs.mapM (resolveInput plan.root)) host found after → ∀ other : Host,
        ∃ texts log, (inputs ≠ [] → texts.flatten ≠ []) ∧
          Gives (inputs.mapM (resolveInput plan.root)) other texts { other with log := log } := by
    intro inputs
    induction inputs with
    | nil => exact fun _ _ => ⟨[], _, fun h => absurd rfl h, gives_mapM_nil.2 ⟨rfl, rfl⟩⟩
    | cons input rest ih =>
      intro host after found h other
      obtain ⟨_, middle, _, hfirst, hrest, _⟩ := gives_mapM_cons.1 h
      obtain ⟨texts, log, hsome, hfirstAgain⟩ := resolveInput_anywhere hfirst other
      obtain ⟨more, lastLog, _, hrestAgain⟩ := ih hrest { other with log := log }
      exact ⟨texts :: more, lastLog, fun _ => by simp [hsome],
        gives_mapM_cons.2 ⟨texts, _, more, hfirstAgain, hrestAgain, rfl⟩⟩
  obtain ⟨_, _, hall, _⟩ := gives_bind.1 h
  obtain ⟨texts, log, hsome, hagain⟩ := hinputs plan.inputs hall other
  exact ⟨texts.flatten, log, hsome plan.inputs_ne_nil,
    gives_bind.2 ⟨texts, _, hagain, gives_pure.2 ⟨rfl, rfl⟩⟩⟩

namespace Compiler.Setup

variable {setup : Setup} {host after : Host}

theorem outcome_of_gives_run {value : Unit} (h : Gives setup.run host value after) :
    (host.answer 0).outcome = .ended 0 := by
  unfold Setup.run at h
  obtain ⟨argv, _, hcommand, hrest⟩ := gives_bind.1 h
  obtain ⟨_, rfl⟩ := gives_ofExcept.1 hcommand
  obtain ⟨_, made, hensure, hlast⟩ := gives_bind.1 hrest
  obtain ⟨_, _, hrun, _⟩ := gives_bind.1 hlast
  obtain ⟨tree, _, rfl⟩ := gives_makeDirectories hensure
  obtain ⟨hresult, _⟩ := ends_runCommand.1 (ends_ok_iff.2 hrun)
  exact (Call.result_eq_ok_iff.1 hresult.symm).1

/-- Where its output directory is there the compiler is just run. -/
theorem gives_run (host : Host) {argv : List String} (hcommand : setup.command = .ok argv)
    (hopen : isEnded (setup.locate (setup.outDir.getD Path.here)) = false)
    (hdir : host.tree.isDirectory host.current (setup.locate (setup.outDir.getD Path.here)) = true)
    (hended : (host.answer 0).outcome = .ended 0) :
    ∃ log, Gives setup.run host () { host.afterCall ⟨argv, setup.directory.map Path.text, false⟩ with
      log := log } := by
  have hresult : (⟨argv, setup.directory.map Path.text, false⟩ : Call).result (host.answer 0) =
      .ok "" := Call.result_eq_ok_iff.2 ⟨hended, rfl⟩
  have hrun : Gives (runCommand argv (setup.directory.map Path.text) false) host ""
      (host.afterCall ⟨argv, setup.directory.map Path.text, false⟩) :=
    ends_ok_iff.1 (ends_runCommand.2 ⟨hresult.symm, rfl⟩)
  exact ⟨_, gives_bind.2 ⟨argv, host, gives_ofExcept.2 ⟨hcommand, rfl⟩,
    gives_bind.2 ⟨(), host, gives_ensureDirectory_of_isDirectory hopen hdir,
      gives_bind.2 ⟨"", _, hrun, gives_log.2 rfl⟩⟩⟩⟩

end Compiler.Setup

namespace Regeneration

variable {plan : Plan} {toolchain : Toolchain} {host after first second : Host}

/-- A compiler that has run well on one host runs well on each one where the directory is there and
the answer is the same. -/
theorem compile_anywhere {value : Unit} (h : Gives (compile plan toolchain) host value after)
    {other : Host} (hresponses : other.responses = host.responses)
    (hopen : isEnded (generationDir plan) = false)
    (hdir : other.tree.isDirectory other.current (generationDir plan) = true) :
    ∃ argv log, Gives (compile plan toolchain) other () { other.afterCall (planned plan argv false) with
      log := log } := by
  unfold compile at h ⊢
  obtain ⟨haccepted, h⟩ := gives_guard.1 h
  obtain ⟨found, middle, hinputs, hrun⟩ := gives_bind.1 h
  obtain ⟨_, _, _, hsame⟩ := plan.resolveInputs_anywhere hinputs host
  obtain ⟨texts, log, hsome, hinputsAgain⟩ := plan.resolveInputs_anywhere hinputs other
  have hended : (other.answer 0).outcome = .ended 0 := by
    have houtcome := Compiler.Setup.outcome_of_gives_run hrun
    rw [(hinputs.unique hsame).2] at houtcome
    unfold Host.answer at houtcome ⊢
    rw [hresponses]
    exact houtcome
  have hinputsSome : (Compiler.Setup.ofSettings (settings plan toolchain ++
      [.inputs (texts.map Path.ofText)])).inputs ≠ [] := by
    change [] ++ texts.map Path.ofText ≠ []
    simpa using hsome
  have hcommand := Compiler.Setup.command_eq_ok_iff.2 ⟨_, rfl, hinputsSome, rfl⟩
  obtain ⟨lastLog, hrunAgain⟩ :=
    Compiler.Setup.gives_run { other with log := log } hcommand hopen hdir hended
  exact ⟨_, lastLog, gives_guard.2 ⟨haccepted, gives_bind.2 ⟨texts, _, hinputsAgain, hrunAgain⟩⟩⟩

/-- The compiler answers with files in the directory only. -/
def StaysInside (plan : Plan) (current : Location) (response : Response) : Prop :=
  ∀ output ∈ placedOutputs current (Path.ofText plan.root.text) response.writes,
    output.1.InsideOf ((generationDir plan).location current)

instance (plan : Plan) (current : Location) (response : Response) :
    Decidable (StaysInside plan current response) :=
  inferInstanceAs (Decidable (∀ output ∈ placedOutputs current (Path.ofText plan.root.text)
    response.writes, output.1.InsideOf ((generationDir plan).location current)))

/-- The compiler fills the directory again. -/
theorem compile_again (h : Beside (generationDir plan) elsewhere first second)
    (hroot : plan.root.Proper) (hrenewable : Renewable first.current (generationDir plan))
    (habove : ∀ place, place <+: (generationDir plan).location first.current →
      elsewhere.get? place = some .directory)
    (hstays : StaysInside plan first.current (first.answer 0)) {value : Unit}
    (hrun : Gives (compile plan toolchain) first value after) :
    ∃ left, Gives (compile plan toolchain) second () left ∧
      Beside (generationDir plan) elsewhere after left := by
  have hproper := keeps_compile hroot toolchain hrun h.proper
  have hthereToo : second.tree.isDirectory second.current (generationDir plan) = true := by
    rw [h.current]
    exact h.files.thereToo
  obtain ⟨argv, log, hfirst⟩ := compile_anywhere hrun rfl hrenewable.isOpen h.files.there
  obtain ⟨argvToo, logToo, hsecond⟩ :=
    compile_anywhere hrun h.responses hrenewable.isOpen hthereToo
  obtain ⟨_, rfl⟩ := hrun.unique hfirst
  have hanswer : second.answer 0 = first.answer 0 := by
    unfold Host.answer
    rw [h.responses]
  refine ⟨_, hsecond, hproper, h.current, congrArg List.tail h.responses, ?_⟩
  unfold Host.afterCall
  dsimp only
  rw [hanswer, h.current]
  exact h.files.withOutputs hrenewable habove hstays

theorem noBack_generatedPattern (hsuffix : '/' ∉ plan.generatedSuffix.toList) :
    ".." ∉ (Path.ofText (generatedPattern plan)).parts := by
  have hslash : '/' ∉ (generatedPattern plan).toList := by
    unfold generatedPattern
    rw [String.toList_append, List.mem_append, not_or]
    exact ⟨by decide, hsuffix⟩
  intro hmem
  unfold Path.ofText Path.ofChars at hmem
  rw [Path.splitSlash_of_notMem hslash] at hmem
  obtain ⟨piece, hpiece, hback⟩ := List.mem_map.1 hmem
  rw [List.mem_singleton.1 (List.mem_filter.1 hpiece).1, String.ofList_toList] at hback
  have hstar := congrArg (fun text => text.toList.head?) hback
  unfold generatedPattern at hstar
  simp at hstar

theorem repeats_listGenerated (hsuffix : '/' ∉ plan.generatedSuffix.toList) :
    Repeats (generationDir plan) elsewhere (listGenerated plan) :=
  Glob.repeats_searchBelow_bind (noBack_generatedPattern hsuffix) fun _ _ =>
    (repeats_log _ _).bind fun _ => .pure _

/-- Once the directory is made afresh it is filled, listed and rewritten again. -/
theorem fill_again (h : Beside (generationDir plan) elsewhere first second)
    (hroot : plan.root.Proper) (hsuffix : '/' ∉ plan.generatedSuffix.toList)
    (hrenewable : Renewable first.current (generationDir plan))
    (habove : ∀ place, place <+: (generationDir plan).location first.current →
      elsewhere.get? place = some .directory)
    (hstays : StaysInside plan first.current (first.answer 0)) {version : String}
    {value : String × List String × List Path}
    (hrun : Gives (fill plan version toolchain) first value after) :
    ∃ left, Gives (fill plan version toolchain) second value left ∧
      Beside (generationDir plan) elsewhere after left := by
  obtain ⟨_, filled, hcompile, hrest⟩ := gives_bind.1 hrun
  obtain ⟨between, hcompileAgain, hbetween⟩ :=
    compile_again h hroot hrenewable habove hstays hcompile
  have hlist : Repeats (generationDir plan) elsewhere (listGenerated plan) :=
    repeats_listGenerated hsuffix
  have hrepeats := hlist.bind fun generated =>
    (Repeats.ofExcept (plan.rules.mapError Failure.pattern)).bind fun rules =>
      (Rewrite.repeats_rewriteTree (noBack_generatedPattern hsuffix) rules).bind fun rewritten =>
        Repeats.pure (version, generated, rewritten)
  obtain ⟨left, hrestAgain, hleft⟩ := hrepeats hbetween hrest
  exact ⟨left, gives_bind.2 ⟨(), between, hcompileAgain, hrestAgain⟩, hleft⟩

end Regeneration

end ProtoRefresh
