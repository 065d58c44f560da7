-- The rewriting of all files that a search finds, one after the other. It
-- comes to its end where each of them holds a text whose new form can be
-- written, and stops at the first one of another kind: then the files
-- before that one are rewritten, and the others are as they were. A new
-- text with a half of a pair leaves an empty temporary file.
import ProtoRefresh.Proofs.Host.Failing
import ProtoRefresh.Proofs.Rewrite.Tree

namespace ProtoRefresh.Rewrite

open FileTree ProtoRefresh.Action Text

variable {host after middle : Host} {tree : FileTree} {current : Location} {directory p : Path}
  {pattern : String} {rules : List Rule} {files : List Path}

/-! ## Files that can be rewritten -/

/-- A path with a name leads to a file, and no directory is where its temporary file comes. -/
structure Ready (current : Location) (tree : FileTree) (p : Path) : Prop where
  named : p.parts ≠ []
  isOpen : isEnded p = false
  isFile : tree.isFile current p = true
  noDirectory : tree.isDirectory current (temporary p) = false

/-- The temporary file can be written. -/
theorem Ready.placeForFile (h : Ready current tree p) :
    tree.placeForFile current (temporary p) = .ok ((temporary p).location current) := by
  obtain ⟨content, hread⟩ := isFile_iff.1 h.isFile
  obtain ⟨hwalks, _⟩ := read_eq_ok_iff.1 hread
  have hno := h.noDirectory
  rw [Bool.eq_false_iff, ne_eq, isDirectory_iff] at hno
  have hnamed := h.named
  obtain ⟨slashes, parts⟩ := p
  obtain ⟨before, part, rfl⟩ := (List.eq_nil_or_concat' parts).resolve_left hnamed
  -- the walk to the temporary file goes through the directory of the file
  obtain ⟨hwalks, hdir⟩ := walks_snoc.1 hwalks
  have hparent : (⟨slashes, before ++ [part]⟩ : Path).parent = ⟨slashes, before⟩ := by
    rw [Path.parent, List.dropLast_concat]
  have hway : tree.Walks current (temporary ⟨slashes, before ++ [part]⟩) := by
    rw [temporary, hparent]
    exact walks_snoc.2 ⟨hwalks, hdir⟩
  refine placeForFile_eq_ok_iff.2 ⟨hway, rfl, ?_⟩
  rw [location_temporary, hparent] at hno ⊢
  rw [List.dropLast_concat]
  cases hget : tree.get? ((⟨slashes, before⟩ : Path).location current ++
      [(⟨slashes, before ++ [part]⟩ : Path).name ++ temporarySuffix]) with
  | none => exact Or.inr ⟨rfl, hdir⟩
  | some entry =>
    cases entry with
    | file content => exact Or.inl ⟨content, rfl⟩
    | directory => exact absurd ⟨hway, hget⟩ hno

/-- A file holds a text, and what the rules make of it can be written. -/
def Rewritable (rules : List Rule) (host : Host) (p : Path) : Prop :=
  ∃ old new, host.HoldsText p old ∧ rewriteText rules (points old) = points new

/-- A file holds a text, and what the rules make of it has a half of a pair. -/
def Spoilt (rules : List Rule) (host : Host) (p : Path) (fault : HalfFault) : Prop :=
  ∃ old, host.HoldsText p old ∧ stringOf (rewriteText rules (points old)) = .error fault

/-- A file that is ready is rewritten if what the rules make of it can be written. -/
theorem Ready.gives (h : Ready host.current host.tree p) (hrewritable : Rewritable rules host p) :
    ∃ changed after, Gives (rewriteFile p rules) host changed after := by
  obtain ⟨old, new, ⟨content, hread, hold⟩, hnew⟩ := hrewritable
  obtain ⟨hwalks, hfile⟩ := read_eq_ok_iff.1 hread
  have hplace := h.placeForFile
  obtain ⟨hway, _⟩ := placeForFile_eq_ok_iff.1 hplace
  obtain ⟨written, hwritten⟩ : ∃ written, host.tree.write host.current (temporary p)
      (encode new) = .ok written := ⟨_, write_eq_ok_iff.2 ⟨hplace, rfl⟩⟩
  have hget := get?_of_write hwritten
  have hkept : ∀ place, host.tree.get? place = some .directory →
      written.get? place = some .directory := by
    intro place hdir
    rw [hget, if_neg, hdir]
    rintro rfl
    exact not_directory_of_placeForFile hplace hdir
  have hmoved := read_eq_ok_iff.2 ⟨hway.mono hkept, by rw [hget, if_pos rfl]⟩
  have htarget := placeForFile_eq_ok_iff.2 ⟨hwalks.mono hkept, rfl,
    Or.inl ⟨content, by rw [hget, if_neg (location_ne_temporary p), hfile]⟩⟩
  have hreplaced := rename_eq_ok_iff.2 ⟨_, hmoved, htarget, rfl⟩
  exact ⟨_, _, gives_rewriteFile.2
    ⟨h.isOpen, content, old, new, _, _, hread, hold, hnew, hwritten, hreplaced, rfl, rfl⟩⟩

/-- A file that holds no text ends the rewriting before anything is written. -/
theorem Ready.ends (h : Ready host.current host.tree p) {content : Content}
    {fault : Text.Utf8Fault} (hread : host.tree.read host.current p = .ok content)
    (hfault : Text.decodeUtf8 content = .error fault) :
    Ends (rewriteFile p rules) host (.error (.document (.undecodable fault))) host :=
  ends_bind.2 (Or.inl ⟨_, ends_readText_of_error h.isOpen hread hfault, rfl⟩)

/-- In one place there is an empty file; all else is as it was. -/
def LeavesEmpty (place : Location) (before tree : FileTree) : Prop :=
  ∀ other, tree.get? other = if other = place then some (.file []) else before.get? other

/-- A new text with a half of a pair ends the rewriting behind the opening of the temporary file. -/
theorem Ready.ends_of_spoilt (h : Ready host.current host.tree p) {fault : HalfFault}
    (hspoilt : Spoilt rules host p fault) :
    ∃ after, Ends (rewriteFile p rules) host (.error (.unencodable fault)) after ∧
      after = { host with tree := after.tree } ∧
      LeavesEmpty ((temporary p).location host.current) host.tree after.tree := by
  obtain ⟨old, htext, hfault⟩ := hspoilt
  obtain ⟨written, hwritten⟩ : ∃ written, host.tree.write host.current (temporary p) [] =
      .ok written := ⟨_, write_eq_ok_iff.2 ⟨h.placeForFile, rfl⟩⟩
  have hends := ends_writeText_of_error hfault hwritten
  exact ⟨_, (ends_bind_of_gives (gives_readText.2 ⟨h.isOpen, htext, rfl⟩)).2
    (ends_bind.2 (Or.inl ⟨_, hends, rfl⟩)), rfl, get?_of_write hwritten⟩

/-- The rewriting of other files leaves a file ready. -/
theorem Ready.stays {before : List Path} {left : FileTree} (h : Ready current tree p)
    (hrewritten : Rewritten rules current before tree left)
    (hapart : ∀ q ∈ before, p.location current ≠ q.location current ∧
      p.location current ≠ (temporary q).location current) : Ready current left p := by
  refine ⟨h.named, h.isOpen, ?_, ?_⟩
  · obtain ⟨content, hread⟩ := isFile_iff.1 h.isFile
    exact isFile_iff.2 ⟨content, (hrewritten.read_eq hapart).2 hread⟩
  · have hno := h.noDirectory
    rw [Bool.eq_false_iff, ne_eq, isDirectory_iff] at hno ⊢
    rwa [hrewritten.walks, hrewritten.directory]

/-! ## Files in order -/

/-- What other files are rewritten to has no part in a file. -/
theorem Rewritten.holdsText {before : List Path}
    (h : Rewritten rules host.current before host.tree middle.tree)
    (hcurrent : middle.current = host.current)
    (hapart : ∀ q ∈ before, p.location host.current ≠ q.location host.current ∧
      p.location host.current ≠ (temporary q).location host.current) {text : String}
    (htext : host.HoldsText p text) : middle.HoldsText p text := by
  obtain ⟨content, hread, hdecode⟩ := htext
  exact ⟨content, by rw [hcurrent]; exact (h.read_eq hapart).2 hread, hdecode⟩

/-- Files that are ready are all rewritten if what the rules make of each can be written. -/
theorem gives_rewriteFiles {files : List Path} (hapart : FilesApart host.current files)
    (hready : ∀ p ∈ files, Ready host.current host.tree p)
    (hrewritable : ∀ p ∈ files, Rewritable rules host p) :
    ∃ changed after, Gives (rewriteFiles rules files) host changed after := by
  induction files generalizing host with
  | nil => exact ⟨[], host, gives_pure.2 ⟨rfl, rfl⟩⟩
  | cons p rest ih =>
    obtain ⟨changes, middle, hfirst⟩ :=
      (hready p List.mem_cons_self).gives (hrewritable p List.mem_cons_self)
    obtain ⟨hone, _⟩ := rewritten_rewriteFile hfirst
    have hcurrent := (quiet_rewriteFile p rules).current hfirst
    have hapartRest : FilesApart middle.current rest := by
      rw [hcurrent]
      exact hapart.sublist (List.sublist_cons_self p rest)
    have hreadyRest : ∀ q ∈ rest, Ready middle.current middle.tree q := by
      intro q hq
      rw [hcurrent]
      exact (hready q (List.mem_cons_of_mem p hq)).stays hone (FilesApart.apart [p] hapart hq)
    have hrewritableRest : ∀ q ∈ rest, Rewritable rules middle q := by
      intro q hq
      obtain ⟨old, new, hold, hnew⟩ := hrewritable q (List.mem_cons_of_mem p hq)
      exact ⟨old, new, hone.holdsText hcurrent (FilesApart.apart [p] hapart hq) hold, hnew⟩
    obtain ⟨more, left, hrest⟩ := ih hapartRest hreadyRest hrewritableRest
    exact ⟨_, left, gives_rewriteFiles_cons.2 ⟨changes, middle, more, hfirst, hrest, rfl⟩⟩

/-- After some files the rewriting goes on with the others, and fails as they do. -/
theorem ends_rewriteFiles_append {before changed : List Path} {failure : Failure}
    (hbefore : Gives (rewriteFiles rules before) host changed middle)
    (h : Ends (rewriteFiles rules files) middle (.error failure) after) :
    Ends (rewriteFiles rules (before ++ files)) host (.error failure) after := by
  induction before generalizing host changed with
  | nil =>
    obtain ⟨_, rfl⟩ := gives_pure.1 hbefore
    exact h
  | cons p rest ih =>
    obtain ⟨_, between, _, hfirst, hmore, _⟩ := gives_rewriteFiles_cons.1 hbefore
    apply (ends_bind_of_gives hfirst).2
    exact ends_bind.2 (Or.inl ⟨failure, ih hmore, rfl⟩)

/-- The rewriting comes to a file that is ready when the files before it are rewritten, and fails as
the rewriting of that file does. -/
theorem ends_rewriteFiles_at {before rest : List Path}
    (hapart : FilesApart host.current (before ++ p :: rest))
    (hready : ∀ q ∈ before ++ p :: rest, Ready host.current host.tree q)
    (hrewritable : ∀ q ∈ before, Rewritable rules host q) :
    ∃ middle, Rewritten rules host.current before host.tree middle.tree ∧
      middle.current = host.current ∧ Ready middle.current middle.tree p ∧
      ∀ failure after, Ends (rewriteFile p rules) middle (.error failure) after →
        Ends (rewriteFiles rules (before ++ p :: rest)) host (.error failure) after := by
  have hbefore := hapart.sublist (List.sublist_append_left before (p :: rest))
  obtain ⟨changed, middle, hrewrite⟩ := gives_rewriteFiles hbefore
    (fun q hq => hready q (List.mem_append_left _ hq)) hrewritable
  obtain ⟨hrewritten, _, _⟩ := rewritten_rewriteFiles hbefore hrewrite
  have hcurrent := (quiet_rewriteFiles rules before).current hrewrite
  refine ⟨middle, hrewritten, hcurrent, ?_, fun failure after hends => ?_⟩
  · rw [hcurrent]
    exact (hready p (List.mem_append_right before List.mem_cons_self)).stays hrewritten
      (FilesApart.apart before hapart List.mem_cons_self)
  · exact ends_rewriteFiles_append hrewrite (ends_bind.2 (Or.inl ⟨_, hends, rfl⟩))

/-! ## The files that a search finds -/

/-- The files anywhere below a directory that a query leads to, in order. -/
def matched (host : Host) (directory : Path) (query : Glob.Query) : List Path :=
  ({ query with stages := .deep :: query.stages } : Glob.Query).files host.tree host.current
    directory

variable {query : Glob.Query}

theorem ready_of_mem_matched (hwf : host.tree.WellFormed) (hnames : host.tree.NamesOpen)
    (hback : Glob.Stage.exactly ".." ∉ query.stages) (hp : p ∈ matched host directory query)
    (hno : host.tree.isDirectory host.current (temporary p) = false) :
    Ready host.current host.tree p := by
  have hfile := Glob.Query.isFile_of_mem_files hp
  obtain ⟨content, hread⟩ := isFile_iff.1 hfile
  have hne := ne_of_read hread (Glob.Query.isDirectory_of_mem_files hp)
  obtain ⟨names, _, rfl⟩ := Glob.Query.isBelow_of_mem_files hwf (by simpa using hback) hp
  refine ⟨?_, hnames.isEnded_of_read hread, hfile, hno⟩
  intro hnil
  obtain ⟨_, hempty⟩ := List.append_eq_nil_iff.1 hnil
  exact hne (by rw [hempty, Path.below_nil])

/-- Of files in order, those before one of them are those that are less. -/
theorem filter_key_lt {before rest : List Path}
    (h : (before ++ p :: rest).Pairwise fun q r => q.key < r.key) :
    (before ++ p :: rest).filter (fun q => q.key < p.key) = before := by
  obtain ⟨_, hrest, hbefore⟩ := List.pairwise_append.1 h
  obtain ⟨hlater, _⟩ := List.pairwise_cons.1 hrest
  rw [List.filter_append, List.filter_eq_self.2, List.filter_eq_nil_iff.2, List.append_nil]
  · intro q hq
    rw [decide_eq_true_eq]
    rcases List.mem_cons.1 hq with rfl | hq
    · exact List.lt_irrefl _
    · exact List.lt_asymm (hlater q hq)
  · intro q hq
    exact decide_eq_true (hbefore q hq p List.mem_cons_self)

theorem gives_rewriteTree {changed : List Path}
    (hsearch : Gives (Glob.searchBelow directory pattern) host files host)
    (h : Gives (rewriteFiles rules files) host changed after) :
    Gives (rewriteTree directory rules pattern) host changed
      { after with log := after.log ++ [⟨.info, "rewrote " ++ toString changed.length ++ " of " ++
        toString files.length ++ " generated file(s)"⟩] } :=
  gives_bind.2 ⟨files, host, hsearch, gives_bind.2 ⟨changed, after, h,
    gives_bind.2 ⟨(), _, gives_log.2 rfl, gives_pure.2 ⟨rfl, rfl⟩⟩⟩⟩

/-- The rewriting below a directory is that of the files that are found there. -/
theorem gives_rewriteFiles_matched {changed : List Path}
    (hquery : Glob.Query.ofText pattern = .ok query)
    (h : Gives (rewriteTree directory rules pattern) host changed after) :
    ∃ left, Gives (rewriteFiles rules (matched host directory query)) host changed left ∧
      after = { left with log := after.log } := by
  obtain ⟨files, _, hsearch, h⟩ := gives_bind.1 h
  obtain ⟨other, hother, rfl, rfl⟩ := Glob.gives_searchBelow.1 hsearch
  obtain rfl := Except.ok.inj (hquery.symm.trans hother)
  obtain ⟨_, left, hrewrite, h⟩ := gives_bind.1 h
  obtain ⟨_, _, hlog, hlast⟩ := gives_bind.1 h
  obtain ⟨rfl, rfl⟩ := gives_pure.1 hlast
  exact ⟨left, hrewrite, by rw [gives_log.1 hlog]⟩

theorem ends_rewriteFiles_matched {failure : Failure}
    (hquery : Glob.Query.ofText pattern = .ok query)
    (h : Ends (rewriteTree directory rules pattern) host (.error failure) after) :
    Ends (rewriteFiles rules (matched host directory query)) host (.error failure) after := by
  have hsearch : Gives (Glob.searchBelow directory pattern) host (matched host directory query)
      host := Glob.gives_searchBelow.2 ⟨query, hquery, rfl, rfl⟩
  rcases ends_bind.1 ((ends_bind_of_gives hsearch).1 h) with ⟨_, hrewrite, heq⟩ | ⟨_, _, _, h⟩
  · cases heq
    exact hrewrite
  · have hlast := (ends_bind_of_changes (gives_log.2 rfl)).1 h
    cases (ends_pure.1 hlast).1

theorem ends_rewriteTree {failure : Failure}
    (hsearch : Gives (Glob.searchBelow directory pattern) host files host)
    (h : Ends (rewriteFiles rules files) host (.error failure) after) :
    Ends (rewriteTree directory rules pattern) host (.error failure) after :=
  (ends_bind_of_gives hsearch).2 (ends_bind.2 (Or.inl ⟨failure, h, rfl⟩))

/-- The rewriting comes to a file that is found when the files before it are rewritten, which leaves
those after them as they were, and fails as the rewriting of that file does. -/
theorem ends_rewriteTree_at (hquery : Glob.Query.ofText pattern = .ok query)
    (hapart : FilesApart host.current (matched host directory query))
    (hready : ∀ p ∈ matched host directory query, Ready host.current host.tree p)
    (hp : p ∈ matched host directory query)
    (hrewritable : ∀ q ∈ matched host directory query, q.key < p.key → Rewritable rules host q) :
    ∃ middle, Rewritten rules host.current
        ((matched host directory query).filter fun q => q.key < p.key) host.tree middle.tree ∧
      middle.current = host.current ∧ Ready middle.current middle.tree p ∧
      (∀ q ∈ matched host directory query, ¬ q.key < p.key →
        ∀ r ∈ (matched host directory query).filter fun r => r.key < p.key,
          q.location host.current ≠ r.location host.current ∧
            q.location host.current ≠ (temporary r).location host.current) ∧
      ∀ failure after, Ends (rewriteFile p rules) middle (.error failure) after →
        Ends (rewriteTree directory rules pattern) host (.error failure) after := by
  have hsearch : Gives (Glob.searchBelow directory pattern) host (matched host directory query)
      host := Glob.gives_searchBelow.2 ⟨query, hquery, rfl, rfl⟩
  have hsorted : (matched host directory query).Pairwise fun p q => p.key < q.key :=
    Glob.Query.files_sorted _ _
  obtain ⟨before, rest, hsplit⟩ := List.append_of_mem hp
  rw [hsplit] at hsearch hsorted hapart hready hrewritable
  rw [hsplit, filter_key_lt hsorted]
  have hless : ∀ q ∈ before, q.key < p.key := fun q hq =>
    (List.pairwise_append.1 hsorted).2.2 q hq p List.mem_cons_self
  obtain ⟨middle, hrewritten, hcurrent, hthere, hcomes⟩ := ends_rewriteFiles_at hapart hready
    fun q hq => hrewritable q (List.mem_append_left _ hq) (hless q hq)
  refine ⟨middle, hrewritten, hcurrent, hthere, fun q hq hnot => ?_, fun failure after hends =>
    ends_rewriteTree hsearch (hcomes failure after hends)⟩
  have hlater : q ∈ p :: rest := (List.mem_append.1 hq).resolve_left fun hq => hnot (hless q hq)
  exact FilesApart.apart before hapart hlater

/-- As long as no file that is found has the name of the temporary file of another one, and no
directory has such a name, the files are rewritten in order up to the first one that is no text or
whose new text cannot be written. In the latter case its temporary file is there, and empty. -/
theorem files_are_rewritten_up_to_the_first_that_cannot_be (rules : List Rule)
    (hwf : host.tree.WellFormed) (hnames : host.tree.NamesOpen)
    (hquery : Glob.Query.ofText pattern = .ok query) (hback : ".." ∉ (Path.ofText pattern).parts)
    (hfree : ∀ p ∈ matched host directory query,
      temporary p ∉ matched host directory query ∧
        host.tree.isDirectory host.current (temporary p) = false) :
    ((∀ p ∈ matched host directory query, Rewritable rules host p) →
      ∃ changed after, Gives (rewriteTree directory rules pattern) host changed after ∧
        Rewritten rules host.current (matched host directory query) host.tree after.tree ∧
        changed.Pairwise (fun p q => p.key < q.key) ∧
        ∀ p, p ∈ changed ↔ p ∈ matched host directory query ∧
          Changes rules host.current host.tree p) ∧
    ∀ p ∈ matched host directory query,
      (∀ q ∈ matched host directory query, q.key < p.key → Rewritable rules host q) →
      (∀ content fault,
        host.tree.read host.current p = .ok content → Text.decodeUtf8 content = .error fault →
        ∃ after, Ends (rewriteTree directory rules pattern) host
            (.error (.document (.undecodable fault))) after ∧
          Rewritten rules host.current
            ((matched host directory query).filter fun q => q.key < p.key) host.tree after.tree ∧
          ∀ q ∈ matched host directory query, ¬ q.key < p.key → ∀ content,
            after.tree.read host.current q = .ok content ↔
              host.tree.read host.current q = .ok content) ∧
      ∀ fault, Spoilt rules host p fault →
        ∃ after tree, Ends (rewriteTree directory rules pattern) host
            (.error (.unencodable fault)) after ∧
          Rewritten rules host.current
            ((matched host directory query).filter fun q => q.key < p.key) host.tree tree ∧
          LeavesEmpty ((temporary p).location host.current) tree after.tree ∧
          ∀ q ∈ matched host directory query, ¬ q.key < p.key →
            after.tree.get? (q.location host.current) =
              host.tree.get? (q.location host.current) := by
  have hstages := Glob.Query.noBack_of_ofText hquery hback
  have hapart : FilesApart host.current (matched host directory query) :=
    filesApart_files hwf (by simpa using hstages) fun p hp => (hfree p hp).1
  have hready : ∀ p ∈ matched host directory query, Ready host.current host.tree p :=
    fun p hp => ready_of_mem_matched hwf hnames hstages hp (hfree p hp).2
  constructor
  · intro hrewritable
    have hsearch : Gives (Glob.searchBelow directory pattern) host (matched host directory query)
        host := Glob.gives_searchBelow.2 ⟨query, hquery, rfl, rfl⟩
    have hsorted : (matched host directory query).Pairwise fun p q => p.key < q.key :=
      Glob.Query.files_sorted _ _
    obtain ⟨changed, after, hrewrite⟩ := gives_rewriteFiles hapart hready hrewritable
    obtain ⟨hrewritten, hsublist, hchanges⟩ := rewritten_rewriteFiles hapart hrewrite
    refine ⟨changed, _, gives_rewriteTree hsearch hrewrite, hrewritten, hsorted.sublist hsublist,
      fun p => ⟨fun hp => ?_, fun hp => ?_⟩⟩
    · exact ⟨hsublist.subset hp, (hchanges p (hsublist.subset hp)).1 hp⟩
    · exact (hchanges p hp.1).2 hp.2
  · intro p hp hrewritable
    obtain ⟨middle, hrewritten, hcurrent, hthere, hothers, hcomes⟩ :=
      ends_rewriteTree_at hquery hapart hready hp hrewritable
    have hmine := hothers p hp (List.lt_irrefl _)
    constructor
    · intro content fault hread hfault
      have hthereRead : middle.tree.read middle.current p = .ok content := by
        rw [hcurrent]
        exact (hrewritten.read_eq hmine).2 hread
      exact ⟨middle, hcomes _ _ (hthere.ends hthereRead hfault), hrewritten,
        fun q hq hnot content => hrewritten.read_eq (hothers q hq hnot)⟩
    · rintro fault ⟨old, hold, hfault⟩
      obtain ⟨after, hends, _, hempty⟩ :=
        hthere.ends_of_spoilt ⟨old, hrewritten.holdsText hcurrent hmine hold, hfault⟩
      rw [hcurrent] at hempty
      refine ⟨after, middle.tree, hcomes _ _ hends, hrewritten, hempty, fun q hq hnot => ?_⟩
      rw [hempty, if_neg (hapart.noTemporary q hq p hp),
        hrewritten.elsewhere _ (hothers q hq hnot)]

/-- A directory with a text, a file that happens to have the name of its temporary file, a file
below that is no text, and one that would come after it. -/
def brokenHost : Host where
  tree := (((FileTree.empty.withFile ["src", "a.rs"] (encode "a\nb\n")).withFile
    ["src", "a.rs.tmp"] [1]).withFile ["src", "m", "b.rs"] [0xff]).withFile ["src", "z.rs"]
      (encode "a\n")
  current := []
  scratch := Path.here
  responses := []
  calls := []
  log := []

theorem mem_matched_brokenHost {p : Path} :
    p ∈ matched brokenHost (Path.ofText "src") ⟨[.names "*.rs"], false⟩ ↔
      p ∈ [⟨0, ["src", "a.rs"]⟩, ⟨0, ["src", "z.rs"]⟩, (⟨0, ["src", "m", "b.rs"]⟩ : Path)] := by
  have hpaths : ((⟨[.deep, .names "*.rs"], false⟩ : Glob.Query).paths brokenHost.tree []
      (Path.ofText "src")).filter (brokenHost.tree.isFile []) =
        [⟨0, ["src", "a.rs"]⟩, ⟨0, ["src", "z.rs"]⟩, ⟨0, ["src", "m", "b.rs"]⟩] := by
    decide +kernel
  rw [matched, Glob.Query.files, Path.sort, List.mem_mergeSort]
  exact hpaths ▸ Iff.rfl

theorem the_file_after_a_broken_one_stays :
    brokenHost.tree.WellFormed ∧ brokenHost.tree.NamesOpen ∧
      Glob.Query.ofText "*.rs" = .ok ⟨[.names "*.rs"], false⟩ ∧
      ".." ∉ (Path.ofText "*.rs").parts ∧
      (∀ p ∈ matched brokenHost (Path.ofText "src") ⟨[.names "*.rs"], false⟩,
        temporary p ∉ matched brokenHost (Path.ofText "src") ⟨[.names "*.rs"], false⟩ ∧
          brokenHost.tree.isDirectory [] (temporary p) = false) ∧
      ∃ after, Ends (rewriteTree (Path.ofText "src") [.literal "a" none] "*.rs") brokenHost
          (.error (.document (.undecodable ⟨0, [0xff], .badStart⟩))) after ∧
        after.tree.read [] ⟨0, ["src", "a.rs"]⟩ = .ok (encode "b\n") ∧
        after.tree.get? ["src", "a.rs.tmp"] = none ∧
        after.tree.read [] ⟨0, ["src", "z.rs"]⟩ = .ok (encode "a\n") := by
  have hwf : brokenHost.tree.WellFormed := by decide +kernel
  have hnames : brokenHost.tree.NamesOpen := by decide +kernel
  have hquery : Glob.Query.ofText "*.rs" = .ok ⟨[.names "*.rs"], false⟩ :=
    eq_ok_of_toOption (by decide +kernel)
  have hback : ".." ∉ (Path.ofText "*.rs").parts := by decide +kernel
  have hfree : ∀ p ∈ matched brokenHost (Path.ofText "src") ⟨[.names "*.rs"], false⟩,
      temporary p ∉ matched brokenHost (Path.ofText "src") ⟨[.names "*.rs"], false⟩ ∧
        brokenHost.tree.isDirectory [] (temporary p) = false := by
    simp only [mem_matched_brokenHost]
    decide +kernel
  have hfirst : ∀ q ∈ matched brokenHost (Path.ofText "src") ⟨[.names "*.rs"], false⟩,
      q.key < (⟨0, ["src", "m", "b.rs"]⟩ : Path).key ↔ q = ⟨0, ["src", "a.rs"]⟩ := by
    simp only [mem_matched_brokenHost]
    decide +kernel
  have htext : brokenHost.tree.read [] ⟨0, ["src", "a.rs"]⟩ = .ok (encode "a\nb\n") :=
    eq_ok_of_toOption (by decide +kernel)
  have hrewritable : ∀ q ∈ matched brokenHost (Path.ofText "src") ⟨[.names "*.rs"], false⟩,
      q.key < (⟨0, ["src", "m", "b.rs"]⟩ : Path).key →
        Rewritable [.literal "a" none] brokenHost q := fun q hq hlt =>
    ⟨"a\nb\n", "b\n", ⟨_, (hfirst q hq).1 hlt ▸ htext, decodeUtf8_encode _⟩, by decide +kernel⟩
  obtain ⟨after, hends, hrewritten, hstay⟩ :=
    ((files_are_rewritten_up_to_the_first_that_cannot_be [.literal "a" none] hwf hnames hquery
      hback hfree).2 ⟨0, ["src", "m", "b.rs"]⟩ (mem_matched_brokenHost.2 (by simp)) hrewritable).1
      [0xff] ⟨0, [0xff], .badStart⟩ (eq_ok_of_toOption (by decide +kernel)) rfl
  have ha : ⟨0, ["src", "a.rs"]⟩ ∈ (matched brokenHost (Path.ofText "src")
      ⟨[.names "*.rs"], false⟩).filter fun q =>
        q.key < (⟨0, ["src", "m", "b.rs"]⟩ : Path).key := by
    rw [List.mem_filter, mem_matched_brokenHost]
    decide +kernel
  refine ⟨hwf, hnames, hquery, hback, hfree, after, hends, ?_, hrewritten.gone _ ha, ?_⟩
  · obtain ⟨content, old, new, hcontent, hold, hnew, hfile⟩ := hrewritten.file _ ha
    obtain rfl := Except.ok.inj (htext.symm.trans hcontent)
    obtain rfl := Except.ok.inj ((decodeUtf8_encode _).symm.trans hold)
    have htwo : rewriteText [.literal "a" none] (points "a\nb\n") = points "b\n" := by
      decide +kernel
    obtain rfl := points_inj.1 (htwo.symm.trans hnew)
    exact hfile
  · exact (hstay ⟨0, ["src", "z.rs"]⟩ (mem_matched_brokenHost.2 (by simp)) (by decide +kernel) _).2
      (eq_ok_of_toOption (by decide +kernel))

/-- A directory with one text. -/
def oneTextHost : Host where
  tree := FileTree.empty.withFile ["src", "a.rs"] (encode "a")
  current := []
  scratch := Path.here
  responses := []
  calls := []
  log := []

/-- A rule that puts a half of a pair into a line. -/
def halvingRule : Rule := ⟨find? (points "a"), some [.half 0]⟩

theorem matched_oneText : matched oneTextHost (Path.ofText "src") ⟨[.names "*.rs"], false⟩ =
    [⟨0, ["src", "a.rs"]⟩] :=
  Glob.Query.files_eq_of_perm (by decide +kernel) (by decide +kernel)

/-- All files that are found hold texts and nothing is in their way, and yet the rewriting does not
come to its end. -/
theorem a_half_of_a_pair_ends_the_rewriting :
    (∀ p ∈ matched oneTextHost (Path.ofText "src") ⟨[.names "*.rs"], false⟩,
      (∃ text, oneTextHost.HoldsText p text) ∧
        temporary p ∉ matched oneTextHost (Path.ofText "src") ⟨[.names "*.rs"], false⟩ ∧
        oneTextHost.tree.isDirectory [] (temporary p) = false) ∧
      ∃ after, Ends (rewriteTree (Path.ofText "src") [halvingRule] "*.rs") oneTextHost
          (.error (.unencodable ⟨0, [0]⟩)) after ∧
        after.tree.read [] ⟨0, ["src", "a.rs.tmp"]⟩ = .ok [] := by
  have htext : oneTextHost.tree.read [] ⟨0, ["src", "a.rs"]⟩ = .ok (encode "a") :=
    eq_ok_of_toOption (by decide +kernel)
  have hsearch : Gives (Glob.searchBelow (Path.ofText "src") "*.rs") oneTextHost
      [⟨0, ["src", "a.rs"]⟩] oneTextHost :=
    Glob.gives_searchBelow.2 ⟨_, rfl, matched_oneText, rfl⟩
  have hrun := ends_run (rewriteFiles [halvingRule] [⟨0, ["src", "a.rs"]⟩]) oneTextHost
  have hresult : (((rewriteFiles [halvingRule] [⟨0, ["src", "a.rs"]⟩]).run).run oneTextHost).1 =
      .error (.unencodable ⟨0, [0]⟩) := eq_error_of_match (by decide +kernel)
  rw [hresult] at hrun
  refine ⟨?_, _, ends_rewriteTree hsearch hrun, eq_ok_of_toOption (by decide +kernel)⟩
  rw [matched_oneText]
  intro p hp
  obtain rfl := List.mem_singleton.1 hp
  exact ⟨⟨_, _, htext, decodeUtf8_encode _⟩, by decide +kernel, by decide +kernel⟩

end ProtoRefresh.Rewrite
