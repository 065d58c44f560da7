-- Which files the rewriting of several files loses. A file is lost where it
-- is in the place of the temporary file of another one, and then the
-- rewriting fails for it when its turn comes. So a rewriting that comes to
-- its end has lost none.
import Mathlib.Logic.Function.Iterate
import ProtoRefresh.Proofs.Glob.Beside
import ProtoRefresh.Proofs.Rewrite.Whole

namespace ProtoRefresh.Rewrite

open FileTree ProtoRefresh.Action Text

variable {host after : Host} {tree : FileTree} {current : Location} {directory p q : Path}
  {pattern : String} {query : Glob.Query} {rules : List Rule} {files changed : List Path}
  {place : Location} {text : String} {failure : Failure}

/-! ## Runs taken apart -/

theorem gives_rewriteFiles_append {before : List Path}
    (h : Gives (rewriteFiles rules (before ++ files)) host changed after) :
    ∃ first middle more, Gives (rewriteFiles rules before) host first middle ∧
      Gives (rewriteFiles rules files) middle more after := by
  induction before generalizing host changed with
  | nil => exact ⟨[], host, changed, gives_pure.2 ⟨rfl, rfl⟩, h⟩
  | cons q rest ih =>
    obtain ⟨changes, between, _, hfirst, hrest, _⟩ := gives_rewriteFiles_cons.1 h
    obtain ⟨first, middle, more, hbefore, hfiles⟩ := ih hrest
    exact ⟨_, middle, more,
      gives_rewriteFiles_cons.2 ⟨changes, between, first, hfirst, hbefore, rfl⟩, hfiles⟩

/-- What fails is the rewriting of one of the files, after that of the files before it. -/
theorem ends_rewriteFile_of_rewriteFiles
    (h : Ends (rewriteFiles rules files) host (.error failure) after) :
    ∃ before p rest first middle, files = before ++ p :: rest ∧
      Gives (rewriteFiles rules before) host first middle ∧
      Ends (rewriteFile p rules) middle (.error failure) after := by
  induction files generalizing host with
  | nil => cases (ends_pure.1 h).1
  | cons q rest ih =>
    rw [rewriteFiles] at h
    rcases ends_bind.1 h with ⟨_, hfirst, heq⟩ | ⟨changes, between, hfirst, h⟩
    · cases heq
      exact ⟨[], q, rest, [], host, rfl, gives_pure.2 ⟨rfl, rfl⟩, hfirst⟩
    · rcases ends_bind.1 h with ⟨_, hrest, heq⟩ | ⟨_, _, _, hlast⟩
      · cases heq
        obtain ⟨before, p, later, first, middle, rfl, hbefore, hends⟩ := ih hrest
        exact ⟨q :: before, p, later, _, middle, rfl,
          gives_rewriteFiles_cons.2 ⟨changes, between, first, hfirst, hbefore, rfl⟩, hends⟩
      · cases (ends_pure.1 hlast).1

/-! ## Places through a rewriting -/

/-- Rewriting brings no file to a place where there is nothing. -/
theorem missing_of_rewriteFiles (h : Gives (rewriteFiles rules files) host changed after)
    (hnone : host.tree.get? place = none) : after.tree.get? place = none := by
  induction files generalizing host changed with
  | nil =>
    obtain ⟨_, rfl⟩ := gives_pure.1 h
    exact hnone
  | cons q rest ih =>
    obtain ⟨_, middle, _, hfirst, hrest, _⟩ := gives_rewriteFiles_cons.1 h
    obtain ⟨content, _, _, hread, _, _, _, _, _, hget⟩ := get?_of_rewriteFile hfirst
    refine ih hrest ?_
    rw [hget, if_neg, hnone, ite_self]
    rintro rfl
    rw [(read_eq_ok_iff.1 hread).2] at hnone
    cases hnone

theorem directory_of_rewriteFiles (h : Gives (rewriteFiles rules files) host changed after) :
    after.tree.get? place = some .directory ↔ host.tree.get? place = some .directory := by
  induction files generalizing host changed with
  | nil =>
    obtain ⟨_, rfl⟩ := gives_pure.1 h
    rfl
  | cons q rest ih =>
    obtain ⟨_, middle, _, hfirst, hrest, _⟩ := gives_rewriteFiles_cons.1 h
    exact (ih hrest).trans ((rewritten_rewriteFile hfirst).1.directory place)

/-! ## Texts through a rewriting -/

/-- In a place there is a file that holds a text. -/
def TextAt (tree : FileTree) (place : Location) (text : String) : Prop :=
  ∃ content, tree.get? place = some (.file content) ∧ Text.decodeUtf8 content = .ok text

theorem TextAt.unique {other : String} (h : TextAt tree place text)
    (ho : TextAt tree place other) : text = other := by
  obtain ⟨content, hget, htext⟩ := h
  obtain ⟨_, hget', hother⟩ := ho
  cases hget.symm.trans hget'
  exact Except.ok.inj (htext.symm.trans hother)

/-- What the rewriting of one file does in a place that is not the one of its temporary file. -/
theorem place_of_rewriteFile {changes : Bool} (h : Gives (rewriteFile q rules) host changes after)
    (hfree : place ≠ (temporary q).location host.current) :
    (q.location host.current = place ∧ ∃ old new, TextAt host.tree place old ∧
        rewriteText rules (points old) = points new ∧ TextAt after.tree place new) ∨
      (q.location host.current ≠ place ∧ after.tree.get? place = host.tree.get? place) := by
  obtain ⟨content, old, new, hread, hold, hnew, _, _, _, hget⟩ := get?_of_rewriteFile h
  by_cases hplace : q.location host.current = place
  · subst hplace
    exact Or.inl ⟨rfl, old, new, ⟨content, (read_eq_ok_iff.1 hread).2, hold⟩, hnew,
      ⟨_, by rw [hget, if_pos rfl], decodeUtf8_encode _⟩⟩
  · exact Or.inr ⟨hplace, by rw [hget, if_neg fun heq => hplace heq.symm, if_neg hfree]⟩

/-- A file that goes has been in the place of a temporary file. -/
theorem temporary_of_missing {content : Content}
    (h : Gives (rewriteFiles rules files) host changed after)
    (hfile : host.tree.get? place = some (.file content)) (hnone : after.tree.get? place = none) :
    ∃ q ∈ files, place = (temporary q).location host.current := by
  induction files generalizing host changed content with
  | nil =>
    obtain ⟨_, rfl⟩ := gives_pure.1 h
    rw [hfile] at hnone
    cases hnone
  | cons q rest ih =>
    obtain ⟨_, middle, _, hfirst, hrest, _⟩ := gives_rewriteFiles_cons.1 h
    have hcurrent := (quiet_rewriteFile q rules).current hfirst
    by_cases hfree : place = (temporary q).location host.current
    · exact ⟨q, List.mem_cons_self, hfree⟩
    · obtain ⟨left, hleft⟩ : ∃ left, middle.tree.get? place = some (.file left) := by
        rcases place_of_rewriteFile hfirst hfree with ⟨_, _, _, _, _, left, hleft, _⟩ | ⟨_, hsame⟩
        · exact ⟨left, hleft⟩
        · exact ⟨content, hsame.trans hfile⟩
      obtain ⟨r, hr, hplace⟩ := ih hrest hleft
      exact ⟨r, List.mem_cons_of_mem q hr, hcurrent ▸ hplace⟩

/-- How many of some paths lead to a place. -/
def passes (current : Location) (files : List Path) (place : Location) : Nat :=
  files.countP fun q => q.location current = place

/-- In a place that is not the one of a temporary file a text is rewritten once for each path that
leads there. -/
theorem textAt_of_rewriteFiles (h : Gives (rewriteFiles rules files) host changed after)
    (hfree : ∀ q ∈ files, place ≠ (temporary q).location host.current)
    (htext : TextAt host.tree place text) : ∃ new, TextAt after.tree place new ∧
      points new = (rewriteText rules)^[passes host.current files place] (points text) := by
  induction files generalizing host changed text with
  | nil =>
    obtain ⟨_, rfl⟩ := gives_pure.1 h
    exact ⟨text, htext, rfl⟩
  | cons q rest ih =>
    obtain ⟨_, middle, _, hfirst, hrest, _⟩ := gives_rewriteFiles_cons.1 h
    have hcurrent := (quiet_rewriteFile q rules).current hfirst
    have hlater : ∀ r ∈ rest, place ≠ (temporary r).location middle.current := fun r hr =>
      hcurrent ▸ hfree r (List.mem_cons_of_mem q hr)
    unfold passes
    rcases place_of_rewriteFile hfirst (hfree q List.mem_cons_self) with
      ⟨hplace, old, new, hold, hnew, hthere⟩ | ⟨hplace, hsame⟩
    · obtain rfl := htext.unique hold
      rw [List.countP_cons_of_pos (by simpa using hplace), Function.iterate_succ_apply, hnew,
        ← hcurrent]
      exact ih hrest hlater hthere
    · rw [List.countP_cons_of_neg (by simpa using hplace), ← hcurrent]
      obtain ⟨content, hget, hdecode⟩ := htext
      exact ih hrest hlater ⟨content, hsame.trans hget, hdecode⟩

/-- Of the files that have been rewritten, each one in no place of a temporary file held a text. -/
theorem exists_textAt_of_rewriteFiles (h : Gives (rewriteFiles rules files) host changed after)
    (hp : p ∈ files)
    (hfree : ∀ q ∈ files, p.location host.current ≠ (temporary q).location host.current) :
    ∃ text, TextAt host.tree (p.location host.current) text := by
  induction files generalizing host changed with
  | nil => cases hp
  | cons q rest ih =>
    obtain ⟨_, middle, _, hfirst, hrest, _⟩ := gives_rewriteFiles_cons.1 h
    have hcurrent := (quiet_rewriteFile q rules).current hfirst
    rcases place_of_rewriteFile hfirst (hfree q List.mem_cons_self) with
      ⟨_, old, _, hold, _⟩ | ⟨hplace, hsame⟩
    · exact ⟨old, hold⟩
    · have hp : p ∈ rest := (List.mem_cons.1 hp).resolve_left fun heq => hplace (by rw [heq])
      rw [← hcurrent] at hfree
      obtain ⟨text, content, hget, hdecode⟩ :=
        ih hrest hp fun r hr => hfree r (List.mem_cons_of_mem q hr)
      rw [hcurrent, hsame] at hget
      exact ⟨text, content, hget, hdecode⟩

/-! ## The files that a search finds -/

/-- A file comes before its temporary file. -/
theorem key_lt_temporary (hnamed : p.parts ≠ []) : p.key < (temporary p).key := by
  have hname : ∀ name : String, name < name ++ temporarySuffix := by
    intro name
    rw [String.lt_iff, String.toList_append]
    conv_lhs => rw [← List.append_nil name.toList]
    exact List.append_left_lt (List.nil_lt_cons '.' ['t', 'm', 'p'])
  obtain ⟨slashes, parts⟩ := p
  obtain ⟨before, name, rfl⟩ := (List.eq_nil_or_concat' parts).resolve_left hnamed
  have hparts : before ++ [name] < before ++ [name ++ temporarySuffix] :=
    List.append_left_lt (List.Lex.rel (hname name))
  have htemporary : temporary ⟨slashes, before ++ [name]⟩ =
      ⟨slashes, before ++ [name ++ temporarySuffix]⟩ := by
    simp [temporary, Path.parent, Path.name, Path.child]
  rw [htemporary]
  unfold Path.key Path.isAbsolute
  dsimp only
  split
  · exact List.Lex.cons hparts
  · exact hparts

theorem parts_ne_nil_of_mem_matched (hp : p ∈ matched host directory query) : p.parts ≠ [] := by
  obtain ⟨hdir, hfollow, hfile⟩ := Glob.Query.mem_files.1 hp
  obtain ⟨content, hread⟩ := isFile_iff.1 hfile
  obtain ⟨names, rfl⟩ := Glob.follow_eq_below _ _ hfollow
  intro hnil
  obtain ⟨_, hnames⟩ := List.append_eq_nil_iff.1 hnil
  exact ne_of_read hread hdir (by rw [hnames, Path.below_nil])

/-- A search that finds a file, and gets to the place of its temporary file in some way, finds the
temporary file beside it. -/
theorem temporary_mem_matched (hwf : host.tree.WellFormed) (hp : p ∈ matched host directory query)
    (hq : q ∈ matched host directory query)
    (hplace : q.location host.current = (temporary p).location host.current) :
    temporary p ∈ matched host directory query := by
  refine Glob.Query.mem_files_beside hwf hp hq (temporary_name_ne_back p.name) ?_ hplace
  intro heq
  have hlength := congrArg String.length heq
  have hsuffix : temporarySuffix.length = 4 := by decide
  rw [String.length_append] at hlength
  omega

/-- A rewriting that finds a file together with its temporary file does not come to its end. -/
theorem temporary_not_mem_matched
    (h : Gives (rewriteFiles rules (matched host directory query)) host changed after)
    (hp : p ∈ matched host directory query) : temporary p ∉ matched host directory query := by
  intro ht
  have hsorted : (matched host directory query).Pairwise fun p q => p.key < q.key :=
    Glob.Query.files_sorted _ _
  have hnamed := parts_ne_nil_of_mem_matched hp
  obtain ⟨before, rest, hsplit⟩ := List.append_of_mem hp
  rw [hsplit] at h hsorted ht
  obtain ⟨_, hrest, hbefore⟩ := List.pairwise_append.1 hsorted
  -- the temporary file comes later, and then nothing is left there
  have hlater : temporary p ∈ rest := by
    rcases List.mem_append.1 ht with ht | ht
    · exact absurd (hbefore _ ht p List.mem_cons_self) (List.lt_asymm (key_lt_temporary hnamed))
    · refine (List.mem_cons.1 ht).resolve_left fun heq => ?_
      have hlt := key_lt_temporary hnamed
      rw [heq] at hlt
      exact List.lt_irrefl _ hlt
  obtain ⟨_, start, _, hfirst, h⟩ := gives_rewriteFiles_append h
  obtain ⟨_, middle, _, hmine, h, _⟩ := gives_rewriteFiles_cons.1 h
  obtain ⟨between, more, rfl⟩ := List.append_of_mem hlater
  obtain ⟨_, left, _, hbetween, h⟩ := gives_rewriteFiles_append h
  obtain ⟨_, _, _, htemporary, _⟩ := gives_rewriteFiles_cons.1 h
  obtain ⟨_, _, _, hread, _⟩ := get?_of_rewriteFile htemporary
  have hgone := missing_of_rewriteFiles hbetween
    ((rewritten_rewriteFile hmine).1.gone p List.mem_cons_self)
  have hstart := ((quiet_rewriteFiles rules between).current hbetween).trans
    ((quiet_rewriteFile p rules).current hmine)
  rw [← hstart, (read_eq_ok_iff.1 hread).2] at hgone
  cases hgone

/-- A file that a rewriting does not find any more has been in the place of a temporary file. -/
theorem temporary_mem_of_missing {shown : String} (hwf : host.tree.WellFormed)
    (h : Ends (rewriteFiles rules (matched host directory query)) host
      (.error (.file .notFound shown)) after) :
    ∃ p ∈ matched host directory query, temporary p ∈ matched host directory query := by
  obtain ⟨before, q, rest, _, middle, hsplit, hbefore, hends⟩ := ends_rewriteFile_of_rewriteFiles h
  have hq : q ∈ matched host directory query := by
    rw [hsplit]
    exact List.mem_append_right before List.mem_cons_self
  have hcurrent := (quiet_rewriteFiles rules before).current hbefore
  obtain ⟨content, hread⟩ := isFile_iff.1 (Glob.Query.isFile_of_mem_files hq)
  obtain ⟨hwalks, hfile⟩ := read_eq_ok_iff.1 hread
  have hrefused : Refused middle q (.file .notFound shown) := by
    rcases refused_or_spoilt_of_ends (parts_ne_nil_of_mem_matched hq) hends with
      ⟨hrefused, _⟩ | ⟨_, hspoilt, _⟩
    · exact hrefused
    · cases hspoilt
  have hnone : middle.tree.get? (q.location host.current) = none := by
    cases hrefused with
    | missing _ hstat =>
      cases hget : middle.tree.get? (q.location host.current) with
      | none => rfl
      | some entry =>
        have hwalks : middle.tree.Walks middle.current q := hcurrent ▸
          hwalks.mono fun place => (directory_of_rewriteFiles hbefore).2
        rw [stat_eq_ok_iff.2 ⟨hwalks, hcurrent ▸ hget⟩] at hstat
        cases hstat
  obtain ⟨p, hp, hplace⟩ := temporary_of_missing hbefore hfile hnone
  have hp : p ∈ matched host directory query := by
    rw [hsplit]
    exact List.mem_append_left _ hp
  exact ⟨p, hp, temporary_mem_matched hwf hp hq hplace⟩

/-- A pattern that does not lead back finds one path to each file. -/
theorem passes_matched (hwf : host.tree.WellFormed) (hquery : Glob.Query.ofText pattern = .ok query)
    (hback : ".." ∉ (Path.ofText pattern).parts) (hp : p ∈ matched host directory query) :
    passes host.current (matched host directory query) (p.location host.current) = 1 := by
  have hstages := Glob.Query.noBack_of_ofText hquery hback
  have hbelow : ∀ q ∈ matched host directory query, q.IsBelow directory := fun q hq =>
    Glob.Query.isBelow_of_mem_files hwf (by simpa using hstages) hq
  have hsame : ∀ q ∈ matched host directory query,
      (q.location host.current = p.location host.current ↔ q = p) := fun q hq =>
    ⟨(hbelow q hq).eq_of_location (hbelow p hp), fun heq => by rw [heq]⟩
  calc passes host.current (matched host directory query) (p.location host.current)
      = (matched host directory query).count p :=
        List.countP_congr fun q hq => by simpa using hsame q hq
    _ = 1 := List.count_eq_one_of_mem (Glob.Query.files_nodup _ _) hp

/-- A rewriting that comes to its end loses no file: no file that is found is in the place of a
temporary file, and each of them has its text rewritten, once for each path that leads to it. That
is once for all files, unless the pattern leads back. A file that is missing when its turn comes
tells of a file that is found together with its temporary file. -/
theorem a_rewriting_that_ends_well_loses_no_file (directory : Path) (rules : List Rule)
    (hwf : host.tree.WellFormed) (hquery : Glob.Query.ofText pattern = .ok query) :
    (∀ changed after, Gives (rewriteTree directory rules pattern) host changed after →
      ∀ p ∈ matched host directory query, temporary p ∉ matched host directory query ∧
        ∃ text new, host.HoldsText p text ∧ after.HoldsText p new ∧
          points new = (rewriteText rules)^[passes host.current (matched host directory query)
            (p.location host.current)] (points text)) ∧
    (∀ shown after, Ends (rewriteTree directory rules pattern) host
        (.error (.file .notFound shown)) after →
      ∃ p ∈ matched host directory query, temporary p ∈ matched host directory query) ∧
    (".." ∉ (Path.ofText pattern).parts → ∀ p ∈ matched host directory query,
      passes host.current (matched host directory query) (p.location host.current) = 1) := by
  refine ⟨fun changed after h p hp => ?_, fun shown after h => ?_, fun hback p hp => ?_⟩
  · obtain ⟨left, hrewrite, hafter⟩ := gives_rewriteFiles_matched hquery h
    have hfree : ∀ q ∈ matched host directory query,
        p.location host.current ≠ (temporary q).location host.current := fun q hq hplace =>
      temporary_not_mem_matched hrewrite hq (temporary_mem_matched hwf hq hp hplace)
    obtain ⟨content, hread⟩ := isFile_iff.1 (Glob.Query.isFile_of_mem_files hp)
    obtain ⟨hwalks, _⟩ := read_eq_ok_iff.1 hread
    obtain ⟨text, htext⟩ := exists_textAt_of_rewriteFiles hrewrite hp hfree
    obtain ⟨new, ⟨bytes, hbytes, hdecode⟩, hnew⟩ := textAt_of_rewriteFiles hrewrite hfree htext
    obtain ⟨old, hold, hdecoded⟩ := htext
    have hcurrent : after.current = host.current := by
      rw [hafter, ← (quiet_rewriteFiles rules _).current hrewrite]
    have hkept : after.tree.Walks after.current p := by
      rw [hcurrent, hafter]
      exact hwalks.mono fun place => (directory_of_rewriteFiles hrewrite).2
    refine ⟨temporary_not_mem_matched hrewrite hp, text, new,
      ⟨old, read_eq_ok_iff.2 ⟨hwalks, hold⟩, hdecoded⟩,
      ⟨bytes, read_eq_ok_iff.2 ⟨hkept, ?_⟩, hdecode⟩, hnew⟩
    rw [hcurrent, hafter]
    exact hbytes
  · exact temporary_mem_of_missing hwf (ends_rewriteFiles_matched hquery h)
  · exact passes_matched hwf hquery hback hp

/-- A directory with two files, one of which has the name of a temporary file, but not of that of
the other one. -/
def strayTemporaryHost : Host where
  tree := (FileTree.empty.withFile ["g", "a"] (encode "a\nb")).withFile ["g", "b.tmp"]
    (encode "a\nc")
  current := []
  scratch := Path.here
  responses := []
  calls := []
  log := []

theorem a_stray_temporary_file_is_rewritten :
    strayTemporaryHost.tree.WellFormed ∧
      Glob.Query.ofText "*" = .ok ⟨[.names "*"], false⟩ ∧
      ∃ changed after, Gives (rewriteTree (Path.ofText "g") [.literal "a" none] "*")
          strayTemporaryHost changed after ∧
        after.HoldsText ⟨0, ["g", "b.tmp"]⟩ "c" := by
  have hwf : strayTemporaryHost.tree.WellFormed := by decide +kernel
  have hquery : Glob.Query.ofText "*" = .ok ⟨[.names "*"], false⟩ :=
    eq_ok_of_toOption (by decide +kernel)
  have hmatched : matched strayTemporaryHost (Path.ofText "g") ⟨[.names "*"], false⟩ =
      [⟨0, ["g", "a"]⟩, ⟨0, ["g", "b.tmp"]⟩] :=
    Glob.Query.files_eq_of_perm (by decide +kernel) (by decide +kernel)
  have hsearch : Gives (Glob.searchBelow (Path.ofText "g") "*") strayTemporaryHost _
      strayTemporaryHost := Glob.gives_searchBelow.2 ⟨_, hquery, hmatched, rfl⟩
  have hrewrite : Gives (rewriteFiles [.literal "a" none]
      [⟨0, ["g", "a"]⟩, (⟨0, ["g", "b.tmp"]⟩ : Path)]) strayTemporaryHost
      [⟨0, ["g", "a"]⟩, ⟨0, ["g", "b.tmp"]⟩] _ := gives_of_toOption (by decide +kernel)
  have hrun := gives_rewriteTree hsearch hrewrite
  obtain ⟨hloses, _, honce⟩ := a_rewriting_that_ends_well_loses_no_file (Path.ofText "g")
    [.literal "a" none] hwf hquery
  have hmem : ⟨0, ["g", "b.tmp"]⟩ ∈ matched strayTemporaryHost (Path.ofText "g")
      ⟨[.names "*"], false⟩ := by
    rw [hmatched]
    decide
  obtain ⟨_, text, new, ⟨content, hread, hdecode⟩, hafter, hnew⟩ := hloses _ _ hrun _ hmem
  have hold : strayTemporaryHost.tree.read [] ⟨0, ["g", "b.tmp"]⟩ = .ok (encode "a\nc") :=
    eq_ok_of_toOption (by decide +kernel)
  obtain rfl := Except.ok.inj (hold.symm.trans hread)
  obtain rfl := Except.ok.inj ((decodeUtf8_encode _).symm.trans hdecode)
  rw [honce (by decide +kernel) _ hmem, Function.iterate_one] at hnew
  have htext : rewriteText [.literal "a" none] (points "a\nc") = points "c" := by decide +kernel
  obtain rfl := points_inj.1 (hnew.trans htext)
  exact ⟨hwf, hquery, _, _, hrun, hafter⟩

/-- A directory with two files, one of which is in the place of the temporary file of the other
one. -/
def takenTemporaryHost : Host where
  tree := (FileTree.empty.withFile ["g", "a"] (encode "x")).withFile ["g", "a.tmp"] (encode "y")
  current := []
  scratch := Path.here
  responses := []
  calls := []
  log := []

/-- The second file is lost while the first one is rewritten, and then the rewriting fails. -/
theorem a_file_in_the_place_of_a_temporary_file_is_lost :
    matched takenTemporaryHost (Path.ofText "g") ⟨[.names "*"], false⟩ =
        [⟨0, ["g", "a"]⟩, ⟨0, ["g", "a.tmp"]⟩] ∧
      ∃ after, Ends (rewriteTree (Path.ofText "g") [] "*") takenTemporaryHost
          (.error (.file .notFound "g/a.tmp")) after ∧
        after.tree.get? ["g", "a.tmp"] = none := by
  have hmatched : matched takenTemporaryHost (Path.ofText "g") ⟨[.names "*"], false⟩ =
      [⟨0, ["g", "a"]⟩, ⟨0, ["g", "a.tmp"]⟩] :=
    Glob.Query.files_eq_of_perm (by decide +kernel) (by decide +kernel)
  have hsearch : Gives (Glob.searchBelow (Path.ofText "g") "*") takenTemporaryHost _
      takenTemporaryHost :=
    Glob.gives_searchBelow.2 ⟨_, eq_ok_of_toOption (by decide +kernel), hmatched, rfl⟩
  have hfirst : Gives (rewriteFiles [] [⟨0, ["g", "a"]⟩]) takenTemporaryHost [] _ :=
    gives_of_toOption (by decide +kernel)
  generalize hmiddle : ((rewriteFiles [] [⟨0, ["g", "a"]⟩]).run.run takenTemporaryHost).2 = middle
    at hfirst
  have hgone : middle.tree.stat middle.current ⟨0, ["g", "a.tmp"]⟩ = .error .notFound := by
    rw [← hmiddle]
    rfl
  have hsecond : Ends (rewriteFiles [] [⟨0, ["g", "a.tmp"]⟩]) middle
      (.error (.file .notFound "g/a.tmp")) middle :=
    ends_bind.2 (Or.inl ⟨_, Refused.ends (.missing (by decide) hgone) [], rfl⟩)
  refine ⟨hmatched, middle, ends_rewriteTree hsearch (ends_rewriteFiles_append hfirst hsecond), ?_⟩
  rw [← hmiddle]
  decide +kernel

end ProtoRefresh.Rewrite
