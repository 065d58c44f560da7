-- What the rewriting of files leaves behind. A file gets its new text by
-- way of the temporary file beside it. As long as no file is in the place
-- of another one or of its temporary file, each of several files gets its
-- new text, the temporary files are gone and all else is as it was.
import ProtoRefresh.Proofs.Host.Ending
import ProtoRefresh.Proofs.Host.Files
import ProtoRefresh.Proofs.Path.Below
import ProtoRefresh.Rewrite.File

namespace ProtoRefresh.Rewrite

open FileTree ProtoRefresh.Action Text

variable {current : Location} {host after : Host} {rules : List Rule} {p : Path}

/-! ## Temporary files -/

theorem temporary_name_length (name : String) : 4 ≤ (name ++ temporarySuffix).length := by
  have hsuffix : temporarySuffix.length = 4 := by decide
  rw [String.length_append]
  omega

theorem temporary_name_ne_back (name : String) : name ++ temporarySuffix ≠ ".." := by
  intro hback
  have hlength := temporary_name_length name
  rw [hback] at hlength
  exact absurd hlength (by decide)

theorem location_temporary (p : Path) : (temporary p).location current =
    p.parent.location current ++ [p.name ++ temporarySuffix] :=
  Path.location_child _ (temporary_name_ne_back p.name)

/-- The temporary file is beside the file, so it is below what the file is below. -/
theorem temporary_isBelow {directory : Path} (hp : p.IsBelow directory) (hne : p ≠ directory) :
    (temporary p).IsBelow directory :=
  (hp.parent hne).child (temporary_name_ne_back p.name)

/-- A file is in another place than its temporary file. -/
theorem location_ne_temporary (p : Path) :
    p.location current ≠ (temporary p).location current := by
  rw [location_temporary]
  obtain ⟨slashes, parts⟩ := p
  rcases List.eq_nil_or_concat' parts with rfl | ⟨before, part, rfl⟩
  · simp [Path.parent]
  · rw [Path.parent, List.dropLast_concat, Path.location_snoc, Location.after, Path.name,
      List.getLast?_concat, Option.getD_some]
    intro heq
    split at heq
    · have hlength := congrArg List.length heq
      simp only [List.length_dropLast, List.length_append, List.length_singleton] at hlength
      omega
    · have hname := congrArg String.length (List.singleton_inj.1 (List.append_cancel_left heq))
      rw [String.length_append] at hname
      have hsuffix : temporarySuffix.length = 4 := by decide
      omega

/-! ## One file -/

/-- A file is rewritten by a write to its temporary file and a move. -/
theorem gives_rewriteFile {changed : Bool} :
    Gives (rewriteFile p rules) host changed after ↔ isEnded p = false ∧
      ∃ content old new written replaced, host.tree.read host.current p = .ok content ∧
        Text.decodeUtf8 content = .ok old ∧ rewriteText rules (points old) = points new ∧
        host.tree.write host.current (temporary p) (encode new) = .ok written ∧
        written.rename host.current (temporary p) p = .ok replaced ∧
        changed = (new != old) ∧ after = { host with tree := replaced } := by
  unfold rewriteFile
  rw [gives_bind]
  constructor
  · rintro ⟨old, _, htext, hrest⟩
    obtain ⟨hopen, ⟨content, hread, hold⟩, rfl⟩ := gives_readText.1 htext
    obtain ⟨_, _, hwrite, hrest⟩ := gives_bind.1 hrest
    obtain ⟨new, written, hnew, hwritten, rfl⟩ := gives_writeText.1 hwrite
    obtain ⟨_, _, hreplace, hlast⟩ := gives_bind.1 hrest
    obtain ⟨replaced, hreplaced, rfl⟩ := gives_change.1 hreplace
    obtain ⟨rfl, rfl⟩ := gives_pure.1 hlast
    exact ⟨hopen, content, old, new, written, replaced, hread, hold, hnew, hwritten, hreplaced,
      by rw [hnew, bne_points], rfl⟩
  · rintro ⟨hopen, content, old, new, written, replaced, hread, hold, hnew, hwritten, hreplaced,
      rfl, rfl⟩
    have htext : Gives (readText p) host old host :=
      gives_readText.2 ⟨hopen, ⟨content, hread, hold⟩, rfl⟩
    have hwrite : Gives (writeText (temporary p) (rewriteText rules (points old))) host () _ :=
      gives_writeText.2 ⟨new, written, hnew, hwritten, rfl⟩
    exact ⟨old, host, htext, gives_bind.2 ⟨(), _, hwrite, gives_bind.2
      ⟨(), _, gives_change.2 ⟨replaced, hreplaced, rfl⟩,
        gives_pure.2 ⟨by rw [hnew, bne_points], rfl⟩⟩⟩⟩

/-- A rewritten file has its new text, its temporary file is gone, and all else is as it was. -/
theorem get?_of_rewriteFile {changed : Bool} (h : Gives (rewriteFile p rules) host changed after) :
    ∃ content old new, host.tree.read host.current p = .ok content ∧
      Text.decodeUtf8 content = .ok old ∧ rewriteText rules (points old) = points new ∧
      changed = (new != old) ∧
      host.tree.get? ((temporary p).location host.current) ≠ some .directory ∧
      after = { host with tree := after.tree } ∧
      ∀ place, after.tree.get? place =
        if place = p.location host.current then some (.file (encode new))
        else if place = (temporary p).location host.current then none
        else host.tree.get? place := by
  obtain ⟨_, content, old, new, written, replaced, hread, hold, hnew, hwritten, hreplaced,
    hchanged, rfl⟩ := gives_rewriteFile.1 h
  have hnoDirectory := not_directory_of_placeForFile (write_eq_ok_iff.1 hwritten).1
  obtain ⟨moved, hmoved, _, _, hget⟩ := get?_of_rename hreplaced
  obtain ⟨_, hfile⟩ := read_eq_ok_iff.1 hmoved
  rw [get?_of_write hwritten, if_pos rfl] at hfile
  obtain rfl := Entry.file.inj (Option.some.inj hfile)
  refine ⟨content, old, new, hread, hold, hnew, hchanged, hnoDirectory, rfl, fun place => ?_⟩
  rw [hget]
  split
  · rfl
  · split
    · rfl
    · rename_i hplace
      rw [get?_of_write hwritten, if_neg hplace]

theorem quiet_rewriteFile (p : Path) (rules : List Rule) : Quiet (rewriteFile p rules) := by
  have hread : Quiet (readText p) := (quiet_readFile p).bind fun _ => quiet_decode _
  apply hread.bind
  intro old
  apply (quiet_writeText _ _).bind
  intro _
  exact (quiet_change _ _).bind fun _ => .pure _

/-! ## Several files -/

/-- No file is in the place of another one, or of the temporary file of one. -/
structure FilesApart (current : Location) (files : List Path) : Prop where
  distinct : files.Pairwise fun p q => p.location current ≠ q.location current
  noTemporary : ∀ p ∈ files, ∀ q ∈ files, p.location current ≠ (temporary q).location current

variable {files : List Path}

theorem FilesApart.sublist {others : List Path} (h : FilesApart current files)
    (hsublist : others.Sublist files) : FilesApart current others :=
  ⟨h.distinct.sublist hsublist, fun p hp q hq =>
    h.noTemporary p (hsublist.subset hp) q (hsublist.subset hq)⟩

theorem FilesApart.first_apart (h : FilesApart current (p :: files)) :
    ∀ q ∈ files, p.location current ≠ q.location current ∧
      p.location current ≠ (temporary q).location current := fun q hq =>
  ⟨(List.pairwise_cons.1 h.distinct).1 q hq,
    h.noTemporary p List.mem_cons_self q (List.mem_cons_of_mem p hq)⟩

/-- A file is in another place than the files before it and their temporary files. -/
theorem FilesApart.apart (before : List Path) (h : FilesApart current (before ++ files)) {q : Path}
    (hq : q ∈ files) : ∀ r ∈ before, q.location current ≠ r.location current ∧
      q.location current ≠ (temporary r).location current := fun r hr =>
  ⟨((List.pairwise_append.1 h.distinct).2.2 r hr q hq).symm,
    h.noTemporary q (List.mem_append_right before hq) r (List.mem_append_left files hr)⟩

/-- A path leads to a text that the rules change. -/
def Changes (rules : List Rule) (current : Location) (tree : FileTree) (p : Path) : Prop :=
  ∃ content old, tree.read current p = .ok content ∧ Text.decodeUtf8 content = .ok old ∧
    rewriteText rules (points old) ≠ points old

/-- Files have got their new texts and their temporary files are gone; all else is as it was. -/
structure Rewritten (rules : List Rule) (current : Location) (files : List Path)
    (before tree : FileTree) : Prop where
  file : ∀ p ∈ files, ∃ content old new, before.read current p = .ok content ∧
    Text.decodeUtf8 content = .ok old ∧ rewriteText rules (points old) = points new ∧
    tree.read current p = .ok (encode new)
  gone : ∀ p ∈ files, tree.get? ((temporary p).location current) = none
  elsewhere : ∀ place, (∀ p ∈ files, place ≠ p.location current ∧
      place ≠ (temporary p).location current) → tree.get? place = before.get? place
  directory : ∀ place, tree.get? place = some .directory ↔ before.get? place = some .directory

variable {before tree : FileTree}

theorem Rewritten.walks (h : Rewritten rules current files before tree) :
    tree.Walks current p ↔ before.Walks current p :=
  ⟨fun hwalks => hwalks.mono fun place => (h.directory place).1,
    fun hwalks => hwalks.mono fun place => (h.directory place).2⟩

/-- What is no file of some and none of their temporary files is read as before. -/
theorem Rewritten.read_eq (h : Rewritten rules current files before tree)
    (hp : ∀ q ∈ files, p.location current ≠ q.location current ∧
      p.location current ≠ (temporary q).location current) {content : Content} :
    tree.read current p = .ok content ↔ before.read current p = .ok content := by
  rw [read_eq_ok_iff, read_eq_ok_iff, h.walks, h.elsewhere _ hp]

/-- Rewriting brings no new files. -/
theorem Rewritten.isFile (h : Rewritten rules current files before tree)
    (hfile : tree.isFile current p = true) : before.isFile current p = true := by
  obtain ⟨content, hread⟩ := isFile_iff.1 hfile
  obtain ⟨hwalks, hget⟩ := read_eq_ok_iff.1 hread
  rw [h.walks] at hwalks
  by_cases hmine : ∃ q ∈ files, p.location current = q.location current
  · obtain ⟨q, hq, heq⟩ := hmine
    obtain ⟨old, _, _, hold, _⟩ := h.file q hq
    have hplace := (read_eq_ok_iff.1 hold).2
    rw [← heq] at hplace
    exact isFile_iff.2 ⟨old, read_eq_ok_iff.2 ⟨hwalks, hplace⟩⟩
  · have helsewhere := h.elsewhere (p.location current) fun q hq => by
      refine ⟨fun heq => hmine ⟨q, hq, heq⟩, fun heq => ?_⟩
      rw [heq, h.gone q hq] at hget
      cases hget
    rw [helsewhere] at hget
    exact isFile_iff.2 ⟨content, read_eq_ok_iff.2 ⟨hwalks, hget⟩⟩

theorem rewritten_rewriteFile {changed : Bool}
    (h : Gives (rewriteFile p rules) host changed after) :
    Rewritten rules host.current [p] host.tree after.tree ∧
      (changed = true ↔ Changes rules host.current host.tree p) := by
  obtain ⟨content, old, new, hread, hold, hnew, rfl, hnoDirectory, _, hget⟩ :=
    get?_of_rewriteFile h
  obtain ⟨hwalks, hfile⟩ := read_eq_ok_iff.1 hread
  have hdirectory : ∀ place, after.tree.get? place = some .directory ↔
      host.tree.get? place = some .directory := by
    intro place
    rw [hget]
    split
    · rename_i hplace
      rw [hplace, hfile]
      exact iff_of_false nofun nofun
    · split
      · rename_i hplace
        rw [hplace]
        exact iff_of_false nofun hnoDirectory
      · rfl
  refine ⟨⟨?_, ?_, ?_, hdirectory⟩, ?_⟩
  · intro q hq
    rw [List.mem_singleton.1 hq]
    refine ⟨content, old, new, hread, hold, hnew,
      read_eq_ok_iff.2 ⟨?_, by rw [hget, if_pos rfl]⟩⟩
    exact hwalks.mono fun place => (hdirectory place).2
  · intro q hq
    rw [List.mem_singleton.1 hq, hget, if_neg (location_ne_temporary p).symm, if_pos rfl]
  · intro place hplace
    obtain ⟨hne, hne'⟩ := hplace p List.mem_cons_self
    rw [hget, if_neg hne, if_neg hne']
  · rw [bne_iff_ne, ne_eq, ← points_inj, ← hnew]
    constructor
    · exact fun hne => ⟨content, old, hread, hold, hne⟩
    · rintro ⟨other, text, hother, htext, hne⟩
      cases hread.symm.trans hother
      cases hold.symm.trans htext
      exact hne

/-- After a first file others are rewritten as they would have been before it. -/
theorem Rewritten.cons {middle : FileTree} (hapart : FilesApart current (p :: files))
    (hfirst : Rewritten rules current [p] before middle)
    (hrest : Rewritten rules current files middle tree) :
    Rewritten rules current (p :: files) before tree := by
  have hmine : p ∈ p :: files := List.mem_cons_self
  have hothers : ∀ q ∈ files, q ∈ p :: files := fun q hq => List.mem_cons_of_mem p hq
  refine ⟨?_, ?_, ?_, fun place => (hrest.directory place).trans (hfirst.directory place)⟩
  · intro q hq
    rcases List.mem_cons.1 hq with rfl | hq
    · obtain ⟨content, old, new, hread, hold, hnew, hfile⟩ := hfirst.file q List.mem_cons_self
      exact ⟨content, old, new, hread, hold, hnew, (hrest.read_eq hapart.first_apart).2 hfile⟩
    · obtain ⟨content, old, new, hread, hold, hnew, hfile⟩ := hrest.file q hq
      exact ⟨content, old, new, (hfirst.read_eq (FilesApart.apart [p] hapart hq)).1 hread, hold,
        hnew, hfile⟩
  · intro q hq
    rcases List.mem_cons.1 hq with rfl | hq
    · -- two files may have the same temporary file
      by_cases hshared : ∃ r ∈ files,
          (temporary q).location current = (temporary r).location current
      · obtain ⟨r, hr, heq⟩ := hshared
        rw [heq]
        exact hrest.gone r hr
      · rw [hrest.elsewhere _ fun r hr => ⟨?_, fun heq => hshared ⟨r, hr, heq⟩⟩]
        · exact hfirst.gone q List.mem_cons_self
        · exact (hapart.noTemporary r (hothers r hr) q hmine).symm
    · exact hrest.gone q hq
  · intro place hplace
    rw [hrest.elsewhere place fun q hq => hplace q (hothers q hq),
      hfirst.elsewhere place fun q hq => hplace q (List.mem_singleton.1 hq ▸ hmine)]

theorem quiet_rewriteFiles (rules : List Rule) (files : List Path) :
    Quiet (rewriteFiles rules files) := by
  induction files with
  | nil => exact .pure _
  | cons p rest ih => exact (quiet_rewriteFile p rules).bind fun _ => ih.bind fun _ => .pure _

/-- Files in order are rewritten one after the other. -/
theorem gives_rewriteFiles_cons {changed : List Path} :
    Gives (rewriteFiles rules (p :: files)) host changed after ↔
      ∃ changes middle more, Gives (rewriteFile p rules) host changes middle ∧
        Gives (rewriteFiles rules files) middle more after ∧
        (if changes then p :: more else more) = changed := by
  rw [rewriteFiles, gives_bind]
  constructor
  · rintro ⟨changes, middle, hfirst, h⟩
    obtain ⟨more, _, hrest, hlast⟩ := gives_bind.1 h
    obtain ⟨hchanged, rfl⟩ := gives_pure.1 hlast
    exact ⟨changes, middle, more, hfirst, hrest, hchanged⟩
  · rintro ⟨changes, middle, more, hfirst, hrest, hchanged⟩
    exact ⟨changes, middle, hfirst, gives_bind.2 ⟨more, after, hrest,
      gives_pure.2 ⟨hchanged, rfl⟩⟩⟩

/-- Files that are apart are rewritten each by itself, and those are told that change. -/
theorem rewritten_rewriteFiles {files : List Path} :
    ∀ {host : Host} {changed : List Path}, FilesApart host.current files →
      Gives (rewriteFiles rules files) host changed after →
      Rewritten rules host.current files host.tree after.tree ∧ changed.Sublist files ∧
        ∀ p ∈ files, p ∈ changed ↔ Changes rules host.current host.tree p := by
  induction files with
  | nil =>
    intro host changed _ h
    obtain ⟨rfl, rfl⟩ := gives_pure.1 h
    exact ⟨⟨by simp, by simp, fun _ _ => rfl, fun _ => Iff.rfl⟩, .slnil, by simp⟩
  | cons p rest ih =>
    intro host changed hapart h
    obtain ⟨changes, middle, more, hfirst, hrest, rfl⟩ := gives_rewriteFiles_cons.1 h
    obtain ⟨hone, hchanges⟩ := rewritten_rewriteFile hfirst
    have hcurrent := (quiet_rewriteFile p rules).current hfirst
    have hapartRest := hapart.sublist (List.sublist_cons_self p rest)
    obtain ⟨hothers, hsublist, hmem⟩ := ih (hcurrent ▸ hapartRest) hrest
    rw [hcurrent] at hothers hmem
    refine ⟨hone.cons hapart hothers, ?_, ?_⟩
    · split
      · exact hsublist.cons_cons p
      · exact hsublist.cons p
    · intro q hq
      have hp : p ∉ rest := fun hp => (hapart.first_apart p hp).1 rfl
      rcases List.mem_cons.1 hq with rfl | hq
      · rw [← hchanges]
        split
        · rename_i hyes
          exact iff_of_true List.mem_cons_self hyes
        · rename_i hno
          exact iff_of_false (fun hmore => hp (hsublist.subset hmore)) hno
      · have hne : q ≠ p := fun heq => hp (heq ▸ hq)
        have hsame : Changes rules host.current middle.tree q ↔
            Changes rules host.current host.tree q := by
          unfold Changes
          simp only [hone.read_eq (FilesApart.apart [p] hapart hq)]
        rw [← hsame, ← hmem q hq]
        split
        · rw [List.mem_cons, or_iff_right hne]
        · rfl

end ProtoRefresh.Rewrite
