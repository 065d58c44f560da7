-- The rewriting of one file is whole, or the file keeps its text. Where the
-- file cannot be read as a text, or a directory is where its temporary file
-- comes, the host stays as it is. A new text with a half of a pair is found
-- out when the temporary file is open, and that file stays behind, empty.
-- In every other case the file has its new text, the temporary file is gone
-- and nothing else has changed.
import ProtoRefresh.Proofs.Rewrite.InOrder
import ProtoRefresh.Rewrite.Marker

namespace ProtoRefresh.Rewrite

open FileTree ProtoRefresh.Action Text

variable {host after : Host} {tree : FileTree} {current : Location} {p : Path} {rules : List Rule}
  {failure : Failure}

/-! ## Files that are refused -/

/-- Why a file is not rewritten. -/
inductive Refused (host : Host) (p : Path) : Failure → Prop
  /-- A path with the character that ends paths is the path of no file. -/
  | ended (h : isEnded p = true) : Refused host p (.endedPath .opening)
  | missing {error : FileError} (hopen : isEnded p = false)
      (h : host.tree.stat host.current p = .error error) : Refused host p (.file error p.text)
  | directory (hopen : isEnded p = false) (h : host.tree.isDirectory host.current p = true) :
      Refused host p (.file .isDirectory p.text)
  | noText {content : Content} {fault : Text.Utf8Fault} (hopen : isEnded p = false)
      (hread : host.tree.read host.current p = .ok content)
      (h : Text.decodeUtf8 content = .error fault) :
      Refused host p (.document (.undecodable fault))
  /-- A directory is where the temporary file comes. -/
  | blocked {text : String} (hopen : isEnded p = false) (htext : host.HoldsText p text)
      (h : host.tree.isDirectory host.current (temporary p) = true) :
      Refused host p (.file .isDirectory (temporary p).text)

theorem write_of_isDirectory (h : tree.isDirectory current p = true) (content : Content) :
    tree.write current p content = .error .isDirectory := by
  obtain ⟨hwalks, hdir⟩ := isDirectory_iff.1 h
  unfold FileTree.write placeForFile
  rw [locate_eq_ok_iff.2 ⟨hwalks, rfl⟩]
  dsimp only [bind, Except.bind]
  rw [hdir]
  rfl

/-- What refuses a file is what the rewriting fails with, before anything has changed. -/
theorem Refused.ends (h : Refused host p failure) (rules : List Rule) :
    Ends (rewriteFile p rules) host (.error failure) host := by
  have hunread : ∀ {error : FileError}, isEnded p = false →
      host.tree.read host.current p = .error error →
      Ends (rewriteFile p rules) host (.error (.file error p.text)) host := by
    intro error hopen hread
    refine ends_bind.2 (Or.inl ⟨_, ends_bind.2 (Or.inl ⟨_, ?_, rfl⟩), rfl⟩)
    exact ends_readFile_of_error hopen hread
  cases h with
  | ended h =>
    have hread : Ends (readFile p) host (.error (.endedPath .opening)) host := by
      unfold readFile
      exact ends_guard.2 (Or.inl ⟨h, rfl, rfl⟩)
    exact ends_bind.2 (Or.inl ⟨_, ends_bind.2 (Or.inl ⟨_, hread, rfl⟩), rfl⟩)
  | missing hopen h =>
    apply hunread hopen
    unfold FileTree.read
    rw [h]
    rfl
  | directory hopen h =>
    apply hunread hopen
    unfold FileTree.read
    rw [stat_eq_ok_iff.2 (isDirectory_iff.1 h)]
    rfl
  | noText hopen hread h =>
    exact ends_bind.2 (Or.inl ⟨_, ends_readText_of_error hopen hread h, rfl⟩)
  | blocked hopen htext h =>
    have hread := gives_readText.2 ⟨hopen, htext, rfl⟩
    refine (ends_bind_of_gives hread).2 (ends_bind.2 (Or.inl ⟨_, ?_, rfl⟩))
    exact ends_writeText_of_refused fun content => write_of_isDirectory h content

/-- What refuses a file is in the way of its rewriting, or the file holds no text. -/
theorem Refused.not_ready (h : Refused host p failure) (hready : Ready host.current host.tree p)
    {text : String} (htext : host.HoldsText p text) : False := by
  obtain ⟨content, hread, hdecode⟩ := htext
  have hthere := (read_eq_ok_iff.1 hread)
  cases h with
  | ended h => exact Bool.false_ne_true (hready.isOpen.symm.trans h)
  | missing _ h => cases h.symm.trans (stat_eq_ok_iff.2 hthere)
  | directory _ h => cases (isDirectory_iff.1 h).2.symm.trans hthere.2
  | noText _ hother h =>
    cases hread.symm.trans hother
    cases hdecode.symm.trans h
  | blocked _ _ h => exact Bool.false_ne_true (hready.noDirectory.symm.trans h)

/-! ## One file or none -/

/-- A path with a name is refused, or leads to a text that can be rewritten. -/
theorem refused_or_ready (host : Host) (hnamed : p.parts ≠ []) :
    (∃ failure, Refused host p failure) ∨
      Ready host.current host.tree p ∧ ∃ text, host.HoldsText p text := by
  cases hopen : isEnded p with
  | true => exact Or.inl ⟨_, .ended hopen⟩
  | false =>
    cases hstat : host.tree.stat host.current p with
    | error error => exact Or.inl ⟨_, .missing hopen hstat⟩
    | ok entry =>
      cases entry with
      | directory =>
        exact Or.inl ⟨_, .directory hopen (isDirectory_iff.2 (stat_eq_ok_iff.1 hstat))⟩
      | file content =>
        have hread := read_eq_ok_iff.2 (stat_eq_ok_iff.1 hstat)
        cases hdecode : Text.decodeUtf8 content with
        | error fault => exact Or.inl ⟨_, .noText hopen hread hdecode⟩
        | ok text =>
          cases hdir : host.tree.isDirectory host.current (temporary p) with
          | true => exact Or.inl ⟨_, .blocked hopen ⟨content, hread, hdecode⟩ hdir⟩
          | false =>
            exact Or.inr ⟨⟨hnamed, hopen, isFile_iff.2 ⟨content, hread⟩, hdir⟩,
              text, content, hread, hdecode⟩

/-- A file with a text is rewritable or spoilt. -/
theorem rewritable_or_spoilt (rules : List Rule) {text : String} (htext : host.HoldsText p text) :
    Rewritable rules host p ∨ ∃ fault, Spoilt rules host p fault := by
  cases hnew : stringOf (rewriteText rules (points text)) with
  | ok new => exact Or.inl ⟨text, new, htext, stringOf_eq_ok_iff.1 hnew⟩
  | error fault => exact Or.inr ⟨fault, text, htext, hnew⟩

/-- The rewriting of a path with a name fails only if the file is refused, or spoilt. -/
theorem refused_or_spoilt_of_ends (hnamed : p.parts ≠ [])
    (h : Ends (rewriteFile p rules) host (.error failure) after) :
    Refused host p failure ∧ after = host ∨
      ∃ fault, failure = .unencodable fault ∧ Spoilt rules host p fault := by
  rcases refused_or_ready host hnamed with ⟨other, hrefused⟩ | ⟨hready, text, htext⟩
  · obtain ⟨hfailure, rfl⟩ := h.unique (hrefused.ends rules)
    cases hfailure
    exact Or.inl ⟨hrefused, rfl⟩
  · rcases rewritable_or_spoilt rules htext with hrewritable | ⟨fault, hspoilt⟩
    · obtain ⟨changed, left, hgives⟩ := hready.gives hrewritable
      cases (h.unique (ends_ok_iff.2 hgives)).1
    · obtain ⟨left, hends, _⟩ := hready.ends_of_spoilt hspoilt
      cases (h.unique hends).1
      exact Or.inr ⟨fault, rfl, hspoilt⟩

/-- A path without a name leads to no file. -/
theorem refused_of_parts_nil (hnil : p.parts = [])
    (hcurrent : ∀ content, host.tree.get? host.current ≠ some (.file content)) :
    ∃ failure, Refused host p failure := by
  have hopen : isEnded p = false := by
    unfold isEnded
    rw [hnil, List.any_nil]
  cases hstat : host.tree.stat host.current p with
  | error error => exact ⟨_, .missing hopen hstat⟩
  | ok entry =>
    cases entry with
    | directory => exact ⟨_, .directory hopen (isDirectory_iff.2 (stat_eq_ok_iff.1 hstat))⟩
    | file content =>
      have hfile := (stat_eq_ok_iff.1 hstat).2
      rw [Path.location_eq, hnil, List.foldl_nil] at hfile
      split at hfile
      · cases hfile
      · exact absurd hfile (hcurrent content)

/-- What the rewriting of a file that is ready gives. -/
theorem Ready.rewritten (hready : Ready host.current host.tree p) {content : Content}
    {old new : String} (hread : host.tree.read host.current p = .ok content)
    (hold : Text.decodeUtf8 content = .ok old)
    (hnew : rewriteText rules (points old) = points new) :
    ∃ changed after, Gives (rewriteFile p rules) host changed after ∧
      after.tree.read host.current p = .ok (encode new) ∧
      after.tree.pathExists host.current (temporary p) = false ∧
      (∀ place, place ≠ p.location host.current →
        place ≠ (temporary p).location host.current →
          after.tree.get? place = host.tree.get? place) ∧
      (changed = true ↔ encode new ≠ content) := by
  obtain ⟨changed, after, hgives⟩ := hready.gives ⟨old, new, ⟨content, hread, hold⟩, hnew⟩
  obtain ⟨_, _, text, hread', hold', htext, hchanged, _⟩ := get?_of_rewriteFile hgives
  obtain ⟨hrewritten, _⟩ := rewritten_rewriteFile hgives
  cases hread.symm.trans hread'
  cases hold.symm.trans hold'
  obtain rfl := points_inj.1 (hnew.symm.trans htext)
  refine ⟨changed, after, hgives, ?_, ?_, fun place hfile htemporary => ?_, ?_⟩
  · obtain ⟨_, _, other, hread', hold', hother, hfile⟩ := hrewritten.file p List.mem_cons_self
    cases hread.symm.trans hread'
    cases hold.symm.trans hold'
    rwa [← points_inj.1 (hnew.symm.trans hother)] at hfile
  · rw [Bool.eq_false_iff, ne_eq, FileTree.pathExists_iff, hrewritten.gone p List.mem_cons_self]
    exact fun hsome => Bool.false_ne_true hsome.2
  · exact hrewritten.elsewhere place fun q hq => List.mem_singleton.1 hq ▸ ⟨hfile, htemporary⟩
  · -- a text and its bytes determine each other
    rw [hchanged, bne_iff_ne, ne_eq, ne_eq, not_iff_not]
    constructor
    · intro hsame
      rw [hsame, encode_of_decodeUtf8 hold]
    · intro hsame
      have hdecoded := decodeUtf8_encode new
      rw [hsame, hold] at hdecoded
      exact (Except.ok.inj hdecoded).symm

/-- A file is refused and all stays as it is; or its new text has a half of a pair, and all stays as
it is but for the temporary file, which is empty; or the file has its new text, its temporary file
is gone and all else stays as it is. -/
theorem a_file_is_rewritten_whole_or_keeps_its_text (p : Path) (rules : List Rule)
    (hcurrent : ∀ content, host.tree.get? host.current ≠ some (.file content)) :
    (∃ failure, Refused host p failure ∧ Ends (rewriteFile p rules) host (.error failure) host) ∨
      (∀ failure, ¬ Refused host p failure) ∧ ∃ content old,
        host.tree.read host.current p = .ok content ∧ Text.decodeUtf8 content = .ok old ∧
        ((∃ fault after, stringOf (rewriteText rules (points old)) = .error fault ∧
            Ends (rewriteFile p rules) host (.error (.unencodable fault)) after ∧
            LeavesEmpty ((temporary p).location host.current) host.tree after.tree) ∨
          ∃ new changed after, rewriteText rules (points old) = points new ∧
            Gives (rewriteFile p rules) host changed after ∧
            after.tree.read host.current p = .ok (encode new) ∧
            after.tree.pathExists host.current (temporary p) = false ∧
            (∀ place, place ≠ p.location host.current →
              place ≠ (temporary p).location host.current →
                after.tree.get? place = host.tree.get? place) ∧
            (changed = true ↔ encode new ≠ content)) := by
  have hcases : (∃ failure, Refused host p failure) ∨
      Ready host.current host.tree p ∧ ∃ text, host.HoldsText p text := by
    by_cases hnil : p.parts = []
    · exact Or.inl (refused_of_parts_nil hnil hcurrent)
    · exact refused_or_ready host hnil
  rcases hcases with ⟨failure, hrefused⟩ | ⟨hready, old, content, hread, hold⟩
  · exact Or.inl ⟨failure, hrefused, hrefused.ends rules⟩
  · refine Or.inr ⟨fun failure hrefused => ?_, content, old, hread, hold, ?_⟩
    · exact hrefused.not_ready hready ⟨content, hread, hold⟩
    · cases hnew : stringOf (rewriteText rules (points old)) with
      | error fault =>
        obtain ⟨after, hends, _, hempty⟩ :=
          hready.ends_of_spoilt ⟨old, ⟨content, hread, hold⟩, hnew⟩
        exact Or.inl ⟨fault, after, rfl, hends, hempty⟩
      | ok new =>
        have hpoints := stringOf_eq_ok_iff.1 hnew
        obtain ⟨changed, after, hafter⟩ := hready.rewritten hread hold hpoints
        exact Or.inr ⟨new, changed, after, hpoints, hafter⟩

/-- A file with a byte order mark, line ends of several kinds and a marker, and an old temporary
file beside it. -/
def mixedLinesHost : Host where
  tree := (FileTree.empty.withFile ["src", "a.rs"] (encode
    "\ufeffa\r\n// @@protoc_insertion_point(message:a)\r\nb\rc\u2028\r\r\nd")).withFile
    ["src", "a.rs.tmp"] [0xff]
  current := ["src"]
  scratch := Path.here
  responses := []
  calls := []
  log := []

theorem a_file_with_mixed_lines_is_rewritten_whole :
    (∀ content, mixedLinesHost.tree.get? mixedLinesHost.current ≠ some (.file content)) ∧
      ∃ after, Gives (rewriteFile ⟨0, ["a.rs"]⟩ serdeRules) mixedLinesHost true after ∧
        after.tree.read ["src"] ⟨0, ["a.rs"]⟩ = .ok (encode
          ("\ufeffa\r\n" ++ serdeDerive ++ "\r\nb\rc\u2028\r\r\nd")) ∧
        after.tree.pathExists ["src"] ⟨0, ["a.rs.tmp"]⟩ = false := by
  have hcurrent : ∀ content,
      mixedLinesHost.tree.get? mixedLinesHost.current ≠ some (.file content) := by
    have hdir : mixedLinesHost.tree.get? mixedLinesHost.current = some .directory := by
      decide +kernel
    rw [hdir]
    exact nofun
  have hgives : Gives (rewriteFile ⟨0, ["a.rs"]⟩ serdeRules) mixedLinesHost true _ :=
    gives_of_toOption (by decide +kernel)
  have htext : mixedLinesHost.tree.read ["src"] ⟨0, ["a.rs"]⟩ = .ok (encode
      "\ufeffa\r\n// @@protoc_insertion_point(message:a)\r\nb\rc\u2028\r\r\nd") :=
    eq_ok_of_toOption (by decide +kernel)
  have hnewText : rewriteText serdeRules
      (points "\ufeffa\r\n// @@protoc_insertion_point(message:a)\r\nb\rc\u2028\r\r\nd") =
        points ("\ufeffa\r\n" ++ serdeDerive ++ "\r\nb\rc\u2028\r\r\nd") := by
    decide +kernel
  refine ⟨hcurrent, ?_⟩
  rcases a_file_is_rewritten_whole_or_keeps_its_text ⟨0, ["a.rs"]⟩ serdeRules hcurrent with
    ⟨failure, _, hends⟩ | ⟨_, content, old, hread, hold, hspoilt | hwhole⟩
  · cases (hends.unique (ends_ok_iff.2 hgives)).1
  · obtain ⟨fault, after, _, hends, _⟩ := hspoilt
    cases (hends.unique (ends_ok_iff.2 hgives)).1
  · obtain ⟨new, changed, after, hnew, hrun, hfile, hgone, _⟩ := hwhole
    obtain ⟨rfl, rfl⟩ := hgives.unique hrun
    obtain rfl := Except.ok.inj (htext.symm.trans hread)
    obtain rfl := Except.ok.inj ((decodeUtf8_encode _).symm.trans hold)
    obtain rfl := points_inj.1 (hnewText.symm.trans hnew)
    exact ⟨_, hrun, hfile, hgone⟩

/-- The rewriting of a file can fail and yet not leave the files as they were. -/
theorem a_half_of_a_pair_leaves_a_temporary_file :
    oneTextHost.tree.pathExists [] ⟨0, ["src", "a.rs.tmp"]⟩ = false ∧
      ∃ after, Ends (rewriteFile ⟨0, ["src", "a.rs"]⟩ [halvingRule]) oneTextHost
          (.error (.unencodable ⟨0, [0]⟩)) after ∧
        after.tree.read [] ⟨0, ["src", "a.rs.tmp"]⟩ = .ok [] := by
  have hrun := ends_run (rewriteFile ⟨0, ["src", "a.rs"]⟩ [halvingRule]) oneTextHost
  have hresult : (((rewriteFile ⟨0, ["src", "a.rs"]⟩ [halvingRule]).run).run oneTextHost).1 =
      .error (.unencodable ⟨0, [0]⟩) := eq_error_of_match (by decide +kernel)
  rw [hresult] at hrun
  exact ⟨by decide +kernel, _, hrun, eq_ok_of_toOption (by decide +kernel)⟩

end ProtoRefresh.Rewrite
