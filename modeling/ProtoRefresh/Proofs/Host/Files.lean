-- What the actions on files need and leave behind when they end well. Each
-- of them changes nothing of the host but its tree.
import ProtoRefresh.Proofs.FileTree.Changes

namespace ProtoRefresh

open FileTree

/-! ## Well-formed hosts -/

/-- The tree of a host is well formed, and what the host runs in is no file. -/
structure Host.WellFormed (host : Host) : Prop where
  tree : host.tree.WellFormed
  current : ∀ content, host.tree.get? host.current ≠ some (.file content)

/-- A file has a proper name, unless its path is the one of a current directory that is none. -/
theorem FileTree.WellFormed.isName_of_read {tree : FileTree} (h : tree.WellFormed)
    {current : Location} {p : Path} {content : Content}
    (hread : tree.read current p = .ok content)
    (hhere : p = Path.here → ∀ content, tree.get? current ≠ some (.file content)) :
    IsName p.name := by
  obtain ⟨hwalks, hfile⟩ := read_eq_ok_iff.1 hread
  obtain ⟨slashes, parts⟩ := p
  rcases List.eq_nil_or_concat' parts with rfl | ⟨before, part, rfl⟩
  · rw [Path.location_eq, List.foldl_nil] at hfile
    split at hfile
    · rw [get?_nil] at hfile
      cases hfile
    · rename_i hrelative
      have hslashes : slashes = 0 := by simpa [Path.isAbsolute] using hrelative
      exact absurd hfile (hhere (by rw [hslashes]; rfl) content)
  · obtain ⟨_, hdir⟩ := walks_snoc.1 hwalks
    rw [Path.location_snoc, Location.after] at hfile
    split at hfile
    · -- above a directory there is no file
      rcases List.eq_nil_or_concat' ((⟨slashes, before⟩ : Path).location current) with
        hnil | ⟨above, name, habove⟩
      · rw [hnil, List.dropLast_nil, get?_nil] at hfile
        cases hfile
      · rw [habove] at hdir
        rw [habove, List.dropLast_concat, h.parent above name (by rw [hdir]; rfl)] at hfile
        cases hfile
    · rw [Path.name, List.getLast?_concat, Option.getD_some]
      exact h.isName _ part (by rw [hfile]; rfl)

/-- A path leads to a file that holds a text. -/
def Host.HoldsText (host : Host) (p : Path) (text : String) : Prop :=
  ∃ content, host.tree.read host.current p = .ok content ∧ Text.decodeUtf8 content = .ok text

/-! ## Names that can be opened -/

/-- No name in a tree holds the character that ends paths. -/
def FileTree.NamesOpen (tree : FileTree) : Prop :=
  ∀ entry ∈ tree.entries, ∀ name ∈ entry.1, '\x00' ∉ name.toList

instance (tree : FileTree) : Decidable tree.NamesOpen :=
  inferInstanceAs (Decidable (∀ entry ∈ tree.entries, ∀ name ∈ entry.1, '\x00' ∉ name.toList))

/-- A path that leads to something holds no such character. -/
theorem FileTree.NamesOpen.isEnded_of_walks {tree : FileTree} (h : tree.NamesOpen)
    {current : Location} {p : Path} (hwalks : tree.Walks current p)
    (hs : (tree.get? (p.location current)).isSome) : Action.isEnded p = false := by
  unfold Action.isEnded
  rw [List.any_eq_false]
  intro part hpart
  rw [List.contains_iff_mem]
  obtain ⟨slashes, parts⟩ := p
  obtain ⟨before, rest, rfl⟩ := List.append_of_mem hpart
  -- what the path leads to up to this part is there
  have hthere : (tree.get? ((⟨slashes, before ++ [part]⟩ : Path).location current)).isSome := by
    cases rest with
    | nil => exact hs
    | cons next rest =>
      rw [hwalks (before ++ [part]) next ⟨rest, by simp⟩]
      rfl
  by_cases hback : part = ".."
  · rw [hback]
    decide
  · rw [Path.location_snoc, Location.after, if_neg hback] at hthere
    obtain ⟨entry, hentry⟩ := Option.isSome_iff_exists.1 hthere
    exact h _ ((tree.mem_entries_iff (by simp) entry).2 hentry) part (by simp)

/-- A path to a file can be opened. -/
theorem FileTree.NamesOpen.isEnded_of_read {tree : FileTree} (h : tree.NamesOpen)
    {current : Location} {p : Path} {content : Content}
    (hread : tree.read current p = .ok content) : Action.isEnded p = false := by
  obtain ⟨hwalks, hget⟩ := read_eq_ok_iff.1 hread
  exact h.isEnded_of_walks hwalks (by rw [hget]; rfl)

namespace Action

variable {host after : Host}

/-! ## Looking -/

theorem gives_isFile {p : Path} {value : Bool} :
    Gives (isFile p) host value after ↔
      host.tree.isFile host.current p = value ∧ after = host := by
  unfold isFile
  exact gives_get_bind.trans gives_pure

theorem gives_isDirectory {p : Path} {value : Bool} :
    Gives (isDirectory p) host value after ↔
      host.tree.isDirectory host.current p = value ∧ after = host := by
  unfold isDirectory
  exact gives_get_bind.trans gives_pure

theorem gives_pathExists {p : Path} {value : Bool} :
    Gives (pathExists p) host value after ↔
      host.tree.pathExists host.current p = value ∧ after = host := by
  unfold pathExists
  exact gives_get_bind.trans gives_pure

theorem gives_readFile {p : Path} {content : Content} :
    Gives (readFile p) host content after ↔
      isEnded p = false ∧ host.tree.read host.current p = .ok content ∧ after = host := by
  unfold readFile
  dsimp only
  rw [gives_guard, gives_get_bind, Bool.not_eq_true]
  refine and_congr_right fun _ => ?_
  cases host.tree.read host.current p with
  | error e => simp
  | ok found => simp

theorem gives_decode {content : Content} {text : String} :
    Gives (decode content) host text after ↔
      Text.decodeUtf8 content = .ok text ∧ after = host := by
  unfold decode
  cases Text.decodeUtf8 content with
  | error fault => simp
  | ok found => simp

/-- A text is read where it is held, if the path can be opened. -/
theorem gives_readText {p : Path} {text : String} :
    Gives (readText p) host text after ↔
      isEnded p = false ∧ host.HoldsText p text ∧ after = host := by
  unfold readText
  rw [gives_bind]
  constructor
  · rintro ⟨content, _, hfile, hdecode⟩
    obtain ⟨hopen, hread, rfl⟩ := gives_readFile.1 hfile
    obtain ⟨htext, rfl⟩ := gives_decode.1 hdecode
    exact ⟨hopen, ⟨content, hread, htext⟩, rfl⟩
  · rintro ⟨hopen, ⟨content, hread, htext⟩, rfl⟩
    exact ⟨content, after, gives_readFile.2 ⟨hopen, hread, rfl⟩, gives_decode.2 ⟨htext, rfl⟩⟩

/-- A text is what its bytes encode. -/
theorem decodeUtf8_encode (s : String) : Text.decodeUtf8 (encode s) = .ok s := by
  have hfrom : String.fromUTF8? s.toUTF8 = some s := by
    unfold String.fromUTF8?
    exact dif_pos s.isValidUTF8
  unfold Text.decodeUtf8 encode
  rw [Array.toArray_toList, hfrom]

/-- Bytes are what the text that they hold encodes. -/
theorem encode_of_decodeUtf8 {content : Content} {text : String}
    (h : Text.decodeUtf8 content = .ok text) : encode text = content := by
  unfold Text.decodeUtf8 at h
  split at h
  · rename_i hfound
    cases h
    unfold String.fromUTF8? at hfound
    split at hfound
    · cases hfound
      rfl
    · cases hfound
  · cases h

theorem gives_log {level : Level} {message : String} {value : Unit} :
    Gives (log level message) host value after ↔
      after = { host with log := host.log ++ [⟨level, message⟩] } := by
  unfold log
  exact gives_modify

/-! ## Changing -/

theorem gives_setTree {tree : FileTree} {value : Unit} :
    Gives (setTree tree) host value after ↔ after = { host with tree := tree } := by
  unfold setTree
  exact gives_modify

theorem gives_change {p : Path} {f : FileTree → Location → Except FileError FileTree}
    {value : Unit} : Gives (change p f) host value after ↔
      ∃ tree, f host.tree host.current = .ok tree ∧ after = { host with tree := tree } := by
  unfold change
  rw [gives_get_bind]
  cases f host.tree host.current with
  | error e => simp
  | ok tree => simp [gives_setTree]

/-- A text is written if it holds no half of a pair. -/
theorem gives_writeText {p : Path} {text : List Text.CodePoint} {value : Unit} :
    Gives (writeText p text) host value after ↔ ∃ s tree, text = Text.points s ∧
      host.tree.write host.current p (encode s) = .ok tree ∧
      after = { host with tree := tree } := by
  unfold writeText
  cases hs : Text.stringOf text with
  | ok s =>
    obtain rfl := Text.stringOf_eq_ok_iff.1 hs
    dsimp only
    rw [writeFile, gives_change]
    constructor
    · exact fun ⟨tree, htree, hafter⟩ => ⟨s, tree, rfl, htree, hafter⟩
    · rintro ⟨other, tree, hother, htree, hafter⟩
      rw [← Text.points_inj.1 hother] at htree
      exact ⟨tree, htree, hafter⟩
  | error fault =>
    dsimp only
    constructor
    · intro h
      obtain ⟨_, _, _, hfail⟩ := gives_bind.1 h
      exact absurd hfail not_gives_fail
    · rintro ⟨s, _, hpoints, _⟩
      rw [Text.stringOf_eq_ok_iff.2 hpoints] at hs
      cases hs

/-- A file that is moved goes to a path, or into the directory that is there. -/
theorem gives_moveFile {source target : Path} {value : Unit}
    (h : Gives (moveFile source target) host value after) :
    isEnded source = false ∧ ∃ place tree, host.tree.rename host.current source place = .ok tree ∧
      after = { host with tree := tree } ∧
      if host.tree.isDirectory host.current target then place = target.child source.name
      else place = target ∧ isEnded target = false := by
  unfold moveFile at h
  obtain ⟨there, _, hdir, hmove⟩ := gives_bind.1 h
  obtain ⟨hthere, rfl⟩ := gives_isDirectory.1 hdir
  rw [hthere]
  split at hmove
  · rename_i hinto
    obtain ⟨taken, _, hexists, hrest⟩ := gives_bind.1 hmove
    obtain ⟨_, rfl⟩ := gives_pathExists.1 hexists
    obtain ⟨_, hrest⟩ := gives_guard.1 hrest
    obtain ⟨_, _, hread, hchange⟩ := gives_bind.1 hrest
    obtain ⟨hsource, _, rfl⟩ := gives_readFile.1 hread
    obtain ⟨tree, hrename, hafter⟩ := gives_change.1 hchange
    exact ⟨hsource, _, tree, hrename, hafter, by rw [if_pos hinto]⟩
  · rename_i hover
    obtain ⟨htarget, hmove⟩ := gives_guard.1 hmove
    obtain ⟨_, _, hread, hchange⟩ := gives_bind.1 hmove
    obtain ⟨hsource, _, rfl⟩ := gives_readFile.1 hread
    obtain ⟨tree, hrename, hafter⟩ := gives_change.1 hchange
    exact ⟨hsource, target, tree, hrename, hafter, by
      rw [if_neg hover]
      exact ⟨rfl, Bool.eq_false_iff.2 htarget⟩⟩

/-- A directory is new, or it is there and that will do. -/
inductive Arises (p : Path) (existOk : Bool) (host : Host) : Host → Prop
  | new {tree : FileTree} (h : host.tree.makeDirectory host.current p = .ok tree) :
      Arises p existOk host { host with tree := tree }
  | there (hok : existOk = true) (h : host.tree.isDirectory host.current p = true) :
      Arises p existOk host host

/-- What has to be there after a directory could not be made. -/
theorem gives_there {p : Path} {e : FileError} {existOk : Bool} {value : Unit}
    (h : Gives (if (existOk && host.tree.isDirectory host.current p) = true then pure ()
      else fail (.file e p.text)) host value after) : Arises p existOk host after := by
  split at h
  · rename_i hthere
    rw [Bool.and_eq_true] at hthere
    rw [(gives_pure.1 h).2]
    exact .there hthere.1 hthere.2
  · exact absurd h not_gives_fail

/-- A directory arises at once, or after the one above it. -/
theorem gives_makeDirectories_cases {fuel : Nat} {p : Path} {existOk : Bool} {value : Unit}
    (h : Gives (makeDirectories fuel p existOk) host value after) : isEnded p = false ∧
      (Arises p existOk host after ∨ ∃ n middle, fuel = n + 1 ∧
        Gives (makeDirectories n p.parent true) host () middle ∧
        Arises p existOk middle after) := by
  cases fuel with
  | zero =>
    unfold makeDirectories at h
    obtain ⟨hopen, hmake⟩ := gives_guard.1 h
    rw [gives_get_bind] at hmake
    refine ⟨Bool.eq_false_iff.2 hopen, Or.inl ?_⟩
    cases hm : host.tree.makeDirectory host.current p with
    | ok tree =>
      rw [hm] at hmake
      rw [gives_setTree.1 hmake]
      exact .new hm
    | error e =>
      rw [hm] at hmake
      cases e with
      | notFound => exact absurd hmake not_gives_fail
      | _ => exact gives_there hmake
  | succ n =>
    unfold makeDirectories at h
    obtain ⟨hopen, hmake⟩ := gives_guard.1 h
    rw [gives_get_bind] at hmake
    refine ⟨Bool.eq_false_iff.2 hopen, ?_⟩
    cases hm : host.tree.makeDirectory host.current p with
    | ok tree =>
      rw [hm] at hmake
      rw [gives_setTree.1 hmake]
      exact Or.inl (.new hm)
    | error e =>
      rw [hm] at hmake
      cases e with
      | notFound =>
        obtain ⟨_, middle, habove, hrest⟩ := gives_bind.1 hmake
        rw [gives_get_bind] at hrest
        refine Or.inr ⟨n, middle, rfl, habove, ?_⟩
        cases hm' : middle.tree.makeDirectory middle.current p with
        | ok tree =>
          rw [hm'] at hrest
          rw [gives_setTree.1 hrest]
          exact .new hm'
        | error e =>
          rw [hm'] at hrest
          exact gives_there hrest
      | _ => exact Or.inl (gives_there hmake)

theorem Arises.makes {p : Path} {existOk : Bool} (h : Arises p existOk host after) :
    Makes host.current p host.tree after.tree ∧ after = { host with tree := after.tree } := by
  cases h with
  | new h => exact ⟨.made h, rfl⟩
  | there _ h => exact ⟨.there h, rfl⟩

/-- Directories are made one after the other from above. -/
theorem gives_makeDirectories {fuel : Nat} {p : Path} {existOk : Bool} {value : Unit}
    (h : Gives (makeDirectories fuel p existOk) host value after) :
    ∃ tree, Makes host.current p host.tree tree ∧ after = { host with tree := tree } := by
  induction fuel generalizing p existOk host after with
  | zero =>
    obtain ⟨_, harises | ⟨_, _, hfuel, _⟩⟩ := gives_makeDirectories_cases h
    · exact ⟨_, harises.makes⟩
    · cases hfuel
  | succ fuel ih =>
    obtain ⟨_, harises | ⟨_, middle, hfuel, habove, harises⟩⟩ := gives_makeDirectories_cases h
    · exact ⟨_, harises.makes⟩
    · cases hfuel
      obtain ⟨tree, hfirst, rfl⟩ := ih habove
      obtain ⟨hrest, hafter⟩ := harises.makes
      exact ⟨_, .above hfirst hrest, hafter⟩

end Action

end ProtoRefresh
