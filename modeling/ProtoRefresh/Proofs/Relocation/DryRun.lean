-- A dry run of a relocation. It only looks, and it assigns each file to the
-- first entry of the moves that finds it: an entry finds the file that it
-- names, or those that its pattern leads to. Where an entry is left without
-- a file there are no placements. Files are told apart by their paths, so a
-- file that is found under two paths gets two placements. No file is, where
-- no entry is absolute or steps back.
import Mathlib.Data.List.Forall2
import Mathlib.Data.Nat.Find
import ProtoRefresh.Proofs.Glob.Found
import ProtoRefresh.Proofs.Host.Looking
import ProtoRefresh.Proofs.Relocation.Steps

namespace ProtoRefresh

namespace Relocation

open FileTree ProtoRefresh.Action

variable {start host after : Host} {directory root p : Path} {source : Source}

/-! ## Looking -/

theorem looks_expand (directory : Path) (pattern : String) (claimed : List Path) :
    Looks (expand directory pattern claimed) := by
  unfold expand
  split
  · exact (Glob.looks_search directory pattern).bind fun found => .guard (.pure _)
  · exact .guard ((looks_isFile _).bind fun there => .guard (.pure _))

theorem looks_differs (target p : Path) : Looks (differs target p) := by
  have hchecksum : ∀ q, Looks (fileChecksum q) := fun q => (looks_readFile q).bind fun _ => .pure _
  refine (looks_isFile target).bind fun there => ?_
  split
  · exact (hchecksum target).bind fun _ => (hchecksum p).bind fun _ => .pure _
  · exact .pure _

theorem looks_place (root : Path) (source : Source) (p : Path) :
    Looks (place root true source p) :=
  (looks_differs _ p).bind fun _ => (looks_log _ _).bind fun _ => .pure _

theorem looks_placeSources (directory root : Path) (sources : List Source) :
    ∀ claimed, Looks (placeSources directory root true sources claimed) := by
  induction sources with
  | nil => exact fun _ => .pure _
  | cons source rest ih =>
    intro claimed
    refine (looks_expand directory source.pattern claimed).bind fun found => ?_
    refine (Leads.mapM (looks_place root source) found).bind fun placed => ?_
    exact (ih _).bind fun _ => .pure _

/-- A dry run only looks. -/
theorem looks_relocate (directory root : Path) (moves : List Move) :
    Looks (relocate directory root moves true) := looks_placeSources directory root _ []

/-! ## One entry -/

/-- The pattern of a source, if it is one, can be searched for. -/
def Source.Searchable (source : Source) : Prop :=
  Glob.isPattern source.pattern = true → ∃ query, Glob.Query.ofText source.pattern = .ok query

instance (source : Source) : Decidable source.Searchable :=
  decidable_of_iff (Glob.isPattern source.pattern = true →
      (Glob.Query.ofText source.pattern).toOption.isSome = true) <| by
    refine imp_congr_right fun _ => ?_
    cases Glob.Query.ofText source.pattern with
    | error fault => simp [Except.toOption]
    | ok query => simp [Except.toOption]

theorem Source.finds_of_pattern (source : Source) {query : Glob.Query}
    (hpattern : Glob.isPattern source.pattern = true)
    (hquery : Glob.Query.ofText source.pattern = .ok query) :
    source.Finds host directory p ↔ p ∈ query.files host.tree host.current directory := by
  unfold Finds
  rw [if_pos hpattern]
  constructor
  · rintro ⟨other, hother, hp⟩
    cases hquery.symm.trans hother
    exact hp
  · exact fun hp => ⟨query, hquery, hp⟩

theorem Source.finds_of_name (source : Source)
    (hname : Glob.isPattern source.pattern = false) :
    source.Finds host directory p ↔
      p = directory.joinText source.pattern ∧ host.tree.isFile host.current p = true := by
  unfold Finds
  rw [hname, if_neg Bool.false_ne_true]

/-- A source gets in order what it finds and no source before it has got, or it fails because there
is nothing. -/
def Source.Expands (source : Source) (directory : Path) (host : Host) (claimed : List Path) : Prop :=
  (∃ found, Gives (expand directory source.pattern claimed) host found host ∧ found ≠ [] ∧
    found.Pairwise (fun p q => p.key < q.key) ∧
    ∀ p, p ∈ found ↔ source.Finds host directory p ∧ p ∉ claimed) ∨
  ∃ fault, Ends (expand directory source.pattern claimed) host (.error (.placement fault)) host ∧
    ∀ p, source.Finds host directory p → p ∈ claimed

theorem expands_of_pattern {query : Glob.Query} (hpattern : Glob.isPattern source.pattern = true)
    (hquery : Glob.Query.ofText source.pattern = .ok query) (directory : Path) (host : Host)
    (claimed : List Path) : source.Expands directory host claimed := by
  unfold Source.Expands
  simp only [source.finds_of_pattern hpattern hquery]
  by_cases hnone : (query.files host.tree host.current directory).filter
      (fun p => !claimed.contains p) = []
  · refine Or.inr ⟨.noMatch source.pattern directory, ?_, fun p hp => ?_⟩
    · unfold expand
      rw [if_pos hpattern, ends_bind_of_gives (gives_search.2 ⟨query, hquery, rfl, rfl⟩)]
      exact ends_guard.2 (Or.inl ⟨by rw [hnone]; rfl, rfl, rfl⟩)
    · simpa using List.filter_eq_nil_iff.1 hnone p hp
  · refine Or.inl ⟨_, gives_expand.2 ⟨rfl, ?_⟩, hnone, (query.files_sorted directory).filter _,
      fun p => ?_⟩
    · rw [if_pos hpattern]
      exact ⟨query, hquery, rfl, hnone⟩
    · simp [List.mem_filter]

theorem expands_of_name (hname : Glob.isPattern source.pattern = false) (directory : Path)
    (host : Host) (claimed : List Path) : source.Expands directory host claimed := by
  unfold Source.Expands
  simp only [source.finds_of_name hname]
  have hpattern := Bool.eq_false_iff.1 hname
  by_cases hgets : directory.joinText source.pattern ∉ claimed ∧
      host.tree.isFile host.current (directory.joinText source.pattern) = true
  · refine Or.inl ⟨[directory.joinText source.pattern], gives_expand.2 ⟨rfl, ?_⟩,
      List.cons_ne_nil _ _, List.pairwise_singleton _ _, fun p => ?_⟩
    · rw [if_neg hpattern]
      exact ⟨rfl, hgets⟩
    · rw [List.mem_singleton]
      constructor
      · rintro rfl
        exact ⟨⟨rfl, hgets.2⟩, hgets.1⟩
      · exact fun hp => hp.1.1
  · refine Or.inr ⟨.noFile source.pattern directory, ?_, ?_⟩
    · unfold expand
      rw [if_neg hpattern, ends_guard]
      by_cases hclaimed : claimed.contains (directory.joinText source.pattern) = true
      · exact Or.inl ⟨hclaimed, rfl, rfl⟩
      · have hfile : (!host.tree.isFile host.current (directory.joinText source.pattern)) =
            true := by
          rw [List.contains_iff_mem] at hclaimed
          simpa [hclaimed] using hgets
        refine Or.inr ⟨hclaimed, ?_⟩
        rw [ends_bind_of_gives (gives_isFile.2 ⟨rfl, rfl⟩), ends_guard]
        exact Or.inl ⟨hfile, rfl, rfl⟩
    · rintro p ⟨rfl, hfile⟩
      by_contra hfresh
      exact hgets ⟨hfresh, hfile⟩

theorem Source.Searchable.expands (h : source.Searchable) (directory : Path) (host : Host)
    (claimed : List Path) : source.Expands directory host claimed := by
  by_cases hpattern : Glob.isPattern source.pattern = true
  · obtain ⟨query, hquery⟩ := h hpattern
    exact expands_of_pattern hpattern hquery directory host claimed
  · exact expands_of_name (Bool.eq_false_iff.2 hpattern) directory host claimed

/-- In a dry run a file can always be placed. -/
theorem gives_place_of_isFile (hnames : host.tree.NamesOpen) (root : Path) (source : Source)
    (hfile : host.tree.isFile host.current p = true) :
    ∃ placement left, Gives (place root true source p) host placement left ∧
      placement.destination = source.target root p ∧ placement.Tells host p := by
  have hopen : ∀ {q : Path}, host.tree.isFile host.current q = true →
      ∃ content, isEnded q = false ∧ host.tree.read host.current q = .ok content := by
    intro q hq
    obtain ⟨content, hread⟩ := isFile_iff.1 hq
    exact ⟨content, hnames.isEnded_of_read hread, hread⟩
  have hdiffers : ∃ changed, Gives (differs (source.target root p) p) host changed host := by
    simp only [gives_differs, true_and]
    split
    · rename_i htarget
      obtain ⟨old, hended, hold⟩ := hopen htarget
      obtain ⟨new, hended', hnew⟩ := hopen hfile
      exact ⟨_, hended, hended', old, new, hold, hnew, rfl⟩
    · exact ⟨true, rfl⟩
  obtain ⟨changed, hdiffers⟩ := hdiffers
  exact ⟨_, _, gives_place_dry.2 ⟨changed, hdiffers, rfl, rfl⟩, rfl, rfl,
    eq_false_iff_of_gives_differs hdiffers⟩

/-- In a dry run files can be placed one after the other. -/
theorem gives_placeFiles (hnames : start.tree.NamesOpen) (root : Path) (source : Source)
    {found : List Path} (hfiles : ∀ p ∈ found, start.tree.isFile start.current p = true) :
    ∀ log, ∃ placed left,
      Gives (found.mapM (place root true source)) { start with log := log } placed left ∧
        List.Forall₂ (fun p placement => placement.destination = source.target root p ∧
          placement.Tells start p) found placed := by
  induction found with
  | nil =>
    intro log
    exact ⟨[], _, gives_mapM_nil.2 ⟨rfl, rfl⟩, .nil⟩
  | cons p rest ih =>
    intro log
    obtain ⟨placement, between, hplace, hdestination, htells⟩ :=
      @gives_place_of_isFile { start with log := log } p hnames root source
        (hfiles p List.mem_cons_self)
    have hlooks := looks_place root source p (ends_ok_iff.2 hplace)
    have hbetween : between = { start with log := between.log } := hlooks
    obtain ⟨placed, left, hrest, hothers⟩ :=
      ih (fun q hq => hfiles q (List.mem_cons_of_mem p hq)) between.log
    rw [← hbetween] at hrest
    exact ⟨placement :: placed, left,
      gives_mapM_cons.2 ⟨placement, between, placed, hplace, hrest, rfl⟩,
      .cons ⟨hdestination, htells.source_eq, htells.unchanged_iff⟩ hothers⟩

/-! ## The first match -/

/-- An entry of some moves gets a file. -/
structure Choice where
  /-- Where the entry stands among all entries. -/
  entry : Nat
  source : Source
  file : Path

/-- The entry finds the file, and no entry before it does. -/
structure Choice.IsFirst (choice : Choice) (sources : List Source) (host : Host)
    (directory : Path) : Prop where
  source_eq : sources[choice.entry]? = some choice.source
  finds : choice.source.Finds host directory choice.file
  first : ∀ other ∈ sources.take choice.entry, ¬ other.Finds host directory choice.file

/-- The entry finds the file, and no entry before it finds it under any path. -/
structure Choice.IsFirstOfFile (choice : Choice) (sources : List Source) (host : Host)
    (directory : Path) : Prop where
  source_eq : sources[choice.entry]? = some choice.source
  finds : choice.source.Finds host directory choice.file
  first : ∀ other ∈ sources.take choice.entry, ∀ q, other.Finds host directory q →
    q.location host.current ≠ choice.file.location host.current

theorem Choice.IsFirstOfFile.isFirst {choice : Choice} {sources : List Source}
    (h : choice.IsFirstOfFile sources host directory) : choice.IsFirst sources host directory :=
  ⟨h.source_eq, h.finds, fun other ho hother => h.first other ho choice.file hother rfl⟩

/-- The entries find no file under two paths. -/
def FoundOnce (sources : List Source) (host : Host) (directory : Path) : Prop :=
  ∀ source ∈ sources, ∀ other ∈ sources, ∀ p q, source.Finds host directory p →
    other.Finds host directory q → p.location host.current = q.location host.current → p = q

/-- Files that are found once may be told apart by their paths. -/
theorem FoundOnce.isFirst_iff {choice : Choice} {sources : List Source}
    (h : FoundOnce sources host directory) :
    choice.IsFirst sources host directory ↔ choice.IsFirstOfFile sources host directory := by
  refine ⟨fun hfirst => ⟨hfirst.source_eq, hfirst.finds, fun other ho q hq hplace => ?_⟩,
    Choice.IsFirstOfFile.isFirst⟩
  have heq : q = choice.file := h other (List.mem_of_mem_take ho) choice.source
    (List.mem_of_getElem? hfirst.source_eq) q choice.file hq hfirst.finds hplace
  exact hfirst.first other ho (heq ▸ hq)

/-- Where no entry is absolute or steps back, each file is found under one path. -/
theorem foundOnce_of_plain {sources : List Source} (hwf : host.tree.WellFormed)
    (hplain : ∀ source ∈ sources, source.Plain) : FoundOnce sources host directory :=
  fun source hsource other hother _ _ hp hq =>
    (hp.isBelow (hplain source hsource) hwf).eq_of_location (hq.isBelow (hplain other hother) hwf)

/-- The order of placements: by entry, and for one entry by path. -/
def Choice.Precedes (choice other : Choice) : Prop :=
  choice.entry < other.entry ∨ choice.entry = other.entry ∧ choice.file.key < other.file.key

/-- A file has one first entry at most. -/
theorem Choice.IsFirst.unique {choice other : Choice} {sources : List Source}
    (h : choice.IsFirst sources host directory) (ho : other.IsFirst sources host directory)
    (hfile : choice.file = other.file) : choice = other := by
  have hnot : ∀ {choice other : Choice}, choice.IsFirst sources host directory →
      other.IsFirst sources host directory → choice.file = other.file →
        ¬ choice.entry < other.entry := by
    intro choice other h ho hfile hlt
    refine ho.first choice.source ?_ (hfile ▸ h.finds)
    exact List.mem_of_getElem? ((List.getElem?_take_of_lt hlt).trans h.source_eq)
  have hentry : choice.entry = other.entry :=
    Nat.le_antisymm (Nat.not_lt.1 (hnot ho h hfile.symm)) (Nat.not_lt.1 (hnot h ho hfile))
  have hsource := h.source_eq.symm.trans (hentry ▸ ho.source_eq)
  cases choice
  cases other
  cases hentry
  cases hfile
  cases hsource
  rfl

/-- What is found has a first entry that finds it. -/
theorem exists_isFirst {sources : List Source} (hsource : source ∈ sources)
    (hfinds : source.Finds host directory p) :
    ∃ choice : Choice, choice.IsFirst sources host directory ∧ choice.file = p := by
  classical
  have hsome : ∃ (i : Nat) (other : Source),
      sources[i]? = some other ∧ other.Finds host directory p := by
    obtain ⟨i, hi⟩ := List.mem_iff_getElem?.1 hsource
    exact ⟨i, source, hi, hfinds⟩
  obtain ⟨first, hget, hfirst⟩ := Nat.find_spec hsome
  refine ⟨⟨Nat.find hsome, first, p⟩, ⟨hget, hfirst, fun other ho hother => ?_⟩, rfl⟩
  obtain ⟨j, hj⟩ := List.mem_iff_getElem?.1 ho
  rw [List.getElem?_take] at hj
  split at hj
  · rename_i hlt
    exact Nat.find_min hsome hlt ⟨other, hj, hother⟩
  · cases hj

/-- The files of the entries from some entry on, each at its first entry and in order. -/
structure AssignedFrom (n : Nat) (sources : List Source) (host : Host) (directory : Path)
    (choices : List Choice) : Prop where
  mem_iff : ∀ choice, choice ∈ choices ↔
    n ≤ choice.entry ∧ choice.IsFirst sources host directory
  every : ∀ i, n ≤ i → i < sources.length → ∃ choice ∈ choices, choice.entry = i
  ordered : choices.Pairwise Choice.Precedes

theorem AssignedFrom.nil {n : Nat} {sources : List Source} (h : sources.length ≤ n) :
    AssignedFrom n sources host directory [] where
  mem_iff choice := by
    refine ⟨nofun, fun ⟨hn, hfirst⟩ => ?_⟩
    have hlt := (List.getElem?_eq_some_iff.1 hfirst.source_eq).1
    omega
  every i hn hi := by omega
  ordered := .nil

/-- The files of one entry come before those of the entries after it. -/
theorem AssignedFrom.cons {n : Nat} {sources : List Source} {found : List Path}
    {others : List Choice} (hget : sources[n]? = some source) (hsome : found ≠ [])
    (hsorted : found.Pairwise fun p q => p.key < q.key)
    (hfound : ∀ p, p ∈ found ↔ (⟨n, source, p⟩ : Choice).IsFirst sources host directory)
    (h : AssignedFrom (n + 1) sources host directory others) :
    AssignedFrom n sources host directory (found.map (⟨n, source, ·⟩) ++ others) where
  mem_iff choice := by
    obtain ⟨entry, other, file⟩ := choice
    rw [List.mem_append, List.mem_map, h.mem_iff]
    constructor
    · rintro (⟨p, hp, heq⟩ | ⟨hn, hfirst⟩)
      · cases heq
        exact ⟨Nat.le_refl n, (hfound file).1 hp⟩
      · exact ⟨Nat.le_of_succ_le hn, hfirst⟩
    · rintro ⟨hn, hfirst⟩
      rcases Nat.eq_or_lt_of_le hn with heq | hlt
      · change n = entry at heq
        subst heq
        cases hfirst.source_eq.symm.trans hget
        exact Or.inl ⟨file, (hfound file).2 hfirst, rfl⟩
      · exact Or.inr ⟨hlt, hfirst⟩
  every i hn hi := by
    rcases Nat.eq_or_lt_of_le hn with rfl | hlt
    · obtain ⟨p, hp⟩ := List.exists_mem_of_ne_nil found hsome
      exact ⟨_, List.mem_append_left _ (List.mem_map_of_mem hp), rfl⟩
    · obtain ⟨choice, hchoice, hentry⟩ := h.every i hlt hi
      exact ⟨choice, List.mem_append_right _ hchoice, hentry⟩
  ordered := by
    refine List.pairwise_append.2 ⟨?_, h.ordered, fun choice hchoice other hother => ?_⟩
    · rw [List.pairwise_map]
      exact hsorted.imp fun hlt => Or.inr ⟨rfl, hlt⟩
    · obtain ⟨p, _, rfl⟩ := List.mem_map.1 hchoice
      exact Or.inl ((h.mem_iff other).1 hother).1

/-- A placement puts the file of a choice where its source says. -/
def Choice.Places (choice : Choice) (host : Host) (root : Path) (placement : Placement) : Prop :=
  placement.destination = choice.source.target root choice.file ∧
    placement.Tells host choice.file

/-- The claimed files are those that the entries before some entry find. -/
def ClaimedBefore (n : Nat) (sources : List Source) (host : Host) (directory : Path)
    (claimed : List Path) : Prop :=
  ∀ p, p ∈ claimed ↔ ∃ source ∈ sources.take n, source.Finds host directory p

/-- An entry is the first one to find what it finds and nobody has claimed. -/
theorem ClaimedBefore.isFirst_iff {n : Nat} {sources : List Source} {claimed : List Path}
    (h : ClaimedBefore n sources host directory claimed) (hget : sources[n]? = some source) :
    (⟨n, source, p⟩ : Choice).IsFirst sources host directory ↔
      source.Finds host directory p ∧ p ∉ claimed := by
  rw [h p]
  constructor
  · exact fun hfirst => ⟨hfirst.finds, fun ⟨other, ho, hother⟩ => hfirst.first other ho hother⟩
  · exact fun ⟨hfinds, hno⟩ => ⟨hget, hfinds, fun other ho hother => hno ⟨other, ho, hother⟩⟩

theorem ClaimedBefore.next {n : Nat} {sources : List Source} {claimed found : List Path}
    (h : ClaimedBefore n sources host directory claimed) (hget : sources[n]? = some source)
    (hfound : ∀ p, p ∈ found ↔ source.Finds host directory p ∧ p ∉ claimed) :
    ClaimedBefore (n + 1) sources host directory (claimed ++ found) := by
  intro p
  have htake : sources.take (n + 1) = sources.take n ++ [source] := by
    rw [List.take_add_one, hget, Option.toList_some]
  simp only [List.mem_append, hfound, h p, htake, List.mem_singleton, or_and_right, exists_or,
    exists_eq_left]
  by_cases hbefore : ∃ other ∈ sources.take n, other.Finds host directory p
  · simp [hbefore]
  · simp only [hbefore, not_false_eq_true, and_true]

/-- The entries from one on get the files that they are the first to find, if those before it have
claimed theirs; or one of them is left without a file. -/
theorem placeSources_cases {sources : List Source} (hnames : start.tree.NamesOpen)
    (hsearchable : ∀ source ∈ sources, source.Searchable) (directory root : Path)
    (rest : List Source) : ∀ (n : Nat) (claimed : List Path) (log : List LogRecord),
      sources.drop n = rest → ClaimedBefore n sources start directory claimed →
      (∃ choices placements left,
        Gives (placeSources directory root true rest claimed) { start with log := log } placements
          left ∧ AssignedFrom n sources start directory choices ∧
          List.Forall₂ (fun choice placement => choice.Places start root placement) choices
            placements) ∨
      ∃ fault left, Ends (placeSources directory root true rest claimed)
          { start with log := log } (.error (.placement fault)) left ∧
        ∃ i < sources.length, ∀ choice : Choice, choice.entry = i →
          ¬ choice.IsFirst sources start directory := by
  induction rest with
  | nil =>
    intro n claimed log hdrop _
    have hlength : sources.length ≤ n := List.drop_eq_nil_iff.1 hdrop
    exact Or.inl ⟨[], [], _, gives_placeSources_nil.2 ⟨rfl, rfl⟩, .nil hlength, .nil⟩
  | cons source rest ih =>
    intro n claimed log hdrop hclaimed
    have hget : sources[n]? = some source := by
      rw [← List.head?_drop, hdrop, List.head?_cons]
    have hlt := (List.getElem?_eq_some_iff.1 hget).1
    have hnext : sources.drop (n + 1) = rest := by
      rw [← List.drop_drop, hdrop, List.drop_one, List.tail_cons]
    have hentry : ∀ choice : Choice, choice.IsFirst sources start directory → choice.entry = n →
        choice = ⟨n, source, choice.file⟩ := by
      rintro ⟨entry, other, file⟩ h rfl
      cases h.source_eq.symm.trans hget
      rfl
    rcases (hsearchable source (List.mem_of_getElem? hget)).expands directory
        { start with log := log } claimed with
      ⟨found, hexpand, hsome, hsorted, hfound⟩ | ⟨fault, hfail, hnone⟩
    · obtain ⟨placed, between, hplaced, hplaces⟩ := gives_placeFiles hnames root source
        (fun p hp => ((hfound p).1 hp).1.isFile) log
      have hlooks := Leads.mapM (looks_place root source) found (ends_ok_iff.2 hplaced)
      have hbetween : between = { start with log := between.log } := hlooks
      rcases ih (n + 1) (claimed ++ found) between.log hnext (hclaimed.next hget hfound) with
        ⟨others, placements, left, hrest, hassigned, hothers⟩ | ⟨fault, left, hrest, hleft⟩
      · rw [← hbetween] at hrest
        refine Or.inl ⟨found.map (⟨n, source, ·⟩) ++ others, placed ++ placements, left,
          gives_placeSources_cons.2
            ⟨found, placed, between, placements, hexpand, hplaced, hrest, rfl⟩, ?_, ?_⟩
        · have hfirst := fun p => (hfound p).trans (hclaimed.isFirst_iff hget).symm
          exact .cons hget hsome hsorted hfirst hassigned
        · refine List.rel_append ?_ hothers
          rw [List.forall₂_map_left_iff]
          exact hplaces
      · rw [← hbetween] at hrest
        refine Or.inr ⟨fault, left, ?_, hleft⟩
        exact ends_bind.2 (Or.inr ⟨found, _, hexpand, ends_bind.2 (Or.inr ⟨placed, between, hplaced,
          ends_bind.2 (Or.inl ⟨_, hrest, rfl⟩)⟩)⟩)
    · refine Or.inr ⟨fault, _, ends_bind.2 (Or.inl ⟨_, hfail, rfl⟩), n, hlt, fun choice hn h => ?_⟩
      rw [hentry choice h hn, hclaimed.isFirst_iff hget] at h
      exact h.2 (hnone _ h.1)

/-! ## The whole dry run -/

/-- A move with a new name has one source, and that is no pattern. -/
theorem Move.source_of_rename {move : Move} (h : move.rename.isSome = true) :
    ∃ name, move.sources = [name] ∧ Glob.isPattern name = false := by
  have hsingle := move.rename_single h
  revert hsingle
  cases move.sources with
  | nil => exact nofun
  | cons name rest =>
    cases rest with
    | nil => exact fun hname => ⟨name, rfl, by simpa [isSingleName] using hname⟩
    | cons _ _ => exact nofun

theorem isPattern_of_rename {moves : List Move} (hsource : source ∈ sourcesOf moves)
    (h : source.rename.isSome = true) : Glob.isPattern source.pattern = false := by
  obtain ⟨move, _, hsource⟩ := List.mem_flatMap.1 hsource
  obtain ⟨pattern, hpattern, rfl⟩ := List.mem_map.1 hsource
  obtain ⟨name, hname, hno⟩ := Move.source_of_rename h
  rw [hname, List.mem_singleton] at hpattern
  rw [hpattern]
  exact hno

/-- What placements come from: every file that some entry finds is chosen once, by the first entry
that finds it, and goes where that entry says, in the order of entries and of paths. A move with a
new name has one entry, and that has one file. The files that are chosen are different ones exactly
if no file is found under two paths. -/
structure Assigned (host : Host) (directory root : Path) (moves : List Move)
    (choices : List Choice) (placements : List Placement) : Prop where
  mem_iff : ∀ choice, choice ∈ choices ↔ choice.IsFirst (sourcesOf moves) host directory
  found_iff : ∀ p, p ∈ choices.map Choice.file ↔
    ∃ source ∈ sourcesOf moves, source.Finds host directory p
  once : (choices.map Choice.file).Nodup
  placed : List.Forall₂ (fun choice placement => choice.Places host root placement) choices
    placements
  ordered : choices.Pairwise Choice.Precedes
  single : ∀ move ∈ moves, move.rename.isSome = true →
    ∃ name, move.sources = [name] ∧ Glob.isPattern name = false
  renamed : ∀ choice ∈ choices, choice.source.rename.isSome = true →
    ∀ other ∈ choices, other.entry = choice.entry → other = choice
  apart : (choices.map fun choice => choice.file.location host.current).Nodup ↔
    FoundOnce (sourcesOf moves) host directory

theorem AssignedFrom.assigned {moves : List Move} {choices : List Choice}
    {placements : List Placement} (h : AssignedFrom 0 (sourcesOf moves) host directory choices)
    (hplaces : List.Forall₂ (fun choice placement => choice.Places host root placement) choices
      placements) : Assigned host directory root moves choices placements := by
  have hmem : ∀ choice, choice ∈ choices ↔ choice.IsFirst (sourcesOf moves) host directory :=
    fun choice => (h.mem_iff choice).trans (and_iff_right (Nat.zero_le _))
  have hnodup : choices.Nodup := by
    refine h.ordered.imp ?_
    rintro choice _ (hlt | ⟨_, hlt⟩) rfl
    · exact Nat.lt_irrefl _ hlt
    · exact List.lt_irrefl _ hlt
  refine ⟨hmem, fun p => ?_, ?_, hplaces, h.ordered, fun move _ => Move.source_of_rename, ?_, ?_⟩
  · rw [List.mem_map]
    constructor
    · rintro ⟨choice, hchoice, rfl⟩
      have hfirst := (hmem choice).1 hchoice
      exact ⟨choice.source, List.mem_of_getElem? hfirst.source_eq, hfirst.finds⟩
    · rintro ⟨source, hsource, hfinds⟩
      obtain ⟨choice, hfirst, hfile⟩ := exists_isFirst hsource hfinds
      exact ⟨choice, (hmem choice).2 hfirst, hfile⟩
  · exact hnodup.map_on fun choice hchoice other hother hfile =>
      ((hmem choice).1 hchoice).unique ((hmem other).1 hother) hfile
  · intro choice hchoice hrename other hother hentry
    have hfirst := (hmem choice).1 hchoice
    have hother := (hmem other).1 hother
    have hliteral := isPattern_of_rename (List.mem_of_getElem? hfirst.source_eq) hrename
    have hnamed : ∀ {p : Path}, choice.source.Finds host directory p →
        p = directory.joinText choice.source.pattern :=
      fun hfinds => ((choice.source.finds_of_name hliteral).1 hfinds).1
    have hsame : other.source = choice.source :=
      Option.some.inj (hother.source_eq.symm.trans (hentry ▸ hfirst.source_eq))
    exact hother.unique hfirst ((hnamed (hsame ▸ hother.finds)).trans (hnamed hfirst.finds).symm)
  · constructor
    · intro happart source hsource other hother p q hp hq hplace
      obtain ⟨choice, hfirst, rfl⟩ := exists_isFirst hsource hp
      obtain ⟨choice', hfirst', rfl⟩ := exists_isFirst hother hq
      exact congrArg Choice.file
        (List.inj_on_of_nodup_map happart ((hmem choice).2 hfirst) ((hmem choice').2 hfirst')
          hplace)
    · intro honce
      refine hnodup.map_on fun choice hchoice other hother hplace => ?_
      have hfirst := (hmem choice).1 hchoice
      have hother := (hmem other).1 hother
      exact hfirst.unique hother (honce choice.source (List.mem_of_getElem? hfirst.source_eq)
        other.source (List.mem_of_getElem? hother.source_eq) _ _ hfirst.finds hother.finds hplace)

/-- A dry run changes nothing. It has placements exactly if each entry is the first one to find some
path of a file, and each path goes with the first entry that finds it; otherwise an entry is without
a path, and that is the failure. Paths stand for files where no file is found under two paths, as it
is where no entry is absolute or steps back. -/
theorem a_dry_run_assigns_the_first_match {moves : List Move}
    {result : Except Failure (List Placement)} (hnames : host.tree.NamesOpen)
    (hsearchable : ∀ source ∈ sourcesOf moves, source.Searchable)
    (hrun : Ends (relocate directory root moves true) host result after) :
    after = { host with log := after.log } ∧
      ((∃ placements, result = .ok placements) ↔
        ∀ i < (sourcesOf moves).length, ∃ choice : Choice,
          choice.entry = i ∧ choice.IsFirst (sourcesOf moves) host directory) ∧
      (∀ failure, result = .error failure → ∃ fault, failure = .placement fault) ∧
      (∀ placements, result = .ok placements →
        ∃ choices, Assigned host directory root moves choices placements) ∧
      (FoundOnce (sourcesOf moves) host directory → ∀ choice : Choice,
        choice.IsFirst (sourcesOf moves) host directory ↔
          choice.IsFirstOfFile (sourcesOf moves) host directory) ∧
      (host.tree.WellFormed → (∀ source ∈ sourcesOf moves, source.Plain) →
        FoundOnce (sourcesOf moves) host directory) := by
  refine ⟨looks_relocate directory root moves hrun, ?_⟩
  unfold relocate at hrun
  rcases placeSources_cases hnames hsearchable directory root (sourcesOf moves) 0 [] host.log rfl
      (fun p => by simp) with
    ⟨choices, placements, left, hgives, hassigned, hplaces⟩ | ⟨fault, left, hfails, i, hi, hnone⟩
  · obtain ⟨rfl, rfl⟩ := hrun.unique (ends_ok_iff.2 hgives)
    refine ⟨⟨fun _ i hi => ?_, fun _ => ⟨placements, rfl⟩⟩, nofun, ?_,
      fun honce _ => honce.isFirst_iff, foundOnce_of_plain⟩
    · obtain ⟨choice, hchoice, hentry⟩ := hassigned.every i (Nat.zero_le i) hi
      exact ⟨choice, hentry, ((hassigned.mem_iff choice).1 hchoice).2⟩
    · rintro _ ⟨⟩
      exact ⟨choices, hassigned.assigned hplaces⟩
  · obtain ⟨rfl, rfl⟩ := hrun.unique hfails
    refine ⟨⟨nofun, fun hevery => ?_⟩, ?_, nofun, fun honce _ => honce.isFirst_iff,
      foundOnce_of_plain⟩
    · obtain ⟨choice, hentry, hfirst⟩ := hevery i hi
      exact absurd hfirst (hnone choice hentry)
    · rintro _ ⟨⟩
      exact ⟨fault, rfl⟩

def namedSource : Source := ⟨"a.rs", "src", "mod.rs"⟩

def matchingSource : Source := ⟨"?.rs", "out", none⟩

/-- The second entry finds the file of the first one, and one file more. -/
def overlappingMoves : List Move := [namedSource.move, matchingSource.move]

def overlappingHost : Host where
  tree := (FileTree.empty.withFile ["tmp", "a.rs"] [1]).withFile ["tmp", "b.rs"] [2]
  current := []
  scratch := Path.here
  responses := []
  calls := []
  log := []

theorem overlapping_entries_share_the_files :
    overlappingHost.tree.NamesOpen ∧
      (∀ source ∈ sourcesOf overlappingMoves, source.Searchable) ∧
      ∃ placements after,
        Ends (relocate (Path.ofText "tmp") Path.here overlappingMoves true) overlappingHost
          (.ok placements) after ∧
        ∃ choices, Assigned overlappingHost (Path.ofText "tmp") Path.here overlappingMoves choices
          placements := by
  have hnames : overlappingHost.tree.NamesOpen := by decide +kernel
  have hsearchable : ∀ source ∈ sourcesOf overlappingMoves, source.Searchable := by
    decide +kernel
  have hrun := ends_run (relocate (Path.ofText "tmp") Path.here overlappingMoves true)
    overlappingHost
  obtain ⟨_, hreturns, _, hassigned, _⟩ :=
    a_dry_run_assigns_the_first_match hnames hsearchable hrun
  -- the first entry finds the one file, and the second entry is the first to find the other one
  have hnamed : namedSource.Finds overlappingHost (Path.ofText "tmp") ⟨0, ["tmp", "a.rs"]⟩ :=
    (namedSource.finds_of_name (by decide +kernel)).2 (by decide +kernel)
  have hmatched : matchingSource.Finds overlappingHost (Path.ofText "tmp")
      ⟨0, ["tmp", "b.rs"]⟩ := by
    have hquery : Glob.Query.ofText matchingSource.pattern = .ok ⟨[.names "?.rs"], false⟩ :=
      eq_ok_of_toOption (by decide +kernel)
    have hfile : ⟨0, ["tmp", "b.rs"]⟩ ∈ (⟨[.names "?.rs"], false⟩ : Glob.Query).files
        overlappingHost.tree [] (Path.ofText "tmp") := by
      rw [Glob.Query.files, Path.sort, List.mem_mergeSort]
      decide +kernel
    exact (matchingSource.finds_of_pattern (by decide +kernel) hquery).2 hfile
  have hother : ¬ namedSource.Finds overlappingHost (Path.ofText "tmp") ⟨0, ["tmp", "b.rs"]⟩ := by
    rw [namedSource.finds_of_name (by decide +kernel)]
    decide +kernel
  obtain ⟨placements, hplacements⟩ := hreturns.2 fun i hi => by
    obtain rfl | rfl : i = 0 ∨ i = 1 := by
      have htwo : i < 2 := hi
      omega
    · exact ⟨⟨0, _, _⟩, rfl, rfl, hnamed, by simp⟩
    · exact ⟨⟨1, _, _⟩, rfl, rfl, hmatched, List.forall_mem_singleton.2 hother⟩
  rw [hplacements] at hrun
  exact ⟨hnames, hsearchable, placements, _, hrun, hassigned placements hplacements⟩

/-- A move whose pattern steps back out of any directory. -/
def steppingBackMove : Move := { sources := ["*/../a.rs"], dest := "src" }

/-- A directory with one file and two directories. -/
def twoPathsHost : Host where
  tree := ((FileTree.empty.withFile ["tmp", "a.rs"] [1]).withDirectories
    ["tmp", "b"]).withDirectories ["tmp", "c"]
  current := []
  scratch := Path.here
  responses := []
  calls := []
  log := []

/-- A dry run places the only file of a tree twice, as a path to it leads through each of the
directories beside it. -/
theorem a_file_with_two_paths_is_placed_twice :
    twoPathsHost.tree.entries.filter (fun entry => entry.2 ≠ .directory) =
        [(["tmp", "a.rs"], .file [1])] ∧
      ∃ after, Gives (relocate (Path.ofText "tmp") Path.here [steppingBackMove] true) twoPathsHost
        [⟨"a.rs", ⟨0, ["src", "a.rs"]⟩, true⟩, ⟨"a.rs", ⟨0, ["src", "a.rs"]⟩, true⟩] after := by
  have hquery : Glob.Query.ofText "*/../a.rs" =
      .ok ⟨[.names "*", .exactly "..", .exactly "a.rs"], false⟩ :=
    eq_ok_of_toOption (by decide +kernel)
  have hfiles : (⟨[.names "*", .exactly "..", .exactly "a.rs"], false⟩ : Glob.Query).files
      twoPathsHost.tree twoPathsHost.current (Path.ofText "tmp") =
        [⟨0, ["tmp", "b", "..", "a.rs"]⟩, ⟨0, ["tmp", "c", "..", "a.rs"]⟩] :=
    Glob.Query.files_eq_of_perm (by decide +kernel) (by decide +kernel)
  have hexpand : Gives (expand (Path.ofText "tmp") "*/../a.rs" []) twoPathsHost
      [⟨0, ["tmp", "b", "..", "a.rs"]⟩, ⟨0, ["tmp", "c", "..", "a.rs"]⟩] twoPathsHost := by
    rw [gives_expand, if_pos (by decide +kernel)]
    exact ⟨rfl, _, hquery, by rw [hfiles]; rfl, List.cons_ne_nil _ _⟩
  have hplaced : Gives ([⟨0, ["tmp", "b", "..", "a.rs"]⟩,
      (⟨0, ["tmp", "c", "..", "a.rs"]⟩ : Path)].mapM
        (place Path.here true ⟨"*/../a.rs", "src", none⟩)) twoPathsHost
      [⟨"a.rs", ⟨0, ["src", "a.rs"]⟩, true⟩, ⟨"a.rs", ⟨0, ["src", "a.rs"]⟩, true⟩] _ :=
    gives_of_toOption (by decide +kernel)
  exact ⟨by decide +kernel, _, gives_placeSources_cons.2 ⟨_, _, _, [], hexpand, hplaced,
    gives_placeSources_nil.2 ⟨rfl, rfl⟩, rfl⟩⟩

end Relocation

end ProtoRefresh
