-- What a listing gives. Each text that it lists is spelled as the pattern
-- is, but for the names that the pattern leaves open, and none comes twice;
-- and a text that leads to a file ends with a name.
import Mathlib.Data.List.Nodup
import Mathlib.Data.List.TakeWhile
import ProtoRefresh.Glob.Listing
import ProtoRefresh.Proofs.Glob.Beside
import ProtoRefresh.Proofs.Path.TextOrder

namespace ProtoRefresh.Glob

open FileTree ProtoRefresh.Path

variable {tree : FileTree} {current : Location} {root pattern : List Char} {onlyDirectories : Bool}

/-! ## Texts joined -/

/-- A text that does not end with a slash. -/
structure EndsOpen (text : List Char) : Prop where
  ne_nil : text ≠ []
  last : text.getLast? ≠ some '/'

/-- A text without the slash at its end. -/
def stem (text : List Char) : List Char :=
  if text.getLast? = some '/' then text.dropLast else text

theorem EndsOpen.stem_eq {text : List Char} (h : EndsOpen text) : stem text = text := if_neg h.last

theorem joinTexts_eq {directory name : List Char} (hdir : directory ≠ [])
    (hhead : name.head? ≠ some '/') : joinTexts directory name = stem directory ++ '/' :: name := by
  unfold joinTexts stem
  rw [if_neg hhead]
  by_cases hlast : directory.getLast? = some '/'
  · rw [if_pos hlast, if_pos (by simp [hlast])]
    conv_lhs => rw [← List.dropLast_append_getLast? '/' hlast]
    rw [List.append_assoc, List.singleton_append]
  · rw [if_neg hlast, if_neg (by simp [hdir, hlast])]

theorem head_ne_of_notMem {name : List Char} (h : '/' ∉ name) : name.head? ≠ some '/' :=
  fun hhead => h (List.mem_of_mem_head? hhead)

theorem endsOpen_of_name {text name : List Char} (hne : name ≠ []) (hname : '/' ∉ name) :
    EndsOpen (text ++ '/' :: name) where
  ne_nil := by simp
  last := by
    have hlast := List.getLast?_eq_some_getLast hne
    rw [List.getLast?_append_of_ne_nil _ (List.cons_ne_nil _ _), List.getLast?_cons, hlast]
    intro hslash
    exact hname (Option.some.inj hslash ▸ List.getLast_mem hne)

/-- What stands before and after the last slash is known from the whole. -/
theorem slash_injective {text other name more : List Char} (hname : '/' ∉ name)
    (hmore : '/' ∉ more) (h : text ++ '/' :: name = other ++ '/' :: more) :
    text = other ∧ name = more := by
  have hpieces := congrArg splitSlash h
  rw [splitSlash_slash, splitSlash_slash, splitSlash_of_notMem hname,
    splitSlash_of_notMem hmore] at hpieces
  obtain ⟨htext, hlast⟩ := List.append_inj' hpieces rfl
  refine ⟨?_, List.singleton_inj.1 hlast⟩
  rw [← intercalate_splitSlash text, htext, intercalate_splitSlash]

/-! ## Patterns taken apart -/

theorem slash_notMem_splitLast (pattern : List Char) : '/' ∉ (splitLast pattern).2 := by
  unfold splitLast
  rw [List.mem_reverse]
  intro h
  cases List.all_eq_true.1 List.all_takeWhile _ h

/-- The directory of a pattern, if it is a pattern, does not end with a slash. -/
theorem endsOpen_splitLast (h : isPattern (String.ofList (splitLast pattern).1) = true) :
    EndsOpen (splitLast pattern).1 := by
  unfold splitLast at h ⊢
  dsimp only at h ⊢
  generalize List.take _ pattern = before at h ⊢
  by_cases hempty : (before.reverse.dropWhile (· == '/')).reverse.isEmpty = true
  · -- a text of slashes is no pattern
    rw [if_pos hempty] at h
    rw [List.isEmpty_iff, List.reverse_eq_nil_iff, List.dropWhile_eq_nil_iff] at hempty
    unfold isPattern at h
    rw [String.toList_ofList, List.any_eq_true] at h
    obtain ⟨c, hc, hspecial⟩ := h
    rw [beq_iff_eq.1 (hempty c (List.mem_reverse.2 hc))] at hspecial
    cases hspecial
  · rw [if_neg hempty]
    refine ⟨fun hnil => hempty (List.isEmpty_iff.2 hnil), ?_⟩
    rw [List.getLast?_reverse]
    intro hslash
    have hfirst := List.head?_dropWhile_not (· == '/') before.reverse
    rw [hslash] at hfirst
    cases hfirst

theorem EndsOpen.splitLast_ne_nil (h : EndsOpen pattern) : (splitLast pattern).2 ≠ [] := by
  obtain ⟨front, last, rfl⟩ := (List.eq_nil_or_concat' pattern).resolve_left h.ne_nil
  have hlast := h.last
  rw [List.getLast?_concat, Option.some_inj.ne] at hlast
  unfold splitLast
  rw [List.reverse_concat', List.takeWhile_cons_of_pos (by simpa using hlast)]
  simp

/-! ## Names -/

/-- The names that the last piece of a pattern stands for in a directory. -/
def namesAt (tree : FileTree) (current : Location) (directory name : List Char)
    (onlyDirectories : Bool) : List (List Char) :=
  if isPattern (String.ofList name) then
    matchingNames tree current directory name onlyDirectories
  else presentName tree current directory name

theorem isName_of_mem_matchingNames (hwf : tree.WellFormed) {directory name found : List Char}
    (h : found ∈ matchingNames tree current directory name onlyDirectories) :
    IsName (String.ofList found) := by
  unfold matchingNames namesIn at h
  obtain ⟨hshown, _⟩ := List.mem_filter.1 h
  obtain ⟨hmem, _⟩ := List.mem_filter.1 hshown
  obtain ⟨entry, hentry, rfl⟩ := List.mem_map.1 hmem
  rw [String.ofList_toList]
  exact hwf.isName_of_mem_list (List.mem_filter.1 hentry).1

theorem isPart_of_mem_matchingNames (hwf : tree.WellFormed) {directory name found : List Char}
    (h : found ∈ matchingNames tree current directory name onlyDirectories) :
    isPart found = true ∧ '/' ∉ found := by
  have hpart := isPart_of_proper (Or.inr (isName_of_mem_matchingNames hwf h))
  rwa [String.toList_ofList] at hpart

theorem matchingNames_nodup (tree : FileTree) (current : Location) (directory name : List Char)
    (onlyDirectories : Bool) :
    (matchingNames tree current directory name onlyDirectories).Nodup := by
  have hnames : (tree.list current (ofChars directory)).Nodup := by
    rw [list_eq]
    split
    · refine (tree.names_sorted _).imp ?_
      rintro a _ hlt rfl
      exact List.lt_irrefl a.toList hlt
    · exact List.nodup_nil
  unfold matchingNames namesIn
  refine (List.Nodup.filter _ ?_).filter _
  exact (hnames.filter _).map fun a b h => String.toList_inj.1 h

theorem mem_presentName_iff {directory name found : List Char} :
    found ∈ presentName tree current directory name ↔
      (if name.isEmpty || name = ['.'] then tree.isDirectory current (ofChars directory)
        else tree.pathExists current (ofChars (underRoot directory name))) = true ∧
      found = name := by
  unfold presentName
  dsimp only
  rw [List.mem_ite_nil_right, List.mem_singleton]

theorem namesAt_nodup (tree : FileTree) (current : Location) (directory name : List Char)
    (onlyDirectories : Bool) : (namesAt tree current directory name onlyDirectories).Nodup := by
  have hone : ∀ present : Bool, (if present then [name] else []).Nodup := by
    intro present
    cases present with
    | false => exact List.nodup_nil
    | true => exact List.nodup_singleton name
  unfold namesAt
  split
  · exact matchingNames_nodup tree current directory name onlyDirectories
  · exact hone _

theorem slash_notMem_namesAt (hwf : tree.WellFormed) {directory name found : List Char}
    (hname : '/' ∉ name) (h : found ∈ namesAt tree current directory name onlyDirectories) :
    '/' ∉ found := by
  unfold namesAt at h
  split at h
  · exact (isPart_of_mem_matchingNames hwf h).2
  · rwa [(mem_presentName_iff.1 h).2]

/-- What one piece of a pattern stands for in two directories is alike. -/
theorem pieceAlike_of_mem_namesAt (hwf : tree.WellFormed)
    {directory other name found more : List Char}
    (h : found ∈ namesAt tree current directory name onlyDirectories)
    (hmore : more ∈ namesAt tree current other name onlyDirectories) : PieceAlike found more := by
  unfold namesAt at h hmore
  split at h
  · rw [if_pos ‹_›] at hmore
    exact Or.inr ⟨(isPart_of_mem_matchingNames hwf h).1, (isPart_of_mem_matchingNames hwf hmore).1⟩
  · rw [if_neg ‹_›] at hmore
    exact Or.inl ((mem_presentName_iff.1 h).2.trans (mem_presentName_iff.1 hmore).2.symm)

theorem ne_nil_of_mem_namesAt (hwf : tree.WellFormed) {directory name found : List Char}
    (hname : name ≠ []) (h : found ∈ namesAt tree current directory name onlyDirectories) :
    found ≠ [] := by
  unfold namesAt at h
  split at h
  · rintro rfl
    cases (isPart_of_mem_matchingNames hwf h).1
  · rwa [(mem_presentName_iff.1 h).2]

/-! ## Listings -/

/-- The directories that the last piece of a pattern is looked up in. -/
def directoriesOf (tree : FileTree) (current : Location) (root pattern : List Char) :
    List (List Char) :=
  if (splitLast pattern).1 ≠ pattern ∧ isPattern (String.ofList (splitLast pattern).1) then
    listing tree current root true (splitLast pattern).1
  else [(splitLast pattern).1]

theorem listing_eq (tree : FileTree) (current : Location) (root pattern : List Char)
    (onlyDirectories : Bool) : listing tree current root onlyDirectories pattern =
      if (splitLast pattern).1 = [] then
        matchingNames tree current root (splitLast pattern).2 onlyDirectories
      else (directoriesOf tree current root pattern).flatMap fun directory =>
        (namesAt tree current (underRoot root directory) (splitLast pattern).2 onlyDirectories).map
          (joinTexts directory) := by
  rw [listing]
  simp only [List.isEmpty_iff]
  rfl

/-- What a listing of a pattern is like. -/
structure Spelled (pattern : List Char) (texts : List (List Char)) : Prop where
  nodup : texts.Nodup
  alike : ∀ text ∈ texts, ∀ other ∈ texts, Alike text other
  endsOpen : EndsOpen pattern → ∀ text ∈ texts, EndsOpen text

/-- The directories of a pattern are alike, also without slashes at their ends, by which none
becomes another one. -/
structure Based (directories : List (List Char)) : Prop where
  nodup : directories.Nodup
  ne_nil : ∀ directory ∈ directories, directory ≠ []
  alike : ∀ directory ∈ directories, ∀ other ∈ directories, Alike (stem directory) (stem other)
  stem_injective : ∀ directory ∈ directories, ∀ other ∈ directories,
    stem directory = stem other → directory = other

theorem based_singleton {directory : List Char} (h : directory ≠ []) : Based [directory] where
  nodup := List.nodup_singleton directory
  ne_nil := List.forall_mem_singleton.2 h
  alike := by
    intro text htext other hother
    rw [List.mem_singleton.1 htext, List.mem_singleton.1 hother]
    exact Alike.refl _
  stem_injective := by
    intro text htext other hother _
    rw [List.mem_singleton.1 htext, List.mem_singleton.1 hother]

theorem Spelled.based {texts : List (List Char)} (h : Spelled pattern texts)
    (hopen : EndsOpen pattern) : Based texts where
  nodup := h.nodup
  ne_nil := fun text htext => (h.endsOpen hopen text htext).ne_nil
  alike := by
    intro text htext other hother
    rw [(h.endsOpen hopen text htext).stem_eq, (h.endsOpen hopen other hother).stem_eq]
    exact h.alike text htext other hother
  stem_injective := by
    intro text htext other hother heq
    rwa [(h.endsOpen hopen text htext).stem_eq, (h.endsOpen hopen other hother).stem_eq] at heq

/-- The names in the directories of a pattern are spelled as the pattern is. -/
theorem Based.spelled {directories : List (List Char)} (h : Based directories)
    (hwf : tree.WellFormed) : Spelled pattern (directories.flatMap fun directory =>
      (namesAt tree current (underRoot root directory) (splitLast pattern).2 onlyDirectories).map
        (joinTexts directory)) := by
  have hname := slash_notMem_splitLast pattern
  have hjoined : ∀ text ∈ directories.flatMap (fun directory =>
      (namesAt tree current (underRoot root directory) (splitLast pattern).2 onlyDirectories).map
        (joinTexts directory)), ∃ directory ∈ directories, ∃ found,
          found ∈ namesAt tree current (underRoot root directory) (splitLast pattern).2
            onlyDirectories ∧ '/' ∉ found ∧ text = stem directory ++ '/' :: found := by
    intro text htext
    obtain ⟨directory, hdir, hmem⟩ := List.mem_flatMap.1 htext
    obtain ⟨found, hfound, rfl⟩ := List.mem_map.1 hmem
    have hslash := slash_notMem_namesAt hwf hname hfound
    exact ⟨directory, hdir, found, hfound, hslash,
      joinTexts_eq (h.ne_nil directory hdir) (head_ne_of_notMem hslash)⟩
  refine ⟨?_, ?_, ?_⟩
  · refine List.nodup_flatMap.2 ⟨fun directory hdir => ?_, ?_⟩
    · refine (namesAt_nodup _ _ _ _ _).map_on fun found hfound more hmore heq => ?_
      have hfoundSlash := slash_notMem_namesAt hwf hname hfound
      have hmoreSlash := slash_notMem_namesAt hwf hname hmore
      rw [joinTexts_eq (h.ne_nil directory hdir) (head_ne_of_notMem hfoundSlash),
        joinTexts_eq (h.ne_nil directory hdir) (head_ne_of_notMem hmoreSlash)] at heq
      exact (slash_injective hfoundSlash hmoreSlash heq).2
    · refine h.nodup.imp_of_mem fun {directory other} hdir hother hne text htext hmem => ?_
      obtain ⟨found, hfound, rfl⟩ := List.mem_map.1 htext
      obtain ⟨more, hmore, heq⟩ := List.mem_map.1 hmem
      have hfoundSlash := slash_notMem_namesAt hwf hname hfound
      have hmoreSlash := slash_notMem_namesAt hwf hname hmore
      rw [joinTexts_eq (h.ne_nil directory hdir) (head_ne_of_notMem hfoundSlash),
        joinTexts_eq (h.ne_nil other hother) (head_ne_of_notMem hmoreSlash)] at heq
      exact hne (h.stem_injective directory hdir other hother
        (slash_injective hmoreSlash hfoundSlash heq).1.symm)
  · intro text htext other hother
    obtain ⟨directory, hdir, found, hfound, hslash, rfl⟩ := hjoined text htext
    obtain ⟨base, hbase, more, hmore, hslash', rfl⟩ := hjoined other hother
    exact (h.alike directory hdir base hbase).slash
      ((pieceAlike_of_mem_namesAt hwf hfound hmore).alike hslash hslash')
  · intro hopen text htext
    obtain ⟨directory, hdir, found, hfound, hslash, rfl⟩ := hjoined text htext
    exact endsOpen_of_name (ne_nil_of_mem_namesAt hwf hopen.splitLast_ne_nil hfound) hslash

theorem spelled_matchingNames (hwf : tree.WellFormed) (directory name : List Char) :
    Spelled pattern (matchingNames tree current directory name onlyDirectories) where
  nodup := matchingNames_nodup tree current directory name onlyDirectories
  alike := by
    intro found hfound more hmore
    obtain ⟨hpart, hslash⟩ := isPart_of_mem_matchingNames hwf hfound
    obtain ⟨hpart', hslash'⟩ := isPart_of_mem_matchingNames hwf hmore
    exact PieceAlike.alike (Or.inr ⟨hpart, hpart'⟩) hslash hslash'
  endsOpen := by
    intro _ found hfound
    obtain ⟨hpart, hslash⟩ := isPart_of_mem_matchingNames hwf hfound
    refine ⟨?_, fun hlast => hslash (List.mem_of_getLast? hlast)⟩
    rintro rfl
    cases hpart

/-- A listing is spelled as its pattern is. -/
theorem spelled_listing (hwf : tree.WellFormed) (pattern : List Char) (onlyDirectories : Bool) :
    Spelled pattern (listing tree current root onlyDirectories pattern) := by
  rw [listing_eq]
  by_cases hdir : (splitLast pattern).1 = []
  · rw [if_pos hdir]
    exact spelled_matchingNames hwf _ _
  · rw [if_neg hdir]
    refine Based.spelled ?_ hwf
    unfold directoriesOf
    by_cases hmore : (splitLast pattern).1 ≠ pattern ∧
        isPattern (String.ofList (splitLast pattern).1) = true
    · rw [if_pos hmore]
      have hshorter := splitLast_shorter pattern hmore.1
      exact (spelled_listing hwf (splitLast pattern).1 true).based (endsOpen_splitLast hmore.2)
    · rw [if_neg hmore]
      exact based_singleton hdir
termination_by pattern.length

/-! ## Files -/

theorem stem_slash {text : List Char} (h : text.getLast? = some '/') :
    stem text ++ ['/'] = text := by
  unfold stem
  rw [if_pos h]
  exact List.dropLast_append_getLast? '/' h

theorem filter_splitSlash_stem (text : List Char) :
    (splitSlash (stem text)).filter isPart = (splitSlash text).filter isPart := by
  by_cases hlast : text.getLast? = some '/'
  · conv_rhs => rw [← stem_slash hlast, splitSlash_slash, List.filter_append]
    exact (List.append_nil _).symm
  · unfold stem
    rw [if_neg hlast]

theorem leadingSlashes_stem {text rest : List Char} (hne : text ≠ [])
    (hhead : rest.head? ≠ some '/') :
    leadingSlashes (stem text ++ '/' :: rest) = leadingSlashes text := by
  have hslashes : (stem text ++ '/' :: rest).takeWhile (· == '/') =
      text.takeWhile (· == '/') := by
    by_cases hlast : text.getLast? = some '/'
    · rw [← List.singleton_append, ← List.append_assoc, stem_slash hlast, List.takeWhile_append,
        takeWhile_slash_eq_nil hhead, List.append_nil]
      split
      · rename_i hall
        exact ((List.takeWhile_prefix _).eq_of_length hall).symm
      · rfl
    · have hall : (text.takeWhile (· == '/')).length ≠ text.length := by
        intro hlength
        have hwhole := (List.takeWhile_prefix (· == '/')).eq_of_length hlength
        have hmem : text.getLast hne ∈ text.takeWhile (· == '/') := by
          rw [hwhole]
          exact List.getLast_mem hne
        have hslash := List.all_eq_true.1 List.all_takeWhile _ hmem
        rw [List.getLast?_eq_some_getLast hne, beq_iff_eq.1 hslash] at hlast
        exact hlast rfl
      unfold stem
      rw [if_neg hlast, List.takeWhile_append, if_neg hall]
  unfold leadingSlashes
  rw [hslashes]

/-- The path of two texts joined. -/
theorem ofChars_joinTexts (text rest : List Char) :
    ofChars (joinTexts text rest) = (ofChars text).join (ofChars rest) := by
  unfold Path.join
  by_cases hhead : rest.head? = some '/'
  · unfold joinTexts
    rw [if_pos hhead, if_pos ((isAbsolute_ofChars rest).2 hhead)]
  rw [if_neg fun habsolute => hhead ((isAbsolute_ofChars rest).1 habsolute)]
  by_cases hne : text = []
  · have hslashes : (ofChars rest).slashes = 0 := by
      have hrelative := mt (isAbsolute_ofChars rest).1 hhead
      simpa [isAbsolute] using hrelative
    have htext : joinTexts text rest = rest := by simp [joinTexts, hhead, hne]
    rw [htext, hne]
    exact (congrArg (fun slashes => (⟨slashes, (ofChars rest).parts⟩ : Path)) hslashes)
  · rw [joinTexts_eq hne hhead]
    unfold ofChars
    rw [leadingSlashes_stem hne hhead, splitSlash_slash, List.filter_append,
      filter_splitSlash_stem, List.map_append]

theorem ofChars_underRoot (text rest : List Char) :
    ofChars (underRoot text rest) = (ofChars text).join (ofChars rest) := by
  unfold underRoot
  by_cases htext : text = []
  · rw [htext]
    exact (here_join _).symm
  by_cases hrest : rest = []
  · rw [hrest, if_pos (by simp), List.append_nil]
    exact (join_here _).symm
  · rw [if_neg (by simp [htext, hrest])]
    exact ofChars_joinTexts text rest

theorem endsInPart_of_isPart {name : List Char} (hpart : isPart name = true)
    (hslash : '/' ∉ name) : EndsInPart name := by
  intro piece hpiece
  rw [splitSlash_of_notMem hslash] at hpiece
  rwa [← Option.some.inj hpiece]

theorem endsInPart_joinTexts (text : List Char) {name : List Char} (hpart : isPart name = true)
    (hslash : '/' ∉ name) : EndsInPart (joinTexts text name) := by
  have hhead := head_ne_of_notMem hslash
  by_cases hne : text = []
  · have htext : joinTexts text name = name := by simp [joinTexts, hhead, hne]
    rw [htext]
    exact endsInPart_of_isPart hpart hslash
  · intro piece hpiece
    rw [joinTexts_eq hne hhead, splitSlash_slash, splitSlash_of_notMem hslash,
      List.getLast?_concat] at hpiece
    rwa [← Option.some.inj hpiece]

/-- A listed text that leads to a file ends with a name. -/
theorem endsInPart_of_isFile (hwf : tree.WellFormed) {root : Path} (hroot : ofText root.text = root)
    {text : List Char} (h : text ∈ listing tree current root.text.toList onlyDirectories pattern)
    (hfile : tree.isFile current (root.join (ofChars text)) = true) : EndsInPart text := by
  rw [listing_eq] at h
  split at h
  · obtain ⟨hpart, hslash⟩ := isPart_of_mem_matchingNames hwf h
    exact endsInPart_of_isPart hpart hslash
  · obtain ⟨directory, _, hmem⟩ := List.mem_flatMap.1 h
    obtain ⟨found, hfound, rfl⟩ := List.mem_map.1 hmem
    unfold namesAt at hfound
    split at hfound
    · obtain ⟨hpart, hslash⟩ := isPart_of_mem_matchingNames hwf hfound
      exact endsInPart_joinTexts directory hpart hslash
    · obtain ⟨hpresent, rfl⟩ := mem_presentName_iff.1 hfound
      have hslash := slash_notMem_splitLast pattern
      split at hpresent
      · -- without a name the text leads to the directory itself, which is no file
        rename_i hempty
        have hname : ofChars (splitLast pattern).2 = here := by
          rcases Bool.or_eq_true_iff.1 hempty with hnil | hdot
          · rw [List.isEmpty_iff.1 hnil]
            rfl
          · rw [of_decide_eq_true hdot]
            rfl
        have hroot' : ofChars root.text.toList = root := hroot
        rw [ofChars_joinTexts, hname, join_here] at hfile
        rw [ofChars_underRoot, hroot'] at hpresent
        exact absurd hpresent (not_isDirectory_of_isFile hfile)
      · rename_i hname
        rw [Bool.or_eq_true_iff, not_or] at hname
        refine endsInPart_joinTexts directory ?_ hslash
        rw [isPart, Bool.and_eq_true, Bool.not_eq_true', bne_iff_ne]
        exact ⟨Bool.eq_false_iff.2 hname.1, fun hdot => hname.2 (decide_eq_true hdot)⟩

end ProtoRefresh.Glob
