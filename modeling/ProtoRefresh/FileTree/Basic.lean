-- A tree of files and directories, as a map from locations. A location is
-- the list of names from the root; the root itself is always there. The
-- entries are kept in order, so that trees with equal entries are equal.

namespace ProtoRefresh

/-! ## Entries -/

/-- The bytes of a file. -/
abbrev Content := List UInt8

/-- The names from the root down. -/
abbrev Location := List String

inductive Entry
  | file (content : Content)
  | directory
  deriving DecidableEq, Repr, Inhabited

/-- Puts an entry into a list in order. -/
def insertEntry (place : Location) (entry : Entry) :
    List (Location × Entry) → List (Location × Entry)
  | [] => [(place, entry)]
  | (p, e) :: rest =>
    if place < p then (place, entry) :: (p, e) :: rest
    else if p < place then (p, e) :: insertEntry place entry rest
    else (place, entry) :: rest

theorem mem_insertEntry {place : Location} {entry : Entry} {l : List (Location × Entry)}
    {x : Location × Entry} (h : x ∈ insertEntry place entry l) : x = (place, entry) ∨ x ∈ l := by
  induction l with
  | nil => simpa [insertEntry] using h
  | cons y rest ih =>
    obtain ⟨p, e⟩ := y
    simp only [insertEntry] at h
    split at h
    · simpa using h
    · split at h
      · rcases List.mem_cons.1 h with h | h
        · exact Or.inr (by simp [h])
        · rcases ih h with h | h
          · exact Or.inl h
          · exact Or.inr (List.mem_cons_of_mem _ h)
      · rcases List.mem_cons.1 h with h | h
        · exact Or.inl h
        · exact Or.inr (List.mem_cons_of_mem _ h)

theorem insertEntry_sorted {place : Location} {entry : Entry} {l : List (Location × Entry)}
    (h : l.Pairwise fun x y => x.1 < y.1) :
    (insertEntry place entry l).Pairwise fun x y => x.1 < y.1 := by
  induction l with
  | nil => simp [insertEntry]
  | cons y rest ih =>
    obtain ⟨p, e⟩ := y
    have hp := List.pairwise_cons.1 h
    simp only [insertEntry]
    split
    · rename_i hlt
      refine List.pairwise_cons.2 ⟨fun x hx => ?_, h⟩
      rcases List.mem_cons.1 hx with rfl | hx
      · exact hlt
      · exact List.lt_trans hlt (hp.1 x hx)
    · split
      · rename_i hlt
        refine List.pairwise_cons.2 ⟨fun x hx => ?_, ih hp.2⟩
        rcases mem_insertEntry hx with rfl | hx
        · exact hlt
        · exact hp.1 x hx
      · rename_i h1 h2
        have heq : place = p := List.le_antisymm (List.not_lt.1 h2) (List.not_lt.1 h1)
        exact List.pairwise_cons.2 ⟨fun x hx => heq ▸ hp.1 x hx, hp.2⟩

/-! ## Trees -/

structure FileTree where
  entries : List (Location × Entry)
  sorted : entries.Pairwise fun x y => x.1 < y.1
  deriving DecidableEq

namespace FileTree

/-- The tree that holds nothing but its root. -/
def empty : FileTree := ⟨[], List.Pairwise.nil⟩

instance : Inhabited FileTree := ⟨empty⟩

/-- What stands at a location. -/
def get? (tree : FileTree) (place : Location) : Option Entry :=
  if place.isEmpty then some .directory else tree.entries.lookup place

/-- The tree with an entry at a location. -/
def set (tree : FileTree) (place : Location) (entry : Entry) : FileTree :=
  ⟨insertEntry place entry tree.entries, insertEntry_sorted tree.sorted⟩

/-- The tree without the locations that a test picks. -/
def remove (tree : FileTree) (picked : Location → Bool) : FileTree :=
  ⟨tree.entries.filter fun x => !picked x.1, tree.sorted.filter _⟩

/-- The tree without one location. -/
def erase (tree : FileTree) (place : Location) : FileTree := tree.remove (· == place)

/-- The tree without what is at or below a location. -/
def eraseBelow (tree : FileTree) (place : Location) : FileTree := tree.remove place.isPrefixOf

/-- The names in a directory, in order. -/
def names (tree : FileTree) (place : Location) : List String :=
  tree.entries.filterMap fun x =>
    if x.1.dropLast = place then x.1.getLast? else none

/-- Whether a directory is at a location. -/
def isDirectoryAt (tree : FileTree) (place : Location) : Bool := tree.get? place = some .directory

/-- The tree with a location and all above it as directories. A file in the way goes. -/
def withDirectories (tree : FileTree) (place : Location) : FileTree :=
  (List.range place.length).foldl
    (fun tree n =>
      let above := place.take (n + 1)
      if tree.isDirectoryAt above then tree else tree.set above .directory)
    tree

/-- The tree with a file, and directories above it. What is in the way goes. -/
def withFile (tree : FileTree) (place : Location) (content : Content) : FileTree :=
  ((tree.withDirectories place.dropLast).eraseBelow place).set place (.file content)

end FileTree

end ProtoRefresh
