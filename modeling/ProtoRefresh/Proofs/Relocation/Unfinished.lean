-- A relocation that misses a file. It stops at the source that finds none,
-- and leaves behind what a relocation by the sources before this one does:
-- the moves before, and of the move at fault the sources before, if any.
import ProtoRefresh.Proofs.Regeneration.Failing
import ProtoRefresh.Proofs.Relocation.Steps

namespace ProtoRefresh.Relocation

open FileTree ProtoRefresh.Action

variable {host after : Host} {directory root : Path} {dryRun : Bool}

/-! ## The source at fault -/

/-- What is reported of a source that is left without a file. -/
def missing (directory : Path) (pattern : String) : PlacementFault :=
  if Glob.isPattern pattern then .noMatch pattern directory else .noFile pattern directory

theorem fails_search_glob {pattern : String} :
    FailsWith (fun failure => ∃ fault, failure = .glob fault) (Glob.search directory pattern) :=
  (FailsWith.ofMapError fun fault _ => ⟨fault, rfl⟩).bind fun _ => .get_bind fun _ => .pure _

/-- A source that finds no file changes nothing. -/
theorem eq_of_ends_expand {pattern : String} {claimed : List Path} {fault : PlacementFault}
    (h : Ends (expand directory pattern claimed) host (.error (.placement fault)) after) :
    after = host ∧ fault = missing directory pattern := by
  unfold expand at h
  unfold missing
  split at h
  · rename_i hpattern
    rw [if_pos hpattern]
    rcases ends_bind.1 h with ⟨failure, hsearch, hfail⟩ | ⟨found, middle, hsearch, hrest⟩
    · cases hfail
      obtain ⟨_, hglob⟩ := fails_search_glob hsearch
      cases hglob
    · obtain ⟨_, _, _, rfl⟩ := gives_search.1 hsearch
      rcases ends_guard.1 hrest with ⟨_, hfail, rfl⟩ | ⟨_, hlast⟩
      · cases hfail
        exact ⟨rfl, rfl⟩
      · cases (ends_pure.1 hlast).1
  · rename_i hname
    rw [if_neg hname]
    rcases ends_guard.1 h with ⟨_, hfail, rfl⟩ | ⟨_, h⟩
    · cases hfail
      exact ⟨rfl, rfl⟩
    · rw [ends_bind_of_gives (gives_isFile.2 ⟨rfl, rfl⟩)] at h
      rcases ends_guard.1 h with ⟨_, hfail, rfl⟩ | ⟨_, h⟩
      · cases hfail
        exact ⟨rfl, rfl⟩
      · cases (ends_pure.1 h).1

/-- No file that was found is missing when it is placed. -/
theorem not_ends_places {source : Source} {found : List Path} {fault : PlacementFault} :
    ¬ Ends (found.mapM (place root dryRun source)) host (.error (.placement fault)) after := by
  intro h
  cases FailsWith.mapM (fails_place root dryRun source) found h

/-- Sources that miss a file stop at one of them, and the ones before it alone would have left the
same host behind. -/
theorem exists_source_of_ends {sources : List Source} {claimed : List Path} {fault : PlacementFault}
    (h : Ends (placeSources directory root dryRun sources claimed) host (.error (.placement fault))
      after) :
    ∃ served source rest placements, sources = served ++ source :: rest ∧
      fault = missing directory source.pattern ∧
      Gives (placeSources directory root dryRun served claimed) host placements after ∧
      Ends (placeSources directory root dryRun (served ++ [source]) claimed) host
        (.error (.placement fault)) after := by
  induction sources generalizing host claimed with
  | nil => cases (ends_pure.1 h).1
  | cons source rest ih =>
    unfold placeSources at h
    rcases ends_bind.1 h with ⟨failure, hexpand, hfail⟩ | ⟨found, expanded, hexpand, h⟩
    · cases hfail
      obtain ⟨rfl, hfault⟩ := eq_of_ends_expand hexpand
      refine ⟨[], source, rest, [], rfl, hfault, gives_placeSources_nil.2 ⟨rfl, rfl⟩, ?_⟩
      rw [List.nil_append]
      unfold placeSources
      exact ends_bind.2 (Or.inl ⟨_, hexpand, rfl⟩)
    · rcases ends_bind.1 h with ⟨failure, hplace, hfail⟩ | ⟨placed, middle, hplace, h⟩
      · -- a placing fails for the system's reasons only
        cases hfail
        exact absurd hplace not_ends_places
      · rcases ends_bind.1 h with ⟨failure, hrest, hfail⟩ | ⟨_, _, _, hlast⟩
        · cases hfail
          obtain ⟨served, other, more, placements, rfl, hfault, hserved, hstops⟩ := ih hrest
          obtain rfl := (gives_expand.1 hexpand).1
          refine ⟨source :: served, other, more, placed ++ placements, rfl, hfault,
            gives_placeSources_cons.2
              ⟨found, placed, middle, placements, hexpand, hplace, hserved, rfl⟩, ?_⟩
          rw [List.cons_append]
          unfold placeSources
          rw [ends_bind_of_gives hexpand, ends_bind_of_gives hplace]
          exact ends_bind.2 (Or.inl ⟨_, hstops, rfl⟩)
        · cases (ends_pure.1 hlast).1

/-! ## The move at fault -/

/-- A move by its first sources only; without any there is no move. -/
def Move.cut (move : Move) (n : Nat) : List Move :=
  if h : move.sources.take n = [] then []
  else [{
    sources := move.sources.take n
    dest := move.dest
    rename := move.rename
    sources_ne_nil := h
    rename_single := by
      intro hrename
      have hsingle := move.rename_single hrename
      rcases hsources : move.sources with _ | ⟨source, _ | ⟨next, rest⟩⟩
      · exact absurd hsources move.sources_ne_nil
      · cases n with
        | zero => exact absurd (List.take_zero) h
        | succ n =>
          rw [hsources] at hsingle
          rwa [List.take_succ_cons, List.take_nil]
      · rw [hsources] at hsingle
        cases hsingle }]

theorem sourcesOf_append (moves more : List Move) :
    sourcesOf (moves ++ more) = sourcesOf moves ++ sourcesOf more := List.flatMap_append

theorem sourcesOf_cut (move : Move) (n : Nat) :
    sourcesOf (move.cut n) = (sourcesOf [move]).take n := by
  unfold Move.cut
  split
  · rename_i hnone
    simp [sourcesOf, ← List.map_take, hnone]
  · simp [sourcesOf, List.map_take]

/-- A source of some moves stands somewhere in one of them. -/
theorem exists_cut_of_sourcesOf {moves : List Move} {served rest : List Source} {source : Source}
    (h : sourcesOf moves = served ++ source :: rest) :
    ∃ i move n, moves[i]? = some move ∧ move.sources[n]? = some source.pattern ∧
      sourcesOf (moves.take i ++ move.cut n) = served ∧
      sourcesOf (moves.take i ++ move.cut (n + 1)) = served ++ [source] := by
  induction moves generalizing served with
  | nil => simp [sourcesOf] at h
  | cons move moves ih =>
    rw [← List.singleton_append, sourcesOf_append] at h
    -- the source stands in a later move, or in the first one
    have hwhere : (∃ more, served = sourcesOf [move] ++ more ∧
        sourcesOf moves = more ++ source :: rest) ∨
        ∃ mine, sourcesOf [move] = served ++ source :: mine := by
      rcases List.append_eq_append_iff.1 h with hlater | ⟨mine, hmine, hmore⟩
      · exact Or.inl hlater
      · cases mine with
        | nil => exact Or.inl ⟨[], by simp [hmine], hmore.symm⟩
        | cons first mine =>
          cases hmore
          exact Or.inr ⟨mine, hmine⟩
    rcases hwhere with ⟨more, rfl, hmoves⟩ | ⟨mine, hmine⟩
    · obtain ⟨i, other, n, hget, hsource, hcut, hnext⟩ := ih hmoves
      refine ⟨i + 1, other, n, hget, hsource, ?_, ?_⟩
      · rw [List.take_succ_cons, ← List.singleton_append, List.append_assoc, sourcesOf_append, hcut]
      · rw [List.take_succ_cons, ← List.singleton_append, List.append_assoc, sourcesOf_append,
          hnext, List.append_assoc]
    · refine ⟨0, move, served.length, rfl, ?_, ?_, ?_⟩
      · have hget := congrArg (fun l => (l[served.length]?).map Source.pattern) hmine
        simpa [sourcesOf] using hget
      · rw [List.take_zero, List.nil_append, sourcesOf_cut, hmine, List.take_left]
      · rw [List.take_zero, List.nil_append, sourcesOf_cut, hmine, List.take_length_add_append]
        rfl

/-- A relocation that misses a file has done no more and no less than the one by the moves before
the source at fault; and it is that source which stops it. -/
theorem a_relocation_stops_before_the_source_at_fault {moves : List Move} {fault : PlacementFault}
    (hrun : Ends (relocate directory root moves dryRun) host (.error (.placement fault)) after) :
    ∃ i move n pattern placements, moves[i]? = some move ∧ move.sources[n]? = some pattern ∧
      fault = missing directory pattern ∧
      Gives (relocate directory root (moves.take i ++ move.cut n) dryRun) host placements after ∧
      Ends (relocate directory root (moves.take i ++ move.cut (n + 1)) dryRun) host
        (.error (.placement fault)) after := by
  obtain ⟨served, source, rest, placements, hsources, hfault, hserved, hstops⟩ :=
    exists_source_of_ends hrun
  obtain ⟨i, move, n, hmove, hpattern, hcut, hnext⟩ := exists_cut_of_sourcesOf hsources
  refine ⟨i, move, n, source.pattern, placements, hmove, hpattern, hfault, ?_, ?_⟩
  · unfold relocate
    rw [hcut]
    exact hserved
  · unfold relocate
    rw [hnext]
    exact hstops

/-- A tree with two generated files. -/
def pairHost : Host where
  tree := (FileTree.empty.withFile ["tmp", "any.rs"] (encode "any")).withFile ["tmp", "api.rs"]
    (encode "api")
  current := []
  scratch := Path.here
  responses := []
  calls := []
  log := []

/-- Moves that name a third one. -/
def missingMoves : List Move :=
  [{ sources := ["any.rs"], dest := "src" },
   { sources := ["api.rs", "type.rs", "*.rs"], dest := "lib" }]

theorem two_files_move_before_the_missing_one : ∃ after,
    Ends (relocate (Path.ofText "tmp") Path.here missingMoves false) pairHost
      (.error (.placement (.noFile "type.rs" (Path.ofText "tmp")))) after ∧
    after.tree.read [] ⟨0, ["src", "any.rs"]⟩ = .ok (encode "any") ∧
    after.tree.read [] ⟨0, ["lib", "api.rs"]⟩ = .ok (encode "api") ∧
    ∃ i move n pattern placements, missingMoves[i]? = some move ∧
      move.sources[n]? = some pattern ∧
      .noFile "type.rs" (Path.ofText "tmp") = missing (Path.ofText "tmp") pattern ∧
      Gives (relocate (Path.ofText "tmp") Path.here (missingMoves.take i ++ move.cut n) false)
        pairHost placements after ∧
      Ends (relocate (Path.ofText "tmp") Path.here (missingMoves.take i ++ move.cut (n + 1)) false)
        pairHost (.error (.placement (.noFile "type.rs" (Path.ofText "tmp")))) after := by
  have hrun : Ends (relocate (Path.ofText "tmp") Path.here missingMoves false) pairHost
      (.error (.placement (.noFile "type.rs" (Path.ofText "tmp")))) _ :=
    ⟨Prod.ext (by decide +kernel) rfl⟩
  exact ⟨_, hrun, eq_ok_of_toOption (by decide +kernel), eq_ok_of_toOption (by decide +kernel),
    a_relocation_stops_before_the_source_at_fault hrun⟩

end ProtoRefresh.Relocation
