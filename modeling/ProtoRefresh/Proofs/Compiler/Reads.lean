-- The walk over the imports with the files that it reads. The bound on its
-- depth is never what ends it: each file that is read lists a new proto
-- path, and the files of a tree import finitely many names. So the walk
-- ends by itself, and reads no more files than there are inputs and names.
import ProtoRefresh.Proofs.Compiler.InputOrder

namespace ProtoRefresh.Compiler

/-! ## Where the walk goes -/

/-- What the walk has to go to: an input, or a name that a file imports. -/
inductive Wanted
  | input (p : Path)
  | dependency (name : String)

/-- The proto path of what is wanted. -/
def Wanted.proto (setup : Setup) : Wanted → Except Failure String
  | .input p => setup.relativePath p
  | .dependency name => .ok name

/-- The file of what is wanted. An input is read where it is, whatever its proto path finds. -/
def Wanted.file (setup : Setup) (tree : FileTree) (current : Location) :
    Wanted → Except Failure Path
  | .input p => .ok (setup.locate p)
  | .dependency name => setup.findImport tree current name

variable (setup : Setup) (tree : FileTree) (current : Location)

/-- The visit for what is wanted, or none if its proto path is seen already. -/
def Wanted.visit? (seen : List String) (wanted : Wanted) : Except Failure (Option Visit) := do
  let proto ← wanted.proto setup
  if seen.contains proto then return none
  let file ← wanted.file setup tree current
  return some ⟨proto, file⟩

/-- How the walk goes through what is wanted, without a bound on its depth: from the proto paths
that are seen at first, by the files that it reads, to its result. -/
inductive Walks : List String → List Wanted → List Visit → Except Failure (List String) → Prop
  | done {seen : List String} : Walks seen [] [] (.ok seen)
  | stopped {seen : List String} {wanted : Wanted} {later : List Wanted} {failure : Failure}
      (goal : wanted.visit? setup tree current seen = .error failure) :
      Walks seen (wanted :: later) [] (.error failure)
  | passed {seen : List String} {wanted : Wanted} {later : List Wanted} {reads : List Visit}
      {result : Except Failure (List String)}
      (goal : wanted.visit? setup tree current seen = .ok none)
      (rest : Walks seen later reads result) : Walks seen (wanted :: later) reads result
  /-- The file has no text to be read. -/
  | unread {seen : List String} {wanted : Wanted} {later : List Wanted} {visit : Visit}
      {failure : Failure} (goal : wanted.visit? setup tree current seen = .ok (some visit))
      (text : importsOf tree current visit.file = .error failure) :
      Walks seen (wanted :: later) [visit] (.error failure)
  /-- Something that the file imports stops the walk. -/
  | broken {seen : List String} {wanted : Wanted} {later : List Wanted} {visit : Visit}
      {dependencies : List String} {reads : List Visit} {failure : Failure}
      (goal : wanted.visit? setup tree current seen = .ok (some visit))
      (text : importsOf tree current visit.file = .ok dependencies)
      (inner : Walks (seen ++ [visit.proto]) (dependencies.map .dependency) reads
        (.error failure)) :
      Walks seen (wanted :: later) (visit :: reads) (.error failure)
  /-- The walk follows all that the file imports, and then what else is wanted. -/
  | explored {seen more : List String} {wanted : Wanted} {later : List Wanted} {visit : Visit}
      {dependencies : List String} {reads others : List Visit}
      {result : Except Failure (List String)}
      (goal : wanted.visit? setup tree current seen = .ok (some visit))
      (text : importsOf tree current visit.file = .ok dependencies)
      (inner : Walks (seen ++ [visit.proto]) (dependencies.map .dependency) reads (.ok more))
      (rest : Walks more later others result) :
      Walks seen (wanted :: later) (visit :: (reads ++ others)) result

variable {setup tree current} {seen more : List String} {wanted : Wanted} {all later : List Wanted}
  {visit : Visit} {reads others : List Visit} {result other : Except Failure (List String)}

theorem Wanted.visit?_eq_some (h : wanted.visit? setup tree current seen = .ok (some visit)) :
    wanted.proto setup = .ok visit.proto ∧ visit.proto ∉ seen := by
  unfold Wanted.visit? at h
  obtain ⟨proto, hproto, h⟩ := except_bind_eq_ok.1 h
  by_cases hseen : proto ∈ seen
  · rw [if_pos (by simpa using hseen)] at h
    cases h
  · rw [if_neg (by simpa using hseen)] at h
    obtain ⟨file, _, h⟩ := except_bind_eq_ok.1 h
    cases h
    exact ⟨hproto, hseen⟩

theorem Wanted.visit?_of_seen {proto : String} (name : wanted.proto setup = .ok proto)
    (hseen : proto ∈ seen) : wanted.visit? setup tree current seen = .ok none := by
  unfold Wanted.visit?
  rw [name]
  exact if_pos (by simpa using hseen)

theorem Wanted.visit?_of_fresh {proto : String} (name : wanted.proto setup = .ok proto)
    (hfresh : proto ∉ seen) : wanted.visit? setup tree current seen =
      (wanted.file setup tree current).map fun file => some ⟨proto, file⟩ := by
  unfold Wanted.visit?
  rw [name]
  refine (if_neg (by simpa using hfresh)).trans ?_
  cases wanted.file setup tree current with
  | error failure => rfl
  | ok file => rfl

/-! ## Laws of the walk -/

/-- The walk goes one way only. -/
theorem Walks.unique (h : Walks setup tree current seen all reads result)
    (ho : Walks setup tree current seen all others other) : others = reads ∧ other = result := by
  induction h generalizing others other with
  | done =>
    cases ho
    exact ⟨rfl, rfl⟩
  | stopped goal =>
    cases ho with
    | stopped goal' =>
      cases goal.symm.trans goal'
      exact ⟨rfl, rfl⟩
    | _ => simp_all
  | passed goal _ ih =>
    cases ho with
    | passed _ rest => exact ih rest
    | _ => simp_all
  | unread goal text =>
    cases ho with
    | unread goal' text' =>
      cases goal.symm.trans goal'
      cases text.symm.trans text'
      exact ⟨rfl, rfl⟩
    | _ => simp_all
  | broken goal text _ ih =>
    cases ho with
    | broken goal' text' inner =>
      cases goal.symm.trans goal'
      cases text.symm.trans text'
      obtain ⟨rfl, hfailure⟩ := ih inner
      exact ⟨rfl, hfailure⟩
    | explored goal' text' inner =>
      cases goal.symm.trans goal'
      cases text.symm.trans text'
      cases (ih inner).2
    | _ => simp_all
  | explored goal text _ _ ihinner ihrest =>
    cases ho with
    | broken goal' text' inner =>
      cases goal.symm.trans goal'
      cases text.symm.trans text'
      cases (ihinner inner).2
    | explored goal' text' inner rest =>
      cases goal.symm.trans goal'
      cases text.symm.trans text'
      obtain ⟨rfl, hmore⟩ := ihinner inner
      cases hmore
      obtain ⟨rfl, rfl⟩ := ihrest rest
      exact ⟨rfl, rfl⟩
    | _ => simp_all

/-- A walk that comes through has listed what it read, behind what was seen before. -/
theorem Walks.listed (h : Walks setup tree current seen all reads result) :
    ∀ more, result = .ok more → more = seen ++ protos reads := by
  induction h with
  | done =>
    intro more hmore
    cases hmore
    simp [protos]
  | stopped => exact fun _ hmore => by cases hmore
  | passed _ _ ih => exact ih
  | unread => exact fun _ hmore => by cases hmore
  | broken => exact fun _ hmore => by cases hmore
  | explored _ _ _ _ ihinner ihrest =>
    intro more hmore
    rw [ihrest more hmore, ihinner _ rfl, protos_cons, protos_append]
    simp

/-- The walk reads for new proto paths only, and one file for each. -/
theorem Walks.nodup (h : Walks setup tree current seen all reads result) (hseen : seen.Nodup) :
    (seen ++ protos reads).Nodup := by
  have hnext : ∀ {seen : List String} {visit : Visit}, visit.proto ∉ seen → seen.Nodup →
      (seen ++ [visit.proto]).Nodup :=
    fun hfresh hseen => hseen.append (List.nodup_singleton _) (by simpa using hfresh)
  induction h with
  | done => simpa [protos] using hseen
  | stopped => simpa [protos] using hseen
  | passed _ _ ih => exact ih hseen
  | unread goal _ => exact hnext (Wanted.visit?_eq_some goal).2 hseen
  | broken goal _ _ ih => simpa using ih (hnext (Wanted.visit?_eq_some goal).2 hseen)
  | explored goal _ inner _ ihinner ihrest =>
    have hinner := ihinner (hnext (Wanted.visit?_eq_some goal).2 hseen)
    rw [← inner.listed _ rfl] at hinner
    have hrest := ihrest hinner
    rw [inner.listed _ rfl] at hrest
    simpa using hrest

/-- What is wanted is an input, or stands in a file of the tree. -/
def Wanted.Known (setup : Setup) (tree : FileTree) : Wanted → Prop
  | .input p => p ∈ setup.inputs
  | .dependency name => name ∈ importNames tree

theorem known_dependencies {file : Path} {dependencies : List String}
    (h : importsOf tree current file = .ok dependencies) :
    ∀ wanted ∈ dependencies.map Wanted.dependency, wanted.Known setup tree := by
  rw [List.forall_mem_map]
  exact fun name hname => mem_importNames h hname

/-- The walk reads for proto paths of inputs and for names that stand in files of the tree. -/
theorem Walks.known (h : Walks setup tree current seen all reads result)
    (hall : ∀ wanted ∈ all, wanted.Known setup tree) :
    ∀ visit ∈ reads, ∃ wanted : Wanted, wanted.Known setup tree ∧
      wanted.proto setup = .ok visit.proto := by
  induction h with
  | done => exact fun _ hvisit => absurd hvisit List.not_mem_nil
  | stopped => exact fun _ hvisit => absurd hvisit List.not_mem_nil
  | passed _ _ ih => exact ih fun wanted hw => hall wanted (List.mem_cons_of_mem _ hw)
  | unread goal _ =>
    rw [List.forall_mem_singleton]
    exact ⟨_, hall _ List.mem_cons_self, (Wanted.visit?_eq_some goal).1⟩
  | broken goal text _ ih =>
    rw [List.forall_mem_cons]
    exact ⟨⟨_, hall _ List.mem_cons_self, (Wanted.visit?_eq_some goal).1⟩,
      ih (known_dependencies text)⟩
  | explored goal text _ _ ihinner ihrest =>
    rw [List.forall_mem_cons, List.forall_mem_append]
    exact ⟨⟨_, hall _ List.mem_cons_self, (Wanted.visit?_eq_some goal).1⟩,
      ihinner (known_dependencies text), ihrest fun wanted hw => hall wanted (List.mem_cons_of_mem _ hw)⟩

/-! ## The walk comes to its end -/

/-- The walk through one name that a file imports, with a bound on the depth behind it. -/
def Setup.follow (setup : Setup) (tree : FileTree) (current : Location) (depth : Nat)
    (seen : List String) (dependency : String) : Except Failure (List String) := do
  if seen.contains dependency then return seen
  let found ← setup.findImport tree current dependency
  setup.visit tree current depth seen dependency found

theorem visit_of_unread {depth : Nat} {failure : Failure} (hfresh : visit.proto ∉ seen)
    (text : importsOf tree current visit.file = .error failure) :
    setup.visit tree current (depth + 1) seen visit.proto visit.file = .error failure := by
  unfold Setup.visit
  rw [if_neg (by simpa using hfresh), text]
  rfl

theorem visit_of_text {depth : Nat} {dependencies : List String} (hfresh : visit.proto ∉ seen)
    (text : importsOf tree current visit.file = .ok dependencies) :
    setup.visit tree current (depth + 1) seen visit.proto visit.file =
      dependencies.foldlM (setup.follow tree current depth) (seen ++ [visit.proto]) := by
  unfold Setup.visit
  rw [if_neg (by simpa using hfresh), text]
  rfl

/-- A visit and the rest of the walk come to their end, if what the file imports and the rest do. -/
theorem walks_visit {depth : Nat} {rest : List String → Except Failure (List String)}
    (goal : wanted.visit? setup tree current seen = .ok (some visit))
    (hinner : ∀ dependencies, importsOf tree current visit.file = .ok dependencies →
      ∃ reads, Walks setup tree current (seen ++ [visit.proto]) (dependencies.map .dependency) reads
        (dependencies.foldlM (setup.follow tree current depth) (seen ++ [visit.proto])))
    (hrest : ∀ more, seen ⊆ more → ∃ reads, Walks setup tree current more later reads (rest more)) :
    ∃ reads, Walks setup tree current seen (wanted :: later) reads
      (setup.visit tree current (depth + 1) seen visit.proto visit.file >>= rest) := by
  have hfresh := (Wanted.visit?_eq_some goal).2
  cases text : importsOf tree current visit.file with
  | error failure =>
    rw [visit_of_unread hfresh text]
    exact ⟨_, .unread goal text⟩
  | ok dependencies =>
    obtain ⟨reads, inner⟩ := hinner dependencies text
    rw [visit_of_text hfresh text]
    cases hrun : dependencies.foldlM (setup.follow tree current depth) (seen ++ [visit.proto]) with
    | error failure =>
      rw [hrun] at inner
      exact ⟨_, .broken goal text inner⟩
    | ok more =>
      rw [hrun] at inner
      obtain ⟨others, hothers⟩ := hrest more (by simp [inner.listed more rfl])
      exact ⟨_, .explored goal text inner hothers⟩

/-- The walk through names that files of the tree import comes to its end within as many steps down
as there are such names that are not seen. -/
theorem walks_dependencies (depth : Nat) :
    ∀ {dependencies seen : List String}, dependencies ⊆ importNames tree →
      unlisted tree seen ≤ depth →
      ∃ reads, Walks setup tree current seen (dependencies.map .dependency) reads
        (dependencies.foldlM (setup.follow tree current depth) seen) := by
  induction depth using Nat.strong_induction_on with
  | _ depth ih =>
    intro dependencies
    induction dependencies with
    | nil => exact fun _ _ => ⟨[], .done⟩
    | cons name rest ihrest =>
      intro seen hknown hdepth
      obtain ⟨hname, hrest⟩ := List.cons_subset.1 hknown
      rw [List.foldlM_cons, List.map_cons]
      have hproto : (Wanted.dependency name).proto setup = .ok name := rfl
      by_cases hseen : name ∈ seen
      · have hstep : setup.follow tree current depth seen name = .ok seen :=
          if_pos (by simpa using hseen)
        obtain ⟨reads, hwalk⟩ := ihrest hrest hdepth
        rw [hstep]
        exact ⟨reads, .passed (Wanted.visit?_of_seen hproto hseen) hwalk⟩
      · have hstep : setup.follow tree current depth seen name =
            setup.findImport tree current name >>= setup.visit tree current depth seen name :=
          if_neg (by simpa using hseen)
        have hgoal : (Wanted.dependency name).visit? setup tree current seen =
            (setup.findImport tree current name).map fun file => some ⟨name, file⟩ :=
          Wanted.visit?_of_fresh hproto hseen
        rw [hstep]
        cases hfile : setup.findImport tree current name with
        | error failure => exact ⟨[], .stopped (by rw [hgoal, hfile]; rfl)⟩
        | ok file =>
          have hvisit : (Wanted.dependency name).visit? setup tree current seen =
              .ok (some ⟨name, file⟩) := by
            rw [hgoal, hfile]
            rfl
          -- the name is one of those that are not seen, so there is a step down left
          have hless := unlisted_lt hname hseen
          obtain ⟨deeper, rfl⟩ := Nat.exists_eq_succ_of_ne_zero (show depth ≠ 0 by omega)
          refine walks_visit hvisit (fun dependencies text => ?_)
            fun more hmore => ihrest hrest ((unlisted_mono hmore).trans hdepth)
          exact ih deeper (Nat.lt_succ_self deeper) (fun _ hd => mem_importNames text hd)
            (Nat.le_of_lt_succ (hless.trans_le hdepth))

/-- The walk through one input. -/
def Setup.followInput (setup : Setup) (tree : FileTree) (current : Location) (seen : List String)
    (p : Path) : Except Failure (List String) := do
  let proto ← setup.relativePath p
  setup.visit tree current (importCount tree + 2) seen proto (setup.locate p)

/-- The walk through inputs comes to its end within the bound that is set for it. -/
theorem walks_inputs (inputs : List Path) :
    ∀ seen, ∃ reads, Walks setup tree current seen (inputs.map .input) reads
      (inputs.foldlM (setup.followInput tree current) seen) := by
  induction inputs with
  | nil => exact fun _ => ⟨[], .done⟩
  | cons p rest ih =>
    intro seen
    rw [List.foldlM_cons, List.map_cons]
    cases hproto : setup.relativePath p with
    | error failure =>
      have hstep : setup.followInput tree current seen p = .error failure := by
        rw [Setup.followInput, hproto]
        rfl
      rw [hstep]
      exact ⟨[], .stopped (by rw [Wanted.visit?, Wanted.proto, hproto]; rfl)⟩
    | ok proto =>
      have hstep : setup.followInput tree current seen p =
          setup.visit tree current (importCount tree + 2) seen proto (setup.locate p) := by
        rw [Setup.followInput, hproto]
        rfl
      rw [hstep]
      by_cases hseen : proto ∈ seen
      · obtain ⟨reads, hwalk⟩ := ih seen
        have hskip : setup.visit tree current (importCount tree + 2) seen proto (setup.locate p) =
            .ok seen := by
          unfold Setup.visit
          exact if_pos (by simpa using hseen)
        rw [hskip]
        exact ⟨reads, .passed (Wanted.visit?_of_seen hproto hseen) hwalk⟩
      · have hvisit : (Wanted.input p).visit? setup tree current seen =
            .ok (some ⟨proto, setup.locate p⟩) := Wanted.visit?_of_fresh hproto hseen
        refine walks_visit hvisit (fun dependencies text => ?_) fun more _ => ih more
        exact walks_dependencies _ (fun _ hd => mem_importNames text hd)
          ((unlisted_le tree _).trans (Nat.le_succ _))

/-! ## How much is read -/

/-- The files that are read are no more than the inputs and the names in the files of the tree. -/
theorem length_reads_le (h : Walks setup tree current [] (setup.inputs.map .input) reads result) :
    reads.length ≤ setup.inputs.length + (importNames tree).toFinset.card := by
  have hinputs : ∀ wanted ∈ setup.inputs.map Wanted.input, wanted.Known setup tree := by
    rw [List.forall_mem_map]
    exact fun p hp => hp
  let starts := setup.inputs.filterMap fun p => (setup.relativePath p).toOption
  have hsub : (protos reads).toFinset ⊆ starts.toFinset ∪ (importNames tree).toFinset := by
    intro proto hproto
    obtain ⟨visit, hvisit, rfl⟩ := List.mem_map.1 (List.mem_toFinset.1 hproto)
    obtain ⟨wanted, hknown, hname⟩ := h.known hinputs visit hvisit
    rw [Finset.mem_union, List.mem_toFinset, List.mem_toFinset]
    cases wanted with
    | input p =>
      refine Or.inl (List.mem_filterMap.2 ⟨p, hknown, ?_⟩)
      rw [Wanted.proto] at hname
      rw [hname]
      rfl
    | dependency name =>
      cases hname
      exact Or.inr hknown
  have hstarts : starts.toFinset.card ≤ setup.inputs.length :=
    (List.toFinset_card_le _).trans (List.length_filterMap_le _ _)
  have hnodup : (protos reads).Nodup := by simpa using h.nodup List.nodup_nil
  calc reads.length
      = (protos reads).toFinset.card := by
        rw [List.toFinset_card_of_nodup hnodup, protos, List.length_map]
    _ ≤ (starts.toFinset ∪ (importNames tree).toFinset).card := Finset.card_le_card hsub
    _ ≤ starts.toFinset.card + (importNames tree).toFinset.card := Finset.card_union_le _ _
    _ ≤ setup.inputs.length + (importNames tree).toFinset.card := Nat.add_le_add_right hstarts _

/-- In every tree the walk over the imports comes to its end, in one way only, and its result is
that of the check. It reads one file at most for a proto path, and no more files than there are
inputs and different names that the files of the tree import. -/
theorem the_walk_ends_and_reads_each_proto_path_once (setup : Setup) (host : Host) :
    ∃ reads result, Action.Ends setup.checkImports host result host ∧
      Walks setup host.tree host.current [] (setup.inputs.map .input) reads result ∧
      (∀ others other, Walks setup host.tree host.current [] (setup.inputs.map .input) others other →
        others = reads ∧ other = result) ∧
      (∀ listed, result = .ok listed → listed = protos reads) ∧
      (protos reads).Nodup ∧
      reads.length ≤ setup.inputs.length + (importNames host.tree).toFinset.card := by
  obtain ⟨reads, hwalk⟩ : ∃ reads, Walks setup host.tree host.current []
      (setup.inputs.map .input) reads (setup.reachable host.tree host.current) :=
    walks_inputs setup.inputs []
  refine ⟨reads, _, ends_checkImports.2 ⟨rfl, rfl⟩, hwalk, fun others other ho => hwalk.unique ho,
    fun listed hlisted => ?_, ?_, length_reads_le hwalk⟩
  · simpa using hwalk.listed listed hlisted
  · simpa using hwalk.nodup List.nodup_nil

end ProtoRefresh.Compiler
