-- With what actions fail. A chain of steps fails with what one of its steps
-- fails with, and an action on files fails only because the system or a
-- check of values refuses it.
import ProtoRefresh.Proofs.Host.Ending
import ProtoRefresh.Proofs.Host.Files

namespace ProtoRefresh

/-- A failure by which the system or a check of values refuses an action. -/
def Failure.IsRefusal (failure : Failure) : Prop :=
  failure.family = .system ∨ failure.family = .value

theorem Failure.IsRefusal.shown {failure : Failure} (h : failure.IsRefusal) :
    failure.family ≠ .other := by
  rcases h with h | h
  · simp [h]
  · simp [h]

/-- What an action on files fails with. -/
inductive Failure.IsOfFiles : Failure → Prop
  | file (error : FileError) (shown : String) : IsOfFiles (.file error shown)
  | notTree (p : Path) : IsOfFiles (.notTree p)
  | taken (shown : String) : IsOfFiles (.taken shown)
  | ended (use : PathUse) : IsOfFiles (.endedPath use)
  | undecodable (fault : Text.Utf8Fault) : IsOfFiles (.document (.undecodable fault))
  | unencodable (fault : Text.HalfFault) : IsOfFiles (.unencodable fault)

namespace Action

variable {α β : Type} {P Q : Failure → Prop}

/-! ## Chains -/

/-- Whenever the action fails, its failure has a property. -/
def FailsWith (P : Failure → Prop) (action : Action α) : Prop :=
  ∀ ⦃host failure after⦄, Ends action host (.error failure) after → P failure

theorem FailsWith.mono {action : Action α} (h : FailsWith P action)
    (himp : ∀ failure, P failure → Q failure) : FailsWith Q action :=
  fun _ _ _ hends => himp _ (h hends)

theorem FailsWith.pure (a : α) : FailsWith P (Pure.pure a : Action α) := by
  intro host failure after h
  cases (ends_pure.1 h).1

theorem FailsWith.fail {failure : Failure} (hp : P failure) :
    FailsWith P (Action.fail failure : Action α) := by
  intro host other after h
  cases (ends_fail.1 h).1
  exact hp

theorem FailsWith.ofExcept {check : Except Failure α}
    (hp : ∀ failure, check = .error failure → P failure) : FailsWith P (Action.ofExcept check) := by
  intro host failure after h
  exact hp failure (ends_ofExcept.1 h).1.symm

/-- A check whose errors are wrapped fails with a wrapped error. -/
theorem FailsWith.ofMapError {ε : Type} {check : Except ε α} {wrap : ε → Failure}
    (hp : ∀ e, check = .error e → P (wrap e)) :
    FailsWith P (Action.ofExcept (check.mapError wrap)) := by
  apply FailsWith.ofExcept
  intro failure h
  cases check with
  | error e =>
    cases h
    exact hp e rfl
  | ok a => cases h

theorem FailsWith.bind {first : Action α} {rest : α → Action β} (hfirst : FailsWith P first)
    (hrest : ∀ a, FailsWith P (rest a)) : FailsWith P (first >>= rest) := by
  intro host failure after h
  rcases ends_bind.1 h with ⟨other, hfail, heq⟩ | ⟨a, middle, _, hends⟩
  · cases heq
    exact hfirst hfail
  · exact hrest a hends

theorem FailsWith.get_bind {rest : Host → Action β} (hrest : ∀ host, FailsWith P (rest host)) :
    FailsWith P (get >>= rest) := by
  intro host failure after h
  exact hrest host (ends_get_bind.1 h)

theorem FailsWith.modify (f : Host → Host) : FailsWith P (modify f : Action PUnit) := by
  intro host failure after h
  cases (ends_modify.1 h).1

theorem FailsWith.guard {condition : Prop} [Decidable condition] {failure : Failure}
    {rest : PUnit → Action β} (hp : P failure) (hrest : FailsWith P (rest ⟨⟩)) :
    FailsWith P (if condition then Action.fail failure >>= rest else rest ⟨⟩) := by
  intro host other after h
  rcases ends_guard.1 h with ⟨_, heq, _⟩ | ⟨_, h⟩
  · cases heq
    exact hp
  · exact hrest h

theorem FailsWith.mapM {f : α → Action β} (hf : ∀ a, FailsWith P (f a)) (l : List α) :
    FailsWith P (l.mapM f) := by
  induction l with
  | nil =>
    rw [List.mapM_nil]
    exact .pure _
  | cons a l ih =>
    rw [List.mapM_cons]
    exact (hf a).bind fun b => ih.bind fun bs => .pure (b :: bs)

theorem FailsWith.forM {f : α → Action PUnit} (hf : ∀ a, FailsWith P (f a)) (l : List α) :
    FailsWith P (l.forM f) := by
  induction l with
  | nil => exact .pure _
  | cons a l ih => exact (hf a).bind fun _ => ih

/-! ## Looking -/

theorem fails_log (level : Level) (message : String) : FailsWith P (log level message) := .modify _

theorem fails_setTree (tree : FileTree) : FailsWith P (setTree tree) := .modify _

theorem fails_isFile (p : Path) : FailsWith P (isFile p) := .get_bind fun _ => .pure _

theorem fails_isDirectory (p : Path) : FailsWith P (isDirectory p) := .get_bind fun _ => .pure _

theorem fails_pathExists (p : Path) : FailsWith P (pathExists p) := .get_bind fun _ => .pure _

theorem fails_readFile (p : Path) : FailsWith Failure.IsOfFiles (readFile p) := by
  unfold readFile
  refine .guard (.ended _) (.get_bind fun host => ?_)
  split
  · exact .pure _
  · exact .fail (.file _ _)

theorem fails_decode (content : Content) : FailsWith Failure.IsOfFiles (decode content) := by
  unfold decode
  split
  · exact .pure _
  · exact .fail (.undecodable _)

/-- A file that the system refuses to read is not read. -/
theorem ends_readFile_of_error {host : Host} {p : Path} {error : FileError}
    (hopen : isEnded p = false) (h : host.tree.read host.current p = .error error) :
    Ends (readFile p) host (.error (.file error p.text)) host := by
  unfold readFile
  dsimp only
  refine ends_guard.2 (Or.inr ⟨Bool.eq_false_iff.1 hopen, ends_get_bind.2 ?_⟩)
  rw [h]
  exact ends_fail.2 ⟨rfl, rfl⟩

theorem ends_decode_of_error {host : Host} {content : Content} {fault : Text.Utf8Fault}
    (h : Text.decodeUtf8 content = .error fault) :
    Ends (decode content) host (.error (.document (.undecodable fault))) host := by
  unfold decode
  rw [h]
  exact ends_fail.2 ⟨rfl, rfl⟩

/-- A file that holds no text is read, and then refused. -/
theorem ends_readText_of_error {host : Host} {p : Path} {content : Content} {fault : Text.Utf8Fault}
    (hopen : isEnded p = false) (hread : host.tree.read host.current p = .ok content)
    (h : Text.decodeUtf8 content = .error fault) :
    Ends (readText p) host (.error (.document (.undecodable fault))) host :=
  (ends_bind_of_gives (gives_readFile.2 ⟨hopen, hread, rfl⟩)).2 (ends_decode_of_error h)

/-! ## Changing -/

/-- A change that the system refuses leaves the host as it is. -/
theorem ends_change_of_error {host : Host} {p : Path}
    {f : FileTree → Location → Except FileError FileTree} {error : FileError}
    (h : f host.tree host.current = .error error) :
    Ends (change p f) host (.error (.file error p.text)) host := by
  unfold change
  rw [ends_get_bind, h]
  exact ends_fail.2 ⟨rfl, rfl⟩

theorem fails_change (p : Path) (f : FileTree → Location → Except FileError FileTree) :
    FailsWith Failure.IsOfFiles (change p f) := by
  refine FailsWith.get_bind fun host => ?_
  split
  · exact fails_setTree _
  · exact .fail (.file _ _)

/-- A file that the system refuses to open for writing gets no text. -/
theorem ends_writeText_of_refused {host : Host} {p : Path} {text : List Text.CodePoint}
    {error : FileError}
    (h : ∀ content, host.tree.write host.current p content = .error error) :
    Ends (writeText p text) host (.error (.file error p.text)) host := by
  unfold writeText
  split
  · exact ends_change_of_error (h _)
  · exact ends_bind.2 (Or.inl ⟨_, ends_change_of_error (h _), rfl⟩)

/-- A text with a half of a pair is not written, but its file is there then, and empty. -/
theorem ends_writeText_of_error {host : Host} {p : Path} {text : List Text.CodePoint}
    {fault : Text.HalfFault} {written : FileTree} (h : Text.stringOf text = .error fault)
    (hwritten : host.tree.write host.current p [] = .ok written) :
    Ends (writeText p text) host (.error (.unencodable fault)) { host with tree := written } := by
  unfold writeText
  rw [h]
  exact (ends_bind_of_changes (gives_change.2 ⟨written, hwritten, rfl⟩)).2
    (ends_fail.2 ⟨rfl, rfl⟩)

theorem fails_writeText (p : Path) (text : List Text.CodePoint) :
    FailsWith Failure.IsOfFiles (writeText p text) := by
  unfold writeText
  split
  · exact fails_change _ _
  · exact (fails_change _ _).bind fun _ => .fail (.unencodable _)

theorem fails_moveFile (source target : Path) :
    FailsWith Failure.IsOfFiles (moveFile source target) := by
  refine (fails_isDirectory target).bind fun there => ?_
  split
  · refine (fails_pathExists _).bind fun taken => .guard (.taken _) ?_
    exact (fails_readFile source).bind fun _ => fails_change _ _
  · refine .guard (.ended _) ?_
    exact (fails_readFile source).bind fun _ => fails_change _ _

theorem fails_makeDirectories (fuel : Nat) (p : Path) (existOk : Bool) :
    FailsWith Failure.IsOfFiles (makeDirectories fuel p existOk) := by
  have hthere : ∀ (there : Bool) (failure : Failure), failure.IsOfFiles →
      FailsWith Failure.IsOfFiles
        (if there = true then Pure.pure () else Action.fail failure : Action Unit) := by
    intro there failure hfiles
    split
    · exact .pure _
    · exact .fail hfiles
  induction fuel generalizing p existOk with
  | zero =>
    unfold makeDirectories
    refine .guard (.ended _) (.get_bind fun host => ?_)
    split
    · exact fails_setTree _
    · exact .fail (.file _ _)
    · exact hthere _ _ (.file _ _)
  | succ fuel ih =>
    unfold makeDirectories
    refine .guard (.ended _) (.get_bind fun host => ?_)
    split
    · exact fails_setTree _
    · refine (ih p.parent true).bind fun _ => .get_bind fun between => ?_
      split
      · exact fails_setTree _
      · exact hthere _ _ (.file _ _)
    · exact hthere _ _ (.file _ _)

theorem fails_removeTree (p : Path) : FailsWith Failure.IsOfFiles (removeTree p) := by
  refine FailsWith.get_bind fun host => ?_
  split
  · exact .fail (.file _ _)
  · split
    · exact .fail (.file _ _)
    · exact .fail (.notTree _)
    · refine (fails_setTree _).bind fun _ => ?_
      exact .guard (.file _ _) (.guard (.file _ _) (.guard (.file _ _) (.modify _)))

end Action

end ProtoRefresh
