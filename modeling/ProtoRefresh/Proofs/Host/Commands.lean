-- What commands do to a host: a command takes the next answer, leaves its
-- outputs behind and ends as the answer says, whatever the files are. So
-- an action that only runs commands goes through the same calls on every
-- tree, in the order that it has planned, up to the first one that fails.
import ProtoRefresh.Proofs.FileTree.Outputs
import ProtoRefresh.Proofs.FileTree.Walk
import ProtoRefresh.Proofs.Host.Ending
import ProtoRefresh.Proofs.Host.Files

namespace ProtoRefresh

open FileTree ProtoRefresh.Action

/-! ## Answers -/

/-- The answer of a command, counted from the next one. -/
def Host.answer (host : Host) (k : Nat) : Response := host.responses[k]?.getD {}

theorem Host.answer_of_drop {host after : Host} {n : Nat}
    (h : after.responses = host.responses.drop n) (k : Nat) :
    after.answer k = host.answer (n + k) := by
  unfold Host.answer
  rw [h, List.getElem?_drop]

/-- What outputs come to, seen from a directory. -/
def placedOutputs (current : Location) (directory : Path) (outputs : List Output) :
    List (Location × Entry) :=
  outputs.map fun output => ((directory.join output.path).location current, output.entry)

/-- What a command leaves behind with an answer. -/
def Call.outputs (current : Location) (call : Call) (response : Response) :
    List (Location × Entry) :=
  placedOutputs current ((call.directory.map Path.ofText).getD Path.here) response.writes

/-- How a command ends with an answer. -/
def Call.result (call : Call) (response : Response) : Except Failure String :=
  match response.outcome with
  | .missing => if call.argv.isEmpty then .error .noItem else .error (.command call.argv none "")
  | .denied => .error (.file .denied (call.argv.head?.getD ""))
  | .ended status =>
    if status ≠ 0 then
      .error (.command call.argv (some status) (if call.captured then response.stderr else ""))
    else .ok (if call.captured then response.stdout else "")

theorem Call.result_eq_ok_iff {call : Call} {response : Response} {value : String} :
    call.result response = .ok value ↔
      response.outcome = .ended 0 ∧ value = if call.captured then response.stdout else "" := by
  unfold Call.result
  cases response.outcome with
  | missing =>
    dsimp only
    split
    · simp
    · simp
  | denied => simp
  | ended status =>
    by_cases hstatus : status = 0
    · subst hstatus
      dsimp only
      rw [if_neg (not_not.2 rfl), Except.ok.injEq]
      exact eq_comm.trans (and_iff_right rfl).symm
    · simp [hstatus]

/-- The host after a command. -/
def Host.afterCall (host : Host) (call : Call) : Host where
  tree := host.tree.withOutputs (call.outputs host.current (host.answer 0))
  current := host.current
  scratch := host.scratch
  responses := host.responses.tail
  calls := host.calls ++ [call]
  log := host.log ++ [⟨.info, "+ " ++ " ".intercalate call.argv⟩]

/-- What some commands leave behind. -/
def Host.outputs (host : Host) (made : List Call) : List (Location × Entry) :=
  (made.zip host.responses).flatMap fun x => x.1.outputs host.current x.2

theorem Host.outputs_append {host : Host} (made more : List Call) :
    host.outputs (made ++ more) = host.outputs made ++
      ({ host with responses := host.responses.drop made.length } : Host).outputs more := by
  have hzip : ∀ (made : List Call) (responses : List Response),
      (made ++ more).zip responses =
        made.zip responses ++ more.zip (responses.drop made.length) := by
    intro made
    induction made with
    | nil => exact fun _ => rfl
    | cons call made ih =>
      intro responses
      cases responses with
      | nil => simp
      | cons response rest => simp [ih]
  unfold Host.outputs
  rw [hzip, List.flatMap_append]

theorem Host.mem_outputs_of_prefix {host : Host} {made planned : List Call} (h : made <+: planned)
    {output : Location × Entry} (ho : output ∈ host.outputs made) :
    output ∈ host.outputs planned := by
  obtain ⟨more, rfl⟩ := h
  rw [outputs_append]
  exact List.mem_append_left _ ho

/-- Without an answer a command leaves nothing behind. -/
theorem Host.outputs_singleton (host : Host) (call : Call) :
    host.outputs [call] = call.outputs host.current (host.answer 0) := by
  unfold Host.outputs Host.answer
  cases host.responses with
  | nil => simp [Call.outputs, placedOutputs]
  | cons response rest => simp

namespace Action

variable {α β : Type} {host after : Host}

/-! ## One command -/

theorem gives_leave {directory : Path} {outputs : List Output} {value : PUnit} :
    Gives (leave directory outputs) host value after ↔
      after = { host with
        tree := host.tree.withOutputs (placedOutputs host.current directory outputs) } := by
  induction outputs generalizing host with
  | nil => exact gives_pure.trans ⟨And.right, fun h => ⟨rfl, h⟩⟩
  | cons output rest ih =>
    have hrest : Gives (leave directory (output :: rest)) host value after ↔
        Gives (leave directory rest) { host with
          tree := host.tree.withOutput
            ((directory.join output.path).location host.current, output.entry) } value after := by
      rw [← ends_ok_iff, ← ends_ok_iff]
      refine ends_bind_of_changes ?_
      rw [gives_get_bind]
      unfold withOutput
      cases he : output.entry with
      | file content => exact gives_setTree.2 rfl
      | directory => exact gives_setTree.2 rfl
    rw [hrest, ih]
    rfl

theorem ends_nextResponse {result : Except Failure Response} :
    Ends nextResponse host result after ↔
      result = .ok (host.answer 0) ∧ after = { host with responses := host.responses.tail } := by
  unfold nextResponse
  rw [ends_get_bind]
  obtain ⟨tree, current, scratch, responses, calls, log⟩ := host
  cases responses with
  | nil => exact ends_pure
  | cons response rest =>
    dsimp only
    exact (ends_bind_of_changes (gives_set.2 rfl)).trans ends_pure

/-- A command ends as its answer says, and the files do not matter. -/
theorem ends_runCommand {argv : List String} {directory : Option String} {captured : Bool}
    {result : Except Failure String} :
    Ends (runCommand argv directory captured) host result after ↔
      result = (⟨argv, directory, captured⟩ : Call).result (host.answer 0) ∧
        after = host.afterCall ⟨argv, directory, captured⟩ := by
  have hlast : ∀ (response : Response) (left : Host), Ends (match response.outcome with
      | .missing => if argv.isEmpty then fail .noItem else fail (.command argv none "")
      | .denied => fail (.file .denied (argv.head?.getD ""))
      | .ended status =>
        if status ≠ 0 then do
          let _ ← (fail (.command argv (some status) (if captured then response.stderr else "")) :
            Action PUnit)
          return if captured then response.stdout else ""
        else return if captured then response.stdout else "") left result after ↔
      result = (⟨argv, directory, captured⟩ : Call).result response ∧ after = left := by
    intro response left
    unfold Call.result
    cases response.outcome with
    | missing =>
      dsimp only
      split
      · exact ends_fail
      · exact ends_fail
    | denied => exact ends_fail
    | ended status =>
      dsimp only
      by_cases hs : status = 0
      · rw [if_neg (not_not.2 hs), if_neg (not_not.2 hs)]
        exact ends_pure
      · rw [ends_guard, if_pos hs]
        simp [hs]
  have hnext : Gives nextResponse { host with
      calls := host.calls ++ [⟨argv, directory, captured⟩]
      log := host.log ++ [⟨.info, "+ " ++ " ".intercalate argv⟩] } (host.answer 0) { host with
      responses := host.responses.tail
      calls := host.calls ++ [⟨argv, directory, captured⟩]
      log := host.log ++ [⟨.info, "+ " ++ " ".intercalate argv⟩] } :=
    ends_ok_iff.1 (ends_nextResponse.2 ⟨rfl, rfl⟩)
  unfold runCommand Host.afterCall Call.outputs
  rw [ends_bind_of_changes (gives_log.2 rfl), ends_bind_of_changes (gives_modify.2 rfl),
    ends_bind_of_gives hnext, ends_bind_of_changes (gives_leave.2 rfl)]
  exact hlast (host.answer 0) _

/-! ## Planned calls -/

/-- The calls that were made are the first of those that were planned, all of them if all went well;
one that failed is the last of them, and its failure is the result. -/
structure Made (planned made : List Call) (host : Host) (result : Except Failure α)
    (after : Host) : Prop where
  calls : after.calls = host.calls ++ made
  responses : after.responses = host.responses.drop made.length
  current : after.current = host.current
  in_order : made <+: planned
  failed : ∀ k call failure, made[k]? = some call →
    call.result (host.answer k) = .error failure → k + 1 = made.length ∧ result = .error failure
  complete : ∀ value, result = .ok value → made = planned

theorem Made.nothing {result : Except Failure α} (hcalls : after.calls = host.calls)
    (hresponses : after.responses = host.responses) (hcurrent : after.current = host.current) :
    Made [] [] host result after where
  calls := by rw [hcalls, List.append_nil]
  responses := hresponses
  current := hcurrent
  in_order := List.prefix_rfl
  failed := by simp
  complete := fun _ _ => rfl

theorem Quiet.made {action : Action α} (h : Quiet action) {result : Except Failure α}
    (hends : Ends action host result after) : Made [] [] host result after := by
  have hafter := h hends
  exact .nothing (by rw [hafter]) (by rw [hafter]) (by rw [hafter])

variable {planned made : List Call}

/-- After a failure what was planned further on is not made. -/
theorem Made.failing {failure : Failure}
    (h : Made planned made host (.error failure : Except Failure α) after) (more : List Call) :
    Made (planned ++ more) made host (.error failure : Except Failure β) after where
  calls := h.calls
  responses := h.responses
  current := h.current
  in_order := h.in_order.trans (List.prefix_append _ _)
  failed := by
    intro k call other hk hother
    obtain ⟨hlast, heq⟩ := h.failed k call other hk hother
    cases heq
    exact ⟨hlast, rfl⟩
  complete := by simp

/-- What fails at once makes no calls. -/
theorem Made.refused (planned : List Call) (host : Host) (failure : Failure) :
    Made planned [] host (.error failure : Except Failure α) host :=
  (Made.nothing rfl rfl rfl : Made [] [] host (.error failure : Except Failure α) host).failing
    planned

theorem Made.append {a : α} {middle : Host} (h : Made planned made host (.ok a) middle)
    {more makes : List Call} {result : Except Failure β} (hrest : Made more makes middle result after) :
    Made (planned ++ more) (made ++ makes) host result after where
  calls := by rw [hrest.calls, h.calls, List.append_assoc]
  responses := by rw [hrest.responses, h.responses, List.drop_drop, List.length_append]
  current := hrest.current.trans h.current
  in_order := by
    rw [h.complete a rfl]
    exact (List.prefix_append_right_inj planned).2 hrest.in_order
  failed := by
    intro k call failure hk hfailure
    by_cases hlt : k < made.length
    · rw [List.getElem?_append_left hlt] at hk
      cases (h.failed k call failure hk hfailure).2
    · rw [List.getElem?_append_right (by omega)] at hk
      have hanswer := Host.answer_of_drop h.responses (k - made.length)
      rw [Nat.add_sub_cancel' (by omega)] at hanswer
      rw [← hanswer] at hfailure
      obtain ⟨hlast, hresult⟩ := hrest.failed _ call failure hk hfailure
      exact ⟨by rw [List.length_append]; omega, hresult⟩
  complete := by
    intro value hvalue
    rw [h.complete a rfl, hrest.complete value hvalue]

/-! ## Actions that only run commands -/

/-- The action makes calls that are planned, and however it ends, it ends so on every tree and
leaves the outputs of its calls there. -/
def Scripted (planned : List Call) (action : Action α) : Prop :=
  ∀ ⦃host result after⦄, Ends action host result after →
    ∃ made, Made planned made host result after ∧
      ∀ tree, Ends action { host with tree := tree } result
        { after with tree := tree.withOutputs (host.outputs made) }

/-- The tree changes by the outputs of the calls alone. -/
theorem Scripted.tree {action : Action α} (h : Scripted planned action)
    {result : Except Failure α} (hends : Ends action host result after) :
    ∃ made, Made planned made host result after ∧
      after.tree = host.tree.withOutputs (host.outputs made) := by
  obtain ⟨made, hmade, hothers⟩ := h hends
  exact ⟨made, hmade, congrArg Host.tree (hends.unique (hothers host.tree)).2⟩

/-- An action that ends well has taken the answers to all its calls. -/
theorem Scripted.responses {action : Action α} (h : Scripted planned action) {a : α}
    (hgives : Gives action host a after) :
    after.responses = host.responses.drop planned.length := by
  obtain ⟨made, hmade, _⟩ := h (ends_ok_iff.2 hgives)
  rw [hmade.responses, hmade.complete a rfl]

theorem Scripted.pure (a : α) : Scripted [] (Pure.pure a : Action α) := by
  intro host result after h
  obtain ⟨rfl, rfl⟩ := ends_pure.1 h
  exact ⟨[], .nothing rfl rfl rfl, fun tree => ends_pure.2 ⟨rfl, rfl⟩⟩

theorem Scripted.bind {first : Action α} {rest : α → Action β} {more : List Call}
    (hfirst : Scripted planned first) (hrest : ∀ a, Scripted more (rest a)) :
    Scripted (planned ++ more) (first >>= rest) := by
  intro host result after h
  rcases ends_bind.1 h with ⟨failure, hfail, rfl⟩ | ⟨a, middle, hgives, hends⟩
  · obtain ⟨made, hmade, htree⟩ := hfirst hfail
    exact ⟨made, hmade.failing more, fun tree => ends_bind.2 (Or.inl ⟨failure, htree tree, rfl⟩)⟩
  · obtain ⟨made, hmade, htree⟩ := hfirst (ends_ok_iff.2 hgives)
    obtain ⟨makes, hmakes, hothers⟩ := hrest a hends
    refine ⟨made ++ makes, hmade.append hmakes, fun tree => ?_⟩
    have houtputs : host.outputs (made ++ makes) = host.outputs made ++ middle.outputs makes := by
      rw [Host.outputs_append]
      unfold Host.outputs
      rw [hmade.responses, hmade.current]
    unfold withOutputs at htree hothers ⊢
    rw [houtputs, List.foldl_append]
    exact ends_bind.2 (Or.inr ⟨a, _, ends_ok_iff.1 (htree tree), hothers _⟩)

theorem Scripted.guard {condition : Prop} [Decidable condition] {failure : Failure}
    {rest : PUnit → Action β} (hrest : Scripted planned (rest ⟨⟩)) :
    Scripted planned (if condition then Action.fail failure >>= rest else rest ⟨⟩) := by
  intro host result after h
  rcases ends_guard.1 h with ⟨hc, rfl, rfl⟩ | ⟨hc, h⟩
  · exact ⟨[], .refused planned after failure, fun tree => ends_guard.2 (Or.inl ⟨hc, rfl, rfl⟩)⟩
  · obtain ⟨made, hmade, htree⟩ := hrest h
    exact ⟨made, hmade, fun tree => ends_guard.2 (Or.inr ⟨hc, htree tree⟩)⟩

theorem Scripted.forM {f : α → Action PUnit} {call : α → Call}
    (hf : ∀ a, Scripted [call a] (f a)) (l : List α) : Scripted (l.map call) (l.forM f) := by
  induction l with
  | nil => exact .pure _
  | cons a l ih => exact (hf a).bind fun _ => ih

theorem scripted_log (level : Level) (message : String) : Scripted [] (log level message) := by
  intro host result after h
  obtain ⟨rfl, rfl⟩ := ends_modify.1 h
  exact ⟨[], .nothing rfl rfl rfl, fun tree => ends_modify.2 ⟨rfl, rfl⟩⟩

theorem scripted_runCommand (argv : List String) (directory : Option String) (captured : Bool) :
    Scripted [⟨argv, directory, captured⟩] (runCommand argv directory captured) := by
  intro host result after h
  obtain ⟨rfl, rfl⟩ := ends_runCommand.1 h
  refine ⟨[⟨argv, directory, captured⟩], ⟨rfl, ?_, rfl, List.prefix_rfl, ?_, fun _ _ => rfl⟩, ?_⟩
  · exact List.drop_one.symm
  · intro k call failure hk hfailure
    obtain ⟨rfl, rfl⟩ : k = 0 ∧ (⟨argv, directory, captured⟩ : Call) = call := by
      cases k with
      | zero => exact ⟨rfl, Option.some.inj hk⟩
      | succ k => cases hk
    exact ⟨rfl, hfailure⟩
  · intro tree
    rw [Host.outputs_singleton]
    exact ends_runCommand.2 ⟨rfl, rfl⟩

end Action

end ProtoRefresh
