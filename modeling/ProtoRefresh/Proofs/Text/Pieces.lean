-- Pieces of texts: the run of characters before the first one that stops
-- it, and what stands between separators.
import Mathlib.Data.List.TakeWhile

namespace ProtoRefresh.Text

variable {text rest run piece : List Char} {c : Char} {keep : Char → Bool}

/-- A run of characters stops where the next one does not go on with it. -/
theorem takeWhile_append_of_stop
    (hkeep : ∀ c ∈ run, keep c = true) (hstop : ∀ c ∈ rest.head?, keep c = false) :
    (run ++ rest).takeWhile keep = run ∧ (run ++ rest).dropWhile keep = rest := by
  rw [List.takeWhile_append_of_pos hkeep, List.dropWhile_append_of_pos hkeep]
  cases rest with
  | nil => exact ⟨List.append_nil run, rfl⟩
  | cons c rest =>
    have hc : ¬ keep c = true := Bool.eq_false_iff.1 (hstop c rfl)
    rw [List.takeWhile_cons_of_neg hc, List.dropWhile_cons_of_neg hc, List.append_nil]
    exact ⟨rfl, rfl⟩

theorem not_of_mem_head?_dropWhile (h : c ∈ (rest.dropWhile keep).head?) :
    keep c = false := by
  have hstop := List.head?_dropWhile_not keep rest
  rw [Option.mem_def.1 h] at hstop
  exact hstop

/-- No piece of a text holds the character that the text is split at. -/
theorem not_mem_of_mem_splitOn (h : piece ∈ text.splitOn c) : c ∉ piece := by
  induction text generalizing piece with
  | nil =>
    rw [List.splitOn_nil, List.mem_singleton] at h
    simp [h]
  | cons d rest ih =>
    rw [List.splitOn_cons_eq_if_modifyHead] at h
    split at h
    · rcases List.mem_cons.1 h with rfl | h
      · exact List.not_mem_nil
      · exact ih h
    · rename_i hd
      obtain ⟨first, others, hsplit⟩ := List.exists_cons_of_ne_nil (List.splitOn_ne_nil c rest)
      rw [hsplit, List.modifyHead_cons] at h
      rcases List.mem_cons.1 h with rfl | h
      · have hfirst : c ∉ first := ih (hsplit ▸ List.mem_cons_self)
        rw [List.mem_cons, not_or]
        exact ⟨fun heq => hd (by simp [heq]), hfirst⟩
      · exact ih (hsplit ▸ List.mem_cons_of_mem _ h)

end ProtoRefresh.Text
