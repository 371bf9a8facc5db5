import Mathlib.Data.List.TakeWhile

/-!
# Runs of characters

A run of characters of one kind, in front of text that does not continue it, is what `takeWhile`
takes and what `dropWhile` drops.
-/

namespace ServiceClient.Text

variable {p : Char → Bool}

theorem takeWhile_run {run rest : List Char} (hrun : ∀ c ∈ run, p c = true)
    (hrest : ∀ c ∈ rest.head?, p c = false) : (run ++ rest).takeWhile p = run := by
  rw [List.takeWhile_append_of_pos hrun]
  cases rest with
  | nil => simp
  | cons c rest => simp [hrest c rfl]

theorem dropWhile_run {run rest : List Char} (hrun : ∀ c ∈ run, p c = true)
    (hrest : ∀ c ∈ rest.head?, p c = false) : (run ++ rest).dropWhile p = rest := by
  rw [List.dropWhile_append_of_pos hrun]
  cases rest with
  | nil => rfl
  | cons c rest => simp [hrest c rfl]

/-- Dropping as many characters as the run has drops the run. -/
theorem drop_length_takeWhile (p : Char → Bool) (cs : List Char) :
    cs.drop (cs.takeWhile p).length = cs.dropWhile p :=
  List.append_cancel_left ((List.prefix_iff_eq_append.1 (List.takeWhile_prefix p)).trans
    List.takeWhile_append_dropWhile.symm)

/-- The run and what is left after it are the text. -/
theorem takeWhile_append_drop (p : Char → Bool) (cs : List Char) :
    cs.takeWhile p ++ cs.drop (cs.takeWhile p).length = cs :=
  List.prefix_iff_eq_append.1 (List.takeWhile_prefix p)

/-- What is left after a run does not continue it. -/
theorem head?_drop_length_takeWhile (p : Char → Bool) (cs : List Char) :
    ∀ c ∈ (cs.drop (cs.takeWhile p).length).head?, p c = false := by
  intro c hc
  have hstop := List.head?_dropWhile_not p cs
  rw [drop_length_takeWhile, Option.mem_def] at hc
  simpa [hc] using hstop

end ServiceClient.Text
