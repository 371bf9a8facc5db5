import ServiceClient.Text.Split

/-!
# Pieces of text

Cutting undoes joining: pieces that do not hold what they are joined with come out as they went in.
Cutting at a character is the cutting of the standard library, so only the pairs of newlines between
paragraphs need an argument of their own.
-/

namespace ServiceClient.Text

theorem consFirst_cons (c : Char) (piece : List Char) (pieces : List (List Char)) :
    consFirst c (piece :: pieces) = (c :: piece) :: pieces := rfl

/-! ### Paragraphs -/

/-- A character that is no newline belongs to the first paragraph. -/
theorem splitParagraphs_cons {c : Char} (hc : c ≠ '\n') (rest : List Char) :
    splitParagraphs (c :: rest) = consFirst c (splitParagraphs rest) := by
  rw [splitParagraphs.eq_def]
  split
  · simp_all
  · simp_all
  · simp_all

theorem splitParagraphs_of_notMem {p : List Char} (hp : '\n' ∉ p) : splitParagraphs p = [p] := by
  induction p with
  | nil => rfl
  | cons c p ih =>
    rw [List.mem_cons, not_or] at hp
    rw [splitParagraphs_cons (Ne.symm hp.1), ih hp.2, consFirst_cons]

/-- A paragraph ends at the next pair of newlines. -/
theorem splitParagraphs_append {p : List Char} (hp : '\n' ∉ p) (rest : List Char) :
    splitParagraphs (p ++ '\n' :: '\n' :: rest) = p :: splitParagraphs rest := by
  induction p with
  | nil => rfl
  | cons c p ih =>
    rw [List.mem_cons, not_or] at hp
    rw [List.cons_append, splitParagraphs_cons (Ne.symm hp.1), ih hp.2, consFirst_cons]

/-- Paragraphs that are joined are cut into the same paragraphs again. -/
theorem splitParagraphs_joinParagraphs {paragraphs : List (List Char)} (hne : paragraphs ≠ [])
    (h : ∀ p ∈ paragraphs, '\n' ∉ p) :
    splitParagraphs (joinParagraphs paragraphs) = paragraphs := by
  induction paragraphs with
  | nil => exact absurd rfl hne
  | cons p later ih =>
    have hp := h p List.mem_cons_self
    cases later with
    | nil => rw [joinParagraphs, List.intercalate_singleton, splitParagraphs_of_notMem hp]
    | cons q later =>
      have htail := ih (List.cons_ne_nil q later) fun r hr ↦ h r (List.mem_cons_of_mem p hr)
      rw [joinParagraphs, List.intercalate_cons_cons, List.append_assoc, List.cons_append,
        List.singleton_append, splitParagraphs_append hp]
      exact congrArg (p :: ·) htail

theorem splitParagraphs_ne_nil (cs : List Char) : splitParagraphs cs ≠ [] := by
  fun_cases splitParagraphs cs with
  | case1 => simp
  | case2 rest => simp
  | case3 c rest _ => exact consFirst_ne_nil c _

/-- Paragraphs that are cut are joined to the same text again. -/
theorem joinParagraphs_splitParagraphs (cs : List Char) :
    joinParagraphs (splitParagraphs cs) = cs := by
  fun_induction splitParagraphs cs with
  | case1 => rfl
  | case2 rest ih =>
    obtain ⟨p, later, hp⟩ := List.exists_cons_of_ne_nil (splitParagraphs_ne_nil rest)
    rw [hp] at ih ⊢
    rw [joinParagraphs, List.intercalate_cons_cons, ← joinParagraphs, ih]
    rfl
  | case3 c rest _ ih =>
    rw [joinParagraphs, intercalate_consFirst _ _ (splitParagraphs_ne_nil rest), ← joinParagraphs,
      ih]

/-! ### Pieces between characters -/

/-- There is one more piece than there are characters to cut at. -/
theorem length_splitOn (separator : Char) (cs : List Char) :
    (cs.splitOn separator).length = cs.count separator + 1 := by
  induction cs with
  | nil => rfl
  | cons c cs ih =>
    rw [List.splitOn_eq_splitOnP] at ih
    rw [List.splitOn_eq_splitOnP, List.splitOnP_cons_eq_if_modifyHead, List.count_cons]
    split
    · rw [List.length_cons, ih]
    · rw [List.length_modifyHead, ih, Nat.add_zero]

/-- The first piece of a list begins it, and the later ones stand in it. -/
theorem exists_splitOnP_eq_cons {α : Type} (p : α → Bool) (xs : List α) :
    ∃ first later, xs.splitOnP p = first :: later ∧ first <+: xs ∧
      ∀ piece ∈ later, piece <:+: xs := by
  induction xs with
  | nil => exact ⟨[], [], rfl, List.nil_prefix, by simp⟩
  | cons x xs ih =>
    obtain ⟨first, later, hsplit, hfirst, hlater⟩ := ih
    have hlonger : ∀ piece ∈ later, piece <:+: x :: xs :=
      fun piece hpiece ↦ List.infix_cons (hlater piece hpiece)
    rw [List.splitOnP_cons_eq_if_modifyHead, hsplit]
    split
    · exact ⟨[], first :: later, rfl, List.nil_prefix,
        List.forall_mem_cons.2 ⟨List.infix_cons hfirst.isInfix, hlonger⟩⟩
    · exact ⟨x :: first, later, rfl, List.cons_prefix_cons.2 ⟨rfl, hfirst⟩, hlonger⟩

/-- A piece of a list stands in it. -/
theorem isInfix_of_mem_splitOnP {α : Type} {p : α → Bool} {piece xs : List α}
    (h : piece ∈ xs.splitOnP p) : piece <:+: xs := by
  obtain ⟨first, later, hsplit, hfirst, hlater⟩ := exists_splitOnP_eq_cons p xs
  rw [hsplit, List.mem_cons] at h
  obtain rfl | h := h
  · exact hfirst.isInfix
  · exact hlater piece h

theorem splitOn_eq_splitOnP (separator : Char) (cs : List Char) :
    splitOn separator cs = cs.splitOnP (· = separator) := by
  induction cs with
  | nil => rfl
  | cons c rest ih =>
    obtain ⟨piece, pieces, hp⟩ := List.exists_cons_of_ne_nil (splitOn_ne_nil separator rest)
    rw [splitOn, List.splitOnP_cons_eq_if_modifyHead, ← ih, hp]
    simp only [decide_eq_true_eq, List.modifyHead_cons, consFirst_cons]

/-- A text without the character it is cut at is one piece. -/
theorem splitOn_of_notMem {separator : Char} {cs : List Char} (h : separator ∉ cs) :
    splitOn separator cs = [cs] := by
  induction cs with
  | nil => rfl
  | cons c rest ih =>
    rw [List.mem_cons, not_or] at h
    rw [splitOn, if_neg (Ne.symm h.1), ih h.2, consFirst_cons]

/-- No piece holds the character that is cut at. -/
theorem notMem_of_mem_splitOn {separator : Char} {cs piece : List Char}
    (h : piece ∈ cs.splitOn separator) : separator ∉ piece := by
  induction cs generalizing piece with
  | nil =>
    obtain rfl : piece = [] := List.mem_singleton.1 h
    exact List.not_mem_nil
  | cons c cs ih =>
    rw [List.splitOn_cons_eq_if_modifyHead] at h
    split at h
    · rcases List.mem_cons.1 h with rfl | h
      · exact List.not_mem_nil
      · exact ih h
    · next hc =>
      obtain ⟨first, later, hpieces⟩ :=
        List.exists_cons_of_ne_nil (List.splitOn_ne_nil separator cs)
      rw [hpieces, List.modifyHead_cons] at h
      rcases List.mem_cons.1 h with rfl | h
      · rw [List.mem_cons, not_or]
        exact ⟨fun heq ↦ hc (by simp [heq]), ih (hpieces ▸ List.mem_cons_self)⟩
      · exact ih (hpieces ▸ List.mem_cons_of_mem first h)

/-- What is done item by item, and leaves what pieces are joined with, is done piece by piece. -/
theorem apply_intercalate {α : Type} {f : List α → List α}
    (happend : ∀ xs ys, f (xs ++ ys) = f xs ++ f ys) {separator : List α}
    (hseparator : f separator = separator) (pieces : List (List α)) :
    f (separator.intercalate pieces) = separator.intercalate (pieces.map f) := by
  induction pieces with
  | nil => exact List.self_eq_append_right.1 (happend [] [])
  | cons piece later ih =>
    cases later with
    | nil => simp
    | cons next later =>
      rw [List.intercalate_cons_cons, happend, happend, hseparator, ih]
      simp only [List.map_cons, List.intercalate_cons_cons]

/-! ### Lines -/

/-- Lines that are joined are cut into the same lines again. -/
theorem splitOn_joinLines {lines : List (List Char)} (hne : lines ≠ [])
    (h : ∀ line ∈ lines, '\n' ∉ line) : splitOn '\n' (joinLines lines) = lines := by
  rw [splitOn_eq_splitOnP]
  exact List.splitOn_intercalate '\n' h hne

/-- Joined lines, with the last one ended, are lines that are each ended. -/
theorem joinLines_append {lines : List (List Char)} (hne : lines ≠ []) :
    joinLines lines ++ ['\n'] = lines.flatMap (· ++ ['\n']) := by
  induction lines with
  | nil => exact absurd rfl hne
  | cons line later ih =>
    cases later with
    | nil => simp [joinLines]
    | cons next later =>
      rw [List.flatMap_cons, ← ih (List.cons_ne_nil next later), joinLines,
        List.intercalate_cons_cons, List.append_assoc]
      rfl

end ServiceClient.Text
