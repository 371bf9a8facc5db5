import ServiceClient.Text.Blank

/-!
# Text without stray blanks

Collapsing leaves no blank but the space, and trimming only takes characters away.
-/

namespace ServiceClient.Text

/-- The only blank in collapsed text is the space. -/
theorem eq_space_of_mem_collapseFrom {afterBlank : Bool} {cs : List Char} {c : Char}
    (h : c ∈ collapseFrom afterBlank cs) (hc : isBlank c = true) : c = ' ' := by
  induction cs generalizing afterBlank with
  | nil => simp [collapseFrom] at h
  | cons d rest ih =>
    rw [collapseFrom] at h
    split at h
    · split at h
      · exact ih h
      · rcases List.mem_cons.1 h with rfl | h
        · rfl
        · exact ih h
    · next hd =>
      rcases List.mem_cons.1 h with rfl | h
      · exact absurd hc hd
      · exact ih h

theorem isPrefix_trimRight (cs : List Char) : trimRight cs <+: cs := by
  induction cs with
  | nil => exact List.prefix_rfl
  | cons c rest ih =>
    rw [trimRight]
    split
    · split
      · exact List.nil_prefix
      · exact List.prefix_append [c] rest
    · exact (List.cons_prefix_cons.2 ⟨rfl, ih⟩)

/-- A character that is not blank stays at the start. -/
theorem trimRight_cons {c : Char} (hc : isBlank c = false) (rest : List Char) :
    trimRight (c :: rest) = c :: trimRight rest := by
  rw [trimRight]
  split
  · next hrest => rw [hrest, hc]; rfl
  · rfl

/-- Trimming the end takes nothing but blanks away. -/
theorem filter_trimRight (cs : List Char) :
    (trimRight cs).filter (!isBlank ·) = cs.filter (!isBlank ·) := by
  induction cs with
  | nil => rfl
  | cons c rest ih =>
    rw [trimRight]
    split
    · next hrest =>
      rw [hrest] at ih
      rw [List.filter_cons, ← ih]
      rcases hc : isBlank c with - | - <;> simp [hc]
    · rw [List.filter_cons, List.filter_cons, ih]

/-- Text that has been trimmed at its end stays as it is. -/
theorem trimRight_trimRight (cs : List Char) : trimRight (trimRight cs) = trimRight cs := by
  induction cs with
  | nil => rfl
  | cons c rest ih =>
    rw [trimRight]
    split
    · split
      · rfl
      · next hc => exact trimRight_cons (by simpa using hc) []
    · next hkept =>
      rw [trimRight, ih]
      split
      · next hnone => exact absurd hnone hkept
      · rfl

/-- Trimmed text does not begin with a blank. -/
theorem isBlank_eq_false_of_mem_head?_trim {cs : List Char} :
    ∀ c ∈ (trim cs).head?, isBlank c = false := by
  intro c hc
  rw [trim, trimLeft] at hc
  have hstop := List.head?_dropWhile_not isBlank cs
  rcases hleft : cs.dropWhile isBlank with - | ⟨d, rest⟩
  · rw [hleft] at hc
    cases hc
  · rw [hleft] at hc hstop
    have hd : isBlank d = false := by simpa using hstop
    rw [trimRight_cons hd] at hc
    obtain rfl := Option.some.inj hc
    exact hd

/-- Trimmed text has only characters of the text. -/
theorem mem_of_mem_trim {cs : List Char} {c : Char} (h : c ∈ trim cs) : c ∈ cs :=
  (List.dropWhile_suffix isBlank).subset ((isPrefix_trimRight (trimLeft cs)).subset h)

end ServiceClient.Text
