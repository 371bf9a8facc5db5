import ServiceClient.Doc.Block
import ServiceClient.Proofs.Markup.Plain
import ServiceClient.Proofs.Text.Wrap

/-!
# Lines of documentation

Whatever the markup is, the lines that its plain text is filled into hold no blank but the space: a
reference may stand for a line break of any kind, but the paragraphs are collapsed after that.
-/

namespace ServiceClient.Doc

/-- Lines with an empty line between neighbours are these lines and empty ones. -/
theorem mem_of_mem_intercalate {pieces : List (List (List Char))} {line : List Char}
    (h : line ∈ [[]].intercalate pieces) : line = [] ∨ ∃ piece ∈ pieces, line ∈ piece := by
  induction pieces with
  | nil => simp at h
  | cons piece pieces ih =>
    cases pieces with
    | nil => exact .inr ⟨piece, List.mem_cons_self, by simpa using h⟩
    | cons next pieces =>
      rw [List.intercalate_cons_cons, List.append_assoc, List.mem_append] at h
      rcases h with h | h
      · exact .inr ⟨piece, List.mem_cons_self, h⟩
      · rcases List.mem_cons.1 h with rfl | h
        · exact .inl rfl
        · obtain rfl | ⟨other, hother, hline⟩ := ih h
          · exact .inl rfl
          · exact .inr ⟨other, List.mem_cons_of_mem piece hother, hline⟩

/-- The paragraphs of plain text are tidied, or there is an empty one. -/
theorem mem_splitParagraphs {cs p : List Char}
    (h : p ∈ Text.splitParagraphs (Text.joinParagraphs (Markup.paragraphs cs))) :
    p = [] ∨ p ∈ Markup.paragraphs cs := by
  by_cases hnone : Markup.paragraphs cs = []
  · rw [hnone] at h
    exact .inl (by simpa [Text.joinParagraphs, Text.splitParagraphs] using h)
  · rw [Text.splitParagraphs_joinParagraphs hnone fun _ ↦
      Markup.newline_notMem_of_mem_paragraphs] at h
    exact .inr h

/-- The only blank in a line of documentation is the space. -/
theorem eq_space_of_mem_lines {markup text line : List Char}
    (htext : Markup.plainChars markup = .ok text) (hline : line ∈ lines text) {c : Char}
    (h : c ∈ line) (hc : Text.isBlank c = true) : c = ' ' := by
  obtain ⟨cs, rfl⟩ := Markup.exists_paragraphs htext
  obtain rfl | ⟨piece, hpiece, hline⟩ := mem_of_mem_intercalate hline
  · simp at h
  · obtain ⟨p, hp, rfl⟩ := List.mem_map.1 hpiece
    have hmem := Text.mem_of_mem_wrap hline h
    rcases mem_splitParagraphs hp with rfl | hp
    · simp at hmem
    · exact (Markup.isTidyText_of_mem_paragraphs hp).2.space c hmem hc

end ServiceClient.Doc
