import ServiceClient.Proofs.Doc.Entry
import ServiceClient.Proofs.Source

/-!
# Lines of code

What counts in the text of an Erlang module is its lines of code: those that are neither empty nor
comments. `codeLines` reads them off any text, for any choice of the characters that end a line, as
long as the newline is one of them and all are blanks other than the space.

Documentation is not code. A line of it can hold no character that ends a line, so it stays behind
the comment sign it was given.
-/

namespace ServiceClient.Erlang

/-- Some characters may end a line: the newline does, the space does not, and all are blanks. -/
structure EndsLines (isBreak : Char → Bool) : Prop where
  /-- The newline ends a line. -/
  newline : isBreak '\n' = true
  /-- Whatever ends a line is blank. -/
  blank : ∀ c, isBreak c = true → Text.isBlank c = true
  /-- The space does not end a line. -/
  space : isBreak ' ' = false

/-- Whether a character ends a line in the widest sense. -/
def isLineEnd (c : Char) : Bool :=
  c ∈ ['\n', '\x0b', '\x0c', '\r', '\x1c', '\x1d', '\x1e', '\u0085', '\u2028', '\u2029']

theorem endsLines_isLineEnd : EndsLines isLineEnd where
  newline := rfl
  blank c hc := by
    simp only [isLineEnd, decide_eq_true_eq, List.mem_cons, List.not_mem_nil, or_false] at hc
    rcases hc with rfl | rfl | rfl | rfl | rfl | rfl | rfl | rfl | rfl | rfl <;> decide
  space := rfl

/-- Whether a line holds no code: it is empty or a comment. -/
def isCodeless (line : List Char) : Bool := line.isEmpty || ['%', '%'].isPrefixOf line

/-- The lines of code in a text. -/
def codeLines (isBreak : Char → Bool) (text : List Char) : List (List Char) :=
  (text.splitOnP isBreak).filter (!isCodeless ·)

variable {isBreak : Char → Bool}

@[simp] theorem codeLines_nil : codeLines isBreak [] = [] := rfl

/-- The lines of code before the end of a line and after it. -/
theorem codeLines_append_cons {c : Char} (hc : isBreak c = true) (before after : List Char) :
    codeLines isBreak (before ++ c :: after) =
      codeLines isBreak before ++ codeLines isBreak after := by
  rw [codeLines, List.splitOnP_append_cons before after hc, List.filter_append]
  rfl

/-- The space and what is not blank end no line. -/
theorem EndsLines.isBreak_eq_false (h : EndsLines isBreak) {c : Char}
    (hc : c = ' ' ∨ Text.isBlank c = false) : isBreak c = false := by
  obtain rfl | hc := hc
  · exact h.space
  · by_contra hbreak
    exact absurd (h.blank c (by simpa using hbreak)) (by simp [hc])

/-- A line of code, which nothing in it ends, is the only one. -/
theorem codeLines_singleton {line : List Char} (hbreak : ∀ c ∈ line, isBreak c = false)
    (hcode : isCodeless line = false) : codeLines isBreak line = [line] := by
  rw [codeLines, List.splitOnP_eq_singleton hbreak]
  simp [hcode]

/-- A line of code is a part of the text. -/
theorem isInfix_of_mem_codeLines {text line : List Char} (h : line ∈ codeLines isBreak text) :
    line <:+: text :=
  Text.isInfix_of_mem_splitOnP (List.mem_of_mem_filter h)

/-- A comment is no code. -/
theorem codeLines_comment {line : List Char} (hline : ['%', '%'] <+: line)
    (hbreak : ∀ c ∈ line, isBreak c = false) : codeLines isBreak line = [] := by
  rw [codeLines, List.splitOnP_eq_singleton hbreak]
  have hcodeless : isCodeless line = true := by
    rw [isCodeless, List.isPrefixOf_iff_prefix.2 hline, Bool.or_true]
  simp [hcodeless]

/-- The lines of code in joined lines are those in each. -/
theorem codeLines_joinLines (h : EndsLines isBreak) (lines : List (List Char)) :
    codeLines isBreak (Text.joinLines lines) = lines.flatMap (codeLines isBreak) := by
  induction lines with
  | nil => rfl
  | cons line lines ih =>
    cases lines with
    | nil => rw [Text.joinLines, List.intercalate_singleton, List.flatMap_singleton]
    | cons next lines =>
      rw [Text.joinLines, List.intercalate_cons_cons, List.append_assoc, List.singleton_append,
        codeLines_append_cons h.newline, ← Text.joinLines, ih]
      rfl

/-- The lines of code in a source text are those in each of its lines. -/
theorem codeLines_text (h : EndsLines isBreak) (lines : List String) :
    codeLines isBreak (Source.text lines).toList =
      lines.flatMap fun line ↦ codeLines isBreak line.toList := by
  induction lines with
  | nil => rfl
  | cons line lines ih =>
    rw [Source.toList_text_cons, codeLines_append_cons h.newline, ih, List.flatMap_cons]

/-! ### Documentation -/

/-- A commented line begins with the comment sign. -/
theorem isPrefix_commentLine (line : List Char) : ['%', '%'] <+: Doc.commentLine line := by
  rw [Doc.commentLine, Text.trimRight_cons (by decide), Text.trimRight_cons (by decide)]
  exact List.prefix_append _ _

/-- A commented line holds no end of a line unless the line does. -/
theorem isBreak_of_mem_commentLine (h : EndsLines isBreak) {line : List Char}
    (hline : ∀ c ∈ line, isBreak c = false) : ∀ c ∈ Doc.commentLine line, isBreak c = false := by
  have hsign : isBreak '%' = false := h.isBreak_eq_false (.inr (by decide))
  intro c hc
  have hmem : c ∈ '%' :: '%' :: ' ' :: line := (Text.isPrefix_trimRight _).subset hc
  simp only [List.mem_cons] at hmem
  rcases hmem with rfl | rfl | rfl | hmem
  · exact hsign
  · exact hsign
  · exact h.space
  · exact hline c hmem

/-- The block for an entry is not code. -/
theorem codeLines_blockOf (h : EndsLines isBreak) {entry : Json} {block : String}
    (hblock : Doc.blockOf .erlang entry = .ok block) : codeLines isBreak block.toList = [] := by
  obtain ⟨lines, -, rfl, hlines⟩ := Doc.exists_filledLines hblock
  have hlayOut : Doc.layOut .erlang lines = Text.joinLines (lines.map Doc.commentLine) := rfl
  rw [String.toList_ofList, hlayOut, codeLines_joinLines h, List.flatMap_eq_nil_iff]
  intro comment hcomment
  obtain ⟨line, hline, rfl⟩ := List.mem_map.1 hcomment
  refine codeLines_comment (isPrefix_commentLine line) (isBreak_of_mem_commentLine h fun c hc ↦ ?_)
  by_contra hbreak
  rw [Bool.not_eq_false] at hbreak
  obtain rfl := hlines line hline c hc (h.blank c hbreak)
  exact Bool.false_ne_true (h.space.symm.trans hbreak)

end ServiceClient.Erlang
