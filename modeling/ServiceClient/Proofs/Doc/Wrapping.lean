import ServiceClient.Proofs.Doc.Entry
import ServiceClient.Proofs.Doc.Heredoc
import ServiceClient.Proofs.Text.Fill

/-!
# What wrapping keeps

What a language does to a line of documentation can be undone: in Elixir by leaving out the
backslashes that escape, elsewhere by leaving out the comment sign. What is read in this way from a
block are the paragraphs of the plain text, each filled into lines, with one empty line between
neighbours and none elsewhere. It is the same for all languages, but for spaces at the end of a
line, which only Elixir keeps: `wrapping_loses_nothing`.
-/

namespace ServiceClient.Doc

variable {language : Language}

/-! ### Reading a block -/

/-- A line without the comment sign. -/
def uncomment : List Char → List Char
  | '%' :: '%' :: ' ' :: rest => rest
  | '%' :: '%' :: rest => rest
  | line => line

/-- A line without what the language has added to it. -/
def readLine : Language → List Char → List Char
  | .elixir, line => (Heredoc.marks line).map Prod.snd
  | _, line => uncomment line

/-- The lines of a block without what the language has added to them. An empty block has none. -/
def readBlock (language : Language) (block : String) : List (List Char) :=
  if block.toList = [] then []
  else (Text.splitOn '\n' block.toList).map (readLine language)

/-- A line as it stands in a block. -/
def writeLine : Language → List Char → List Char
  | .elixir, line => Heredoc.escapeInOnePass line
  | _, line => commentLine line

/-- What a line in a block keeps of the line that was written. -/
def keptLine : Language → List Char → List Char
  | .elixir, line => line
  | _, line => Text.trimRight line

theorem layOut_eq (language : Language) (ls : List (List Char)) :
    layOut language ls = Text.joinLines (ls.map (writeLine language)) := by
  rcases language with - | - | name
  · show Heredoc.escapeChars _ = _
    rw [Heredoc.escapeChars_eq, Heredoc.escapeInOnePass_joinLines]
    rfl
  · rfl
  · rfl

/-- A comment is the comment sign, and what is left of the line after a space, if anything is. -/
theorem commentLine_eq (line : List Char) :
    commentLine line = '%' :: '%' :: Text.trimRight (' ' :: line) := by
  rw [commentLine, Text.trimRight_cons (by decide), Text.trimRight_cons (by decide)]

theorem uncomment_commentLine (line : List Char) :
    uncomment (commentLine line) = Text.trimRight line := by
  rw [commentLine_eq, Text.trimRight]
  rcases hline : Text.trimRight line with - | ⟨c, rest⟩
  · have hblank : Text.isBlank ' ' = true := by decide
    dsimp only
    rw [if_pos hblank]
    rfl
  · rfl

theorem readLine_writeLine (language : Language) (line : List Char) :
    readLine language (writeLine language line) = keptLine language line := by
  rcases language with - | - | name
  · exact Heredoc.marks_escapeInOnePass line
  · exact uncomment_commentLine line
  · exact uncomment_commentLine line

theorem newline_notMem_writeLine {line : List Char} (h : '\n' ∉ line) :
    '\n' ∉ writeLine language line := by
  have hcomment : '\n' ∉ commentLine line := fun hmem ↦ by
    have hline := (Text.isPrefix_trimRight _).subset hmem
    simp [h] at hline
  rcases language with - | - | name
  · exact fun hmem ↦ h (Heredoc.mem_of_mem_escapeInOnePass (by decide) hmem)
  · exact hcomment
  · exact hcomment

theorem writeLine_ne_nil {line : List Char} (h : line ≠ []) : writeLine language line ≠ [] := by
  have hcomment : commentLine line ≠ [] := by
    rw [commentLine_eq]
    exact List.cons_ne_nil _ _
  rcases language with - | - | name
  · intro hnone
    have hread := Heredoc.marks_escapeInOnePass line
    rw [show Heredoc.escapeInOnePass line = [] from hnone] at hread
    exact h hread.symm
  · exact hcomment
  · exact hcomment

theorem joinLines_ne_nil {line : List Char} (h : line ≠ []) (later : List (List Char)) :
    Text.joinLines (line :: later) ≠ [] := by
  rw [Text.joinLines]
  rcases later with - | ⟨next, later⟩
  · simpa using h
  · rw [List.intercalate_cons_cons]
    simp [h]

/-- Reading a block that some lines were laid out in gives what it keeps of them. -/
theorem readBlock_layOut {ls : List (List Char)} (hfirst : ∀ line ∈ ls.head?, line ≠ [])
    (hnewline : ∀ line ∈ ls, '\n' ∉ line) :
    readBlock language (String.ofList (layOut language ls)) = ls.map (keptLine language) := by
  rw [readBlock, String.toList_ofList, layOut_eq]
  rcases ls with - | ⟨line, later⟩
  · rfl
  · have hfull : Text.joinLines ((line :: later).map (writeLine language)) ≠ [] :=
      joinLines_ne_nil (writeLine_ne_nil (hfirst line rfl)) _
    have hlines : ∀ written ∈ (line :: later).map (writeLine language), '\n' ∉ written := by
      rintro written hmem
      obtain ⟨other, hother, rfl⟩ := List.mem_map.1 hmem
      exact newline_notMem_writeLine (hnewline other hother)
    rw [if_neg hfull, Text.splitOn_joinLines (by simp) hlines, List.map_map]
    exact List.map_congr_left fun other _ ↦ readLine_writeLine language other

/-! ### Lines of paragraphs -/

/-- Every tidied paragraph is filled. -/
theorem isFilled_of_mem_paragraphs {cs p : List Char} (hp : p ∈ Markup.paragraphs cs) :
    Text.IsFilled width p (Text.wrap width p) := by
  obtain ⟨hne, htidy⟩ := Markup.isTidyText_of_mem_paragraphs hp
  exact Text.isFilled_wrap (by decide) hne htidy.head htidy.space

theorem forall₂_isFilled (cs : List Char) :
    List.Forall₂ (Text.IsFilled width) (Markup.paragraphs cs)
      ((Markup.paragraphs cs).map (Text.wrap width)) := by
  rw [List.forall₂_map_right_iff, List.forall₂_same]
  exact fun p hp ↦ isFilled_of_mem_paragraphs hp

/-- The paragraphs are filled one by one, with an empty line between neighbours. -/
theorem lines_joinParagraphs {paragraphs : List (List Char)} (h : ∀ p ∈ paragraphs, '\n' ∉ p) :
    lines (Text.joinParagraphs paragraphs) =
      [[]].intercalate (paragraphs.map (Text.wrap width)) := by
  by_cases hnone : paragraphs = []
  · rw [hnone]
    exact lines_nil
  · rw [lines, Text.splitParagraphs_joinParagraphs hnone h]

/-- Filled paragraphs keep what a language keeps of their lines. -/
theorem forall₂_isFilled_map_keptLine {paragraphs : List (List Char)}
    {groups : List (List (List Char))} (h : List.Forall₂ (Text.IsFilled width) paragraphs groups)
    (language : Language) :
    List.Forall₂ (Text.IsFilled width) paragraphs (groups.map (List.map (keptLine language))) := by
  rw [List.forall₂_map_right_iff]
  refine h.imp fun p group hfilled ↦ ?_
  rcases language with - | - | name
  · show Text.IsFilled width p (group.map fun line ↦ line)
    rwa [List.map_id']
  · exact hfilled.map_trimRight
  · exact hfilled.map_trimRight

/-- What a language keeps of an empty line is empty. -/
theorem map_keptLine_intercalate (language : Language) (groups : List (List (List Char))) :
    ([[]].intercalate groups).map (keptLine language) =
      [[]].intercalate (groups.map (List.map (keptLine language))) := by
  have hempty : keptLine language [] = [] := by
    rcases language with - | - | name <;> rfl
  exact Text.apply_intercalate (fun _ _ ↦ List.map_append)
    (by rw [List.map_singleton, hempty]) groups

/-- The first line of filled paragraphs is not empty. -/
theorem ne_nil_of_mem_head?_intercalate {paragraphs : List (List Char)}
    {groups : List (List (List Char))}
    (h : List.Forall₂ (Text.IsFilled width) paragraphs groups) :
    ∀ line ∈ (([[]] : List (List Char)).intercalate groups).head?, line ≠ [] := by
  rcases h with - | @⟨p, group, _, later, hfilled, -⟩
  · rintro line hline
    cases hline
  · obtain ⟨first, rest, rfl⟩ := List.exists_cons_of_ne_nil hfilled.ne_nil
    have hfirst : first ≠ [] := by
      rintro rfl
      obtain ⟨c, hc, -⟩ := hfilled.exists_ne_space [] List.mem_cons_self
      cases hc
    intro line hline
    rcases later with - | ⟨next, later⟩
    · rw [List.intercalate_singleton] at hline
      exact Option.some.inj hline ▸ hfirst
    · rw [List.intercalate_cons_cons] at hline
      exact Option.some.inj hline ▸ hfirst

/-! ### Entries -/

/-- The markup of an entry. An entry that is not given has none. -/
def markupOf : Json → List Char
  | .str markup => markup.toList
  | _ => []

/-- An entry that has a block in one language has one in every language, laid out from the lines of
one plain text. -/
theorem exists_plainChars {entry : Json} {block : String}
    (h : blockOf language entry = .ok block) :
    ∃ text, Markup.plainChars (markupOf entry) = .ok text ∧
      ∀ other, blockOf other entry = .ok (String.ofList (layOut other (lines text))) := by
  rcases hgiven : entry.given with - | -
  · -- without markup there is an empty block
    have hempty : Markup.plainChars (markupOf entry) = .ok [] := by
      rcases entry with _ | _ | _ | _ | markup | _ | _
      case str =>
        obtain rfl : markup = "" := by simpa [Json.given] using hgiven
        rfl
      all_goals rfl
    refine ⟨[], hempty, fun other ↦ ?_⟩
    rw [blockOf.eq_def, hgiven, lines_nil]
    rcases other with - | - | name <;> rfl
  · obtain ⟨ls, hfilled, -⟩ := exists_filledLines h
    rcases entry with _ | _ | _ | _ | markup | _ | _
    case str =>
      rw [filledLines] at hfilled
      rcases hplain : Markup.plainChars markup.toList with e | text
      · rw [hplain] at hfilled
        cases hfilled
      · refine ⟨text, hplain, fun other ↦ ?_⟩
        rw [blockOf, hgiven, Doc.block, hplain]
        rfl
    all_goals
      rw [blockOf.eq_def, hgiven] at h
      cases h

/-- Wrapping loses no documentation, and all languages carry the same text. What is read from the
block for an entry are the paragraphs of its plain text, each filled into lines that are not blank
and no wider than the width, which hold its characters in order but for the spaces, with one empty
line between neighbours and none elsewhere. Every language has a block for the entry from which the
same lines are read, but for what is blank at their ends. -/
theorem wrapping_loses_nothing {entry : Json} {block : String}
    (h : blockOf language entry = .ok block) :
    ∃ paragraphs groups,
      Markup.plainChars (markupOf entry) = .ok (Text.joinParagraphs paragraphs) ∧
      (∀ p ∈ paragraphs, p ≠ [] ∧ '\n' ∉ p) ∧
      readBlock language block = [[]].intercalate groups ∧
      List.Forall₂ (Text.IsFilled width) paragraphs groups ∧
      ∀ other, ∃ block', blockOf other entry = .ok block' ∧
        (readBlock other block').map Text.trimRight =
          (readBlock language block).map Text.trimRight := by
  obtain ⟨text, htext, hblocks⟩ := exists_plainChars h
  obtain rfl := Except.ok.inj ((hblocks language).symm.trans h)
  obtain ⟨cs, rfl⟩ := Markup.exists_paragraphs htext
  have hnewline : ∀ p ∈ Markup.paragraphs cs, '\n' ∉ p :=
    fun _ ↦ Markup.newline_notMem_of_mem_paragraphs
  have hfilled := forall₂_isFilled cs
  have hread (other : Language) :
      readBlock other (String.ofList (layOut other
        (lines (Text.joinParagraphs (Markup.paragraphs cs))))) =
        (lines (Text.joinParagraphs (Markup.paragraphs cs))).map (keptLine other) := by
    refine readBlock_layOut ?_ fun line hline hmem ↦ ?_
    · rw [lines_joinParagraphs hnewline]
      exact ne_nil_of_mem_head?_intercalate hfilled
    · exact absurd (eq_space_of_mem_lines htext hline hmem (by decide)) (by decide)
  have htrim (other : Language) (ls : List (List Char)) :
      (ls.map (keptLine other)).map Text.trimRight = ls.map Text.trimRight := by
    rw [List.map_map]
    refine List.map_congr_left fun line _ ↦ ?_
    rcases other with - | - | name
    · rfl
    · exact Text.trimRight_trimRight line
    · exact Text.trimRight_trimRight line
  refine ⟨Markup.paragraphs cs, _, htext,
    fun p hp ↦ ⟨(Markup.isTidyText_of_mem_paragraphs hp).1, hnewline p hp⟩, ?_,
    forall₂_isFilled_map_keptLine hfilled language, fun other ↦ ⟨_, hblocks other, ?_⟩⟩
  · rw [hread, lines_joinParagraphs hnewline, map_keptLine_intercalate]
  · rw [hread, hread, htrim, htrim]

/-- A line is full before a word that is wider than any line. In Elixir it keeps the space at its
end. -/
theorem wrapping_loses_nothing_full :
    let markup := "<p>".toList ++ List.replicate 75 'a' ++ ' ' :: List.replicate 80 'b' ++
      "</p><p>#\x7bc\x7d</p>".toList
    ∃ block paragraphs groups, blockOf .elixir (.str (String.ofList markup)) = .ok block ∧
      Markup.plainChars markup = .ok (Text.joinParagraphs paragraphs) ∧
      readBlock .elixir block = [[]].intercalate groups ∧
      List.Forall₂ (Text.IsFilled width) paragraphs groups ∧
      readBlock .elixir block = [List.replicate 75 'a' ++ [' '], List.replicate 76 'b',
        List.replicate 4 'b', [], "#\x7bc\x7d".toList] ∧
      ∃ comments, blockOf .erlang (.str (String.ofList markup)) = .ok comments ∧
        (readBlock .erlang comments).map Text.trimRight =
          (readBlock .elixir block).map Text.trimRight := by
  intro markup
  have hwrap : (Markup.plainChars markup).toOption.map lines =
      some [List.replicate 75 'a' ++ [' '], List.replicate 76 'b', List.replicate 4 'b', [],
        "#\x7bc\x7d".toList] := by
    decide +kernel
  obtain ⟨text, hsome, hlines⟩ := Option.map_eq_some_iff.1 hwrap
  have hplain := toOption_eq_some_iff.1 hsome
  have hgiven : (Json.str (String.ofList markup)).given = true := by
    rw [Json.given, bne_iff_ne, Ne, String.ofList_eq_empty_iff]
    exact List.cons_ne_nil _ _
  have hok : blockOf .elixir (.str (String.ofList markup)) =
      .ok (String.ofList (layOut .elixir (lines text))) := by
    rw [blockOf, hgiven, Doc.block, String.toList_ofList, hplain]
    rfl
  have hblock : readBlock .elixir (String.ofList (layOut .elixir (lines text))) = lines text :=
    (readBlock_layOut (by rw [hlines]; decide) (by rw [hlines]; decide)).trans (List.map_id' _)
  obtain ⟨paragraphs, groups, hparagraphs, -, hread, hfilled, hother⟩ := wrapping_loses_nothing hok
  rw [markupOf, String.toList_ofList] at hparagraphs
  exact ⟨_, paragraphs, groups, hok, hparagraphs, hread, hfilled, hblock.trans hlines,
    hother .erlang⟩

end ServiceClient.Doc
