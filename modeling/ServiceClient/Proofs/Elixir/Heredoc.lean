import ServiceClient.Elixir.Module
import ServiceClient.Proofs.Doc.Entry
import ServiceClient.Proofs.Doc.Heredoc
import ServiceClient.Proofs.Source

/-!
# Documentation in Elixir modules

A block of documentation stands in a heredoc with a margin of two columns, between a line that opens
the heredoc and one that closes it. Reading the heredoc gives back the lines that were laid out in
the block, and ends at the line that was put there to close it.
-/

namespace ServiceClient.Elixir

open Doc.Heredoc

/-- The lines of a heredoc after the one that opens it. -/
def heredocLines (block : String) : List String := Source.indentBlock 2 block ++ ["  \"\"\""]

/-- The documentation of a module stands in a heredoc. -/
theorem Module.isInfix_lines (m : Module) :
    "  @moduledoc \"\"\"" :: heredocLines m.docstring <:+: m.lines := by
  simp only [lines, heredocLines, List.append_assoc]
  exact ⟨[_, _, _, _], _, by simp only [List.cons_append, List.nil_append, List.append_assoc]; rfl⟩

/-- The documentation of a function stands in a heredoc. -/
theorem Module.isInfix_functionLines (f : Function) :
    "  @doc \"\"\"" :: heredocLines f.docstring <:+: functionLines f := by
  simp only [functionLines, heredocLines, List.append_assoc]
  exact ⟨[""], _, by simp only [List.cons_append, List.nil_append, List.append_assoc]; rfl⟩

/-- The lines of a function stand in those of its module. -/
theorem Module.functionLines_isInfix {m : Module} {f : Function} (hf : f ∈ m.functions) :
    functionLines f <:+: m.lines := by
  obtain ⟨before, after, hfunctions⟩ := List.mem_iff_append.1 hf
  have hflat : functionLines f <:+: m.functions.flatMap functionLines := by
    rw [hfunctions, List.flatMap_append, List.flatMap_cons]
    exact ⟨before.flatMap functionLines, after.flatMap functionLines, by rw [List.append_assoc]⟩
  refine hflat.trans ?_
  simp only [lines]
  exact List.infix_append _ _ ["end"]

/-- Wherever a block of documentation stands in a module, it stands in a heredoc: the lines of the
module hold the line that opens the heredoc, the block with its margin, and the line that closes
the heredoc. -/
structure Module.HoldsHeredocs (m : Module) (block : String) : Prop where
  /-- The block of the module. -/
  ofModule : m.docstring = block → "  @moduledoc \"\"\"" :: heredocLines block <:+: m.lines
  /-- The block of a function. -/
  ofFunction : ∀ f ∈ m.functions, f.docstring = block →
    "  @doc \"\"\"" :: heredocLines block <:+: m.lines

theorem Module.holdsHeredocs (m : Module) (block : String) : m.HoldsHeredocs block where
  ofModule h := h ▸ m.isInfix_lines
  ofFunction f hf h := h ▸ (isInfix_functionLines f).trans (functionLines_isInfix hf)

/-! ### Reading the margin -/

/-- Spaces up to the margin are left out. -/
theorem read_replicate (margin spaces : Nat) (rest : List Char) :
    ∀ n, spaces + n ≤ margin →
      read margin (.start spaces) (List.replicate n ' ' ++ rest) =
        read margin (.start (spaces + n)) rest := by
  intro n
  induction n generalizing spaces with
  | zero => exact fun _ ↦ rfl
  | succ n ih =>
    intro hmargin
    have hspace : read margin (.start spaces) (' ' :: (List.replicate n ' ' ++ rest)) =
        (read margin (.start (spaces + 1)) (List.replicate n ' ' ++ rest)).prepend
          (if spaces < margin then [] else [' ']) := rfl
    rw [List.replicate_succ, List.cons_append, hspace, if_pos (by omega), Reading.prepend_nil,
      ih (spaces + 1) (by omega)]
    congr 2
    omega

/-- A line that is escaped and moved to the margin is read as the line. -/
theorem read_indented {margin : Nat} {line : List Char} (hline : '\n' ∉ line) (after : List Char) :
    read margin (.start 0)
        ((Source.spaces margin ++ String.ofList (escapeInOnePass line)).toList ++ '\n' :: after) =
      (read margin (.start 0) after).prepend (line ++ ['\n']) := by
  have hpast : (Place.start (0 + margin)).IsPast margin := by
    show margin ≤ 0 + margin
    omega
  rw [String.toList_append, Source.toList_spaces, String.toList_ofList, List.append_assoc,
    read_replicate margin 0 _ margin (by omega), read_escapeInOnePass hline hpast]

/-- Lines that are escaped and moved to the margin, the empty ones apart, are read as the lines. -/
theorem read_indent {margin : Nat} {lines : List (List Char)} (hlines : ∀ l ∈ lines, '\n' ∉ l)
    (after : List Char) :
    read margin (.start 0) ((Source.text (Source.indent margin
        ((lines.map escapeInOnePass).map String.ofList))).toList ++ after) =
      (read margin (.start 0) after).prepend (lines.flatMap (· ++ ['\n'])) := by
  induction lines with
  | nil => simp [Source.indent]
  | cons line later ih =>
    have hlater := ih fun l hl ↦ hlines l (List.mem_cons_of_mem line hl)
    have hline := hlines line List.mem_cons_self
    have hsplit : Source.indent margin (((line :: later).map escapeInOnePass).map String.ofList) =
        (if String.ofList (escapeInOnePass line) = "" then String.ofList (escapeInOnePass line)
          else Source.spaces margin ++ String.ofList (escapeInOnePass line)) ::
          Source.indent margin ((later.map escapeInOnePass).map String.ofList) := rfl
    rw [hsplit, Source.toList_text_cons, List.append_assoc, List.cons_append, List.flatMap_cons,
      ← Reading.prepend_prepend, ← hlater]
    by_cases hempty : escapeInOnePass line = []
    · obtain rfl : [] = line := by
        rw [← marks_escapeInOnePass line, hempty]
        rfl
      exact read_newline _ _
    · rw [if_neg (by simpa using hempty)]
      exact read_indented hline _

/-! ### Reading a block -/

/-- The block that some lines are laid out in is read as these lines, up to the line that closes the
heredoc. -/
theorem read_heredocLines {lines : List (List Char)} (hlines : ∀ l ∈ lines, '\n' ∉ l)
    (after : List Char) :
    read 2 (.start 0) ((Source.text (heredocLines
        (String.ofList (escapeChars (Text.joinLines lines))))).toList ++ after) =
      .closed (Text.joinLines lines ++ ['\n']) ('\n' :: after) := by
  -- no lines are joined to the same text as one empty line
  obtain ⟨line, later, hjoin, hnewline⟩ : ∃ line later,
      Text.joinLines lines = Text.joinLines (line :: later) ∧ ∀ l ∈ line :: later, '\n' ∉ l := by
    cases lines with
    | nil => exact ⟨[], [], rfl, by simp⟩
    | cons line later => exact ⟨line, later, rfl, hlines⟩
  have hescaped : ∀ l ∈ escapeInOnePass line :: later.map escapeInOnePass, '\n' ∉ l := by
    intro l hl hmem
    obtain ⟨l', hl', rfl⟩ := List.mem_map.1 (show l ∈ (line :: later).map escapeInOnePass from hl)
    exact hnewline l' hl' (mem_of_mem_escapeInOnePass (by decide) hmem)
  have hclosing : (Source.text ["  \"\"\""]).toList ++ after =
      ' ' :: ' ' :: '"' :: '"' :: '"' :: '\n' :: after := rfl
  have hclose : read 2 (.start 0) (' ' :: ' ' :: '"' :: '"' :: '"' :: '\n' :: after) =
      .closed [] ('\n' :: after) := rfl
  have hfirst : ∀ l ∈ later, '\n' ∉ l := fun l hl ↦ hnewline l (List.mem_cons_of_mem line hl)
  rw [hjoin, escapeChars_eq, escapeInOnePass_joinLines, List.map_cons, heredocLines,
    Source.indentBlock_joinLines 2 hescaped, List.cons_append, Source.toList_text_cons,
    Source.toList_text_append, List.append_assoc, List.cons_append, List.append_assoc, hclosing,
    read_indented (hnewline line List.mem_cons_self), read_indent hfirst, hclose,
    Text.joinLines_append (List.cons_ne_nil line later)]
  simp [Reading.prepend]

/-- The documentation of an entry survives its heredoc. Wherever a module has the block, it stands
in a heredoc; reading that heredoc gives the lines of the entry back, each ended, and goes exactly
as far as the line that closes it; and whatever text is escaped, what is meant by the result is the
text, in which no interpolation starts and no three quotes in a row keep their meaning. -/
theorem heredoc_is_lossless {entry : Json} {block : String}
    (h : Doc.blockOf .elixir entry = .ok block) :
    (∃ lines, Doc.filledLines entry = .ok lines ∧ ∀ after,
      read 2 (.start 0) ((Source.text (heredocLines block)).toList ++ after) =
        .closed (Text.joinLines lines ++ ['\n']) ('\n' :: after)) ∧
    (∀ m : Module, m.HoldsHeredocs block) ∧
    ∀ cs, (marks (escapeChars cs)).map Prod.snd = cs ∧
      ¬[(false, '#'), (false, '\x7b')] <:+: marks (escapeChars cs) ∧
      ¬[(false, '"'), (false, '"'), (false, '"')] <:+: marks (escapeChars cs) := by
  refine ⟨?_, fun m ↦ m.holdsHeredocs block, ?_⟩
  · obtain ⟨lines, hfilled, rfl, hlines⟩ := Doc.exists_filledLines h
    have hnewline : ∀ l ∈ lines, '\n' ∉ l := fun l hl hmem ↦
      absurd (hlines l hl '\n' hmem (by decide)) (by decide)
    exact ⟨lines, hfilled, read_heredocLines hnewline⟩
  · intro cs
    rw [escapeChars_eq]
    exact ⟨marks_escapeInOnePass cs, interpolation_not_infix_marks cs, quotes_not_infix_marks cs⟩

/-- Five quotes, a backslash before a quote, and a number sign before an interpolation. -/
theorem heredoc_is_lossless_quotes : ∃ block,
    Doc.blockOf .elixir (.str "\"\"\"\"\" \\\" ##\x7b") = .ok block ∧
    block = "\\\"\\\"\\\"\"\" \\\\\" #\\#\x7b" ∧
    ∀ after, read 2 (.start 0) ((Source.text (heredocLines block)).toList ++ after) =
      .closed "\"\"\"\"\" \\\" ##\x7b\n".toList ('\n' :: after) := by
  have hplain : Markup.plainChars "\"\"\"\"\" \\\" ##\x7b".toList =
      .ok "\"\"\"\"\" \\\" ##\x7b".toList := rfl
  have hfill : Doc.lines "\"\"\"\"\" \\\" ##\x7b".toList =
      ["\"\"\"\"\" \\\" ##\x7b".toList] := by
    decide +kernel
  have hblock : Doc.blockOf .elixir (.str "\"\"\"\"\" \\\" ##\x7b") =
      .ok "\\\"\\\"\\\"\"\" \\\\\" #\\#\x7b" := by
    rw [Doc.blockOf, if_neg (by decide), Doc.block, hplain, ok_bind, hfill]
    rfl
  obtain ⟨⟨lines, hlines, hread⟩, -⟩ := heredoc_is_lossless hblock
  rw [Doc.filledLines, hplain, except_map_ok, hfill] at hlines
  obtain rfl := Except.ok.inj hlines
  exact ⟨_, hblock, rfl, hread⟩

end ServiceClient.Elixir
