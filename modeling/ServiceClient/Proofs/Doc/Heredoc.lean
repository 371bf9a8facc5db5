import Mathlib.Data.List.Infix
import ServiceClient.Doc.Heredoc
import ServiceClient.Text.Split

/-!
# Reading heredocs

The three passes of escaping amount to a single one, `escapeInOnePass`, which looks at most two
characters ahead: what one pass inserts, a later one does not take for something else.
-/

namespace ServiceClient.Doc.Heredoc

/-- Text that a heredoc takes literally, found in a single pass. -/
def escapeInOnePass : List Char → List Char
  | [] => []
  | '\\' :: rest => '\\' :: '\\' :: escapeInOnePass rest
  | '#' :: '\x7b' :: rest => '\\' :: '#' :: '\x7b' :: escapeInOnePass rest
  | '"' :: '"' :: '"' :: rest =>
    '\\' :: '"' :: '\\' :: '"' :: '\\' :: '"' :: escapeInOnePass rest
  | c :: rest => c :: escapeInOnePass rest

/-- The first two passes. -/
def escapeTwice (cs : List Char) : List Char := escapeInterpolations (escapeBackslashes cs)

/-- A character that starts no interpolation passes through the second pass. -/
theorem escapeInterpolations_cons {c : Char} {rest : List Char}
    (h : c = '#' → ∀ later, rest ≠ '\x7b' :: later) :
    escapeInterpolations (c :: rest) = c :: escapeInterpolations rest := by
  rw [escapeInterpolations.eq_def]
  split
  · simp_all
  · simp_all
  · simp_all

/-- A character that starts no group of quotes passes through the third pass. -/
theorem escapeTripleQuotes_cons {c : Char} {rest : List Char}
    (h : c = '"' → ∀ later, rest ≠ '"' :: '"' :: later) :
    escapeTripleQuotes (c :: rest) = c :: escapeTripleQuotes rest := by
  rw [escapeTripleQuotes.eq_def]
  split
  · simp_all
  · simp_all
  · simp_all

/-- Doubling backslashes keeps all other characters. -/
theorem escapeBackslashes_cons {c : Char} (hc : c ≠ '\\') (rest : List Char) :
    escapeBackslashes (c :: rest) = c :: escapeBackslashes rest := by
  rw [escapeBackslashes.eq_def]
  split
  · simp_all
  · simp_all
  · simp_all

/-- An opening brace comes first after the first pass only if it came first before. -/
theorem exists_of_escapeBackslashes_eq {cs later : List Char}
    (h : escapeBackslashes cs = '\x7b' :: later) : ∃ rest, cs = '\x7b' :: rest := by
  cases cs with
  | nil => cases h
  | cons c rest =>
    by_cases hc : c = '\\'
    · subst hc
      cases h
    · rw [escapeBackslashes_cons hc] at h
      exact ⟨rest, by rw [(List.cons.inj h).1]⟩

theorem escapeTwice_backslash (rest : List Char) :
    escapeTwice ('\\' :: rest) = '\\' :: '\\' :: escapeTwice rest := by
  have hfirst : escapeBackslashes ('\\' :: rest) = '\\' :: '\\' :: escapeBackslashes rest := rfl
  rw [escapeTwice, hfirst, escapeInterpolations_cons (by simp), escapeInterpolations_cons (by simp)]
  rfl

theorem escapeTwice_interpolation (rest : List Char) :
    escapeTwice ('#' :: '\x7b' :: rest) = '\\' :: '#' :: '\x7b' :: escapeTwice rest := by
  rw [escapeTwice, escapeBackslashes_cons (by decide), escapeBackslashes_cons (by decide)]
  rfl

/-- Two passes keep a character that neither escapes nor starts an interpolation. -/
theorem escapeTwice_cons {c : Char} {rest : List Char} (hescape : c ≠ '\\')
    (hopen : c = '#' → ∀ later, rest ≠ '\x7b' :: later) :
    escapeTwice (c :: rest) = c :: escapeTwice rest := by
  rw [escapeTwice, escapeBackslashes_cons hescape, escapeInterpolations_cons]
  · rfl
  · intro hc later hlater
    obtain ⟨after, hafter⟩ := exists_of_escapeBackslashes_eq hlater
    exact hopen hc after hafter

/-- A quote comes first after two passes only if it came first before. -/
theorem exists_of_escapeTwice_eq {cs later : List Char} (h : escapeTwice cs = '"' :: later) :
    ∃ rest, cs = '"' :: rest ∧ escapeTwice rest = later := by
  cases cs with
  | nil => cases h
  | cons c rest =>
    by_cases hescape : c = '\\'
    · subst hescape
      rw [escapeTwice_backslash] at h
      cases h
    · by_cases hopen : c = '#' ∧ ∃ after, rest = '\x7b' :: after
      · obtain ⟨rfl, after, rfl⟩ := hopen
        rw [escapeTwice_interpolation] at h
        cases h
      · rw [escapeTwice_cons hescape fun hc after hafter ↦ hopen ⟨hc, after, hafter⟩] at h
        obtain ⟨rfl, hrest⟩ := List.cons.inj h
        exact ⟨rest, rfl, hrest⟩

/-- Three passes do what one does. -/
theorem escapeChars_eq (cs : List Char) : escapeChars cs = escapeInOnePass cs := by
  show escapeTripleQuotes (escapeTwice cs) = _
  fun_induction escapeInOnePass cs with
  | case1 => rfl
  | case2 rest ih =>
    rw [escapeTwice_backslash, escapeTripleQuotes_cons (by simp), escapeTripleQuotes_cons (by simp),
      ih]
  | case3 rest ih =>
    rw [escapeTwice_interpolation, escapeTripleQuotes_cons (by simp),
      escapeTripleQuotes_cons (by simp), escapeTripleQuotes_cons (by simp), ih]
  | case4 rest ih =>
    rw [escapeTwice_cons (by decide) (by simp), escapeTwice_cons (by decide) (by simp),
      escapeTwice_cons (by decide) (by simp), escapeTripleQuotes, ih]
  | case5 c rest hescape hopen hquotes ih =>
    rw [escapeTwice_cons hescape fun hc after hafter ↦ hopen after hc hafter,
      escapeTripleQuotes_cons, ih]
    intro hc later hlater
    obtain ⟨rest, rfl, hrest⟩ := exists_of_escapeTwice_eq hlater
    obtain ⟨after, rfl, -⟩ := exists_of_escapeTwice_eq hrest
    exact hquotes after hc rfl

/-- A character that starts nothing special is escaped as itself. -/
theorem escapeInOnePass_cons {c : Char} {rest : List Char} (hescape : c ≠ '\\')
    (hopen : c = '#' → ∀ later, rest ≠ '\x7b' :: later)
    (hquotes : c = '"' → ∀ later, rest ≠ '"' :: '"' :: later) :
    escapeInOnePass (c :: rest) = c :: escapeInOnePass rest := by
  rw [escapeInOnePass.eq_def]
  split
  · simp_all
  · simp_all
  · simp_all
  · simp_all
  · simp_all

/-- Lines are escaped one by one, since nothing special extends over the end of a line. -/
theorem escapeInOnePass_append_newline (line after : List Char) :
    escapeInOnePass (line ++ '\n' :: after) =
      escapeInOnePass line ++ '\n' :: escapeInOnePass after := by
  fun_induction escapeInOnePass line with
  | case1 => rfl
  | case2 rest ih => exact congrArg ('\\' :: '\\' :: ·) ih
  | case3 rest ih => exact congrArg ('\\' :: '#' :: '\x7b' :: ·) ih
  | case4 rest ih => exact congrArg ('\\' :: '"' :: '\\' :: '"' :: '\\' :: '"' :: ·) ih
  | case5 c rest hescape hopen hquotes ih =>
    rw [List.cons_append, escapeInOnePass_cons hescape, ih]
    · rfl
    · intro hc later hlater
      cases rest with
      | nil => cases hlater
      | cons d rest =>
        obtain ⟨rfl, -⟩ := List.cons.inj hlater
        exact hopen rest hc rfl
    · intro hc later hlater
      -- both quotes would have to stand before the newline
      rcases rest with - | ⟨d, - | ⟨e, rest⟩⟩
      · cases hlater
      · cases hlater
      · obtain ⟨rfl, hnext⟩ := List.cons.inj hlater
        obtain ⟨rfl, -⟩ := List.cons.inj hnext
        exact hquotes rest hc rfl

theorem escapeInOnePass_joinLines (lines : List (List Char)) :
    escapeInOnePass (Text.joinLines lines) = Text.joinLines (lines.map escapeInOnePass) := by
  induction lines with
  | nil => rfl
  | cons line later ih =>
    cases later with
    | nil => simp [Text.joinLines]
    | cons next later =>
      rw [Text.joinLines, List.intercalate_cons_cons, List.append_assoc, List.singleton_append,
        escapeInOnePass_append_newline, ← Text.joinLines, ih, List.map_cons, List.map_cons,
        List.map_cons, Text.joinLines, Text.joinLines, List.intercalate_cons_cons,
        List.append_assoc, List.singleton_append]

/-- Escaping adds no character but the backslash. -/
theorem mem_of_mem_escapeInOnePass {cs : List Char} {c : Char} (hescape : c ≠ '\\')
    (h : c ∈ escapeInOnePass cs) : c ∈ cs := by
  fun_induction escapeInOnePass cs with
  | case1 => exact h
  | case2 rest ih => simp_all
  | case3 rest ih =>
    simp only [List.mem_cons, hescape, false_or] at h ⊢
    exact h.imp_right (Or.imp_right ih)
  | case4 rest ih =>
    simp only [List.mem_cons, hescape, false_or] at h ⊢
    exact h.imp_right (Or.imp_right (Or.imp_right ih))
  | case5 d rest _ _ _ ih =>
    rcases List.mem_cons.1 h with rfl | h
    · exact List.mem_cons_self
    · exact List.mem_cons_of_mem d (ih h)

/-! ### Marks -/

/-- The characters that are meant, each with whether a backslash takes its meaning away. -/
def marks : List Char → List (Bool × Char)
  | [] => []
  | '\\' :: c :: rest => (true, c) :: marks rest
  | c :: rest => (false, c) :: marks rest

theorem marks_cons {c : Char} (hc : c ≠ '\\') (rest : List Char) :
    marks (c :: rest) = (false, c) :: marks rest := by
  rw [marks.eq_def]
  split
  · simp_all
  · simp_all
  · simp_all

/-- What is meant by escaped text is the text. -/
theorem marks_escapeInOnePass (cs : List Char) :
    (marks (escapeInOnePass cs)).map Prod.snd = cs := by
  fun_induction escapeInOnePass cs with
  | case1 => rfl
  | case2 rest ih => simp [marks, ih]
  | case3 rest ih => simp [marks, ih]
  | case4 rest ih => simp [marks, ih]
  | case5 c rest hescape _ _ ih => rw [marks_cons hescape, List.map_cons, ih]

/-- What comes first in escaped text without a backslash came first in the text. -/
theorem exists_of_marks_eq {cs : List Char} {c : Char} {later : List (Bool × Char)}
    (h : marks (escapeInOnePass cs) = (false, c) :: later) :
    ∃ rest, cs = c :: rest ∧ marks (escapeInOnePass rest) = later := by
  revert h
  fun_cases escapeInOnePass cs with
  | case1 => simp [marks]
  | case2 rest => simp [marks]
  | case3 rest => simp [marks]
  | case4 rest => simp [marks]
  | case5 d rest hescape =>
    intro h
    rw [marks_cons hescape] at h
    obtain ⟨hd, hrest⟩ := List.cons.inj h
    exact ⟨rest, by rw [(Prod.mk.inj hd).2], hrest⟩

/-- No interpolation starts in escaped text. -/
theorem interpolation_not_infix_marks (cs : List Char) :
    ¬[(false, '#'), (false, '\x7b')] <:+: marks (escapeInOnePass cs) := by
  fun_induction escapeInOnePass cs with
  | case1 => simp [marks]
  | case2 rest ih => simpa [marks, List.infix_cons_iff] using ih
  | case3 rest ih => simpa [marks, List.infix_cons_iff] using ih
  | case4 rest ih => simpa [marks, List.infix_cons_iff] using ih
  | case5 c rest hescape hopen _ ih =>
    rw [marks_cons hescape, List.infix_cons_iff, not_or]
    refine ⟨fun hfirst ↦ ?_, ih⟩
    obtain ⟨hc, later, hlater⟩ := List.cons_prefix_cons.1 hfirst
    obtain ⟨after, hafter, -⟩ := exists_of_marks_eq hlater.symm
    exact hopen after (Prod.mk.inj hc).2.symm hafter

/-- No three quotes in a row keep their meaning in escaped text. -/
theorem quotes_not_infix_marks (cs : List Char) :
    ¬[(false, '"'), (false, '"'), (false, '"')] <:+: marks (escapeInOnePass cs) := by
  fun_induction escapeInOnePass cs with
  | case1 => simp [marks]
  | case2 rest ih => simpa [marks, List.infix_cons_iff] using ih
  | case3 rest ih => simpa [marks, List.infix_cons_iff] using ih
  | case4 rest ih => simpa [marks, List.infix_cons_iff] using ih
  | case5 c rest hescape _ hquotes ih =>
    rw [marks_cons hescape, List.infix_cons_iff, not_or]
    refine ⟨fun hfirst ↦ ?_, ih⟩
    obtain ⟨hc, later, hlater⟩ := List.cons_prefix_cons.1 hfirst
    obtain ⟨after, hafter, hrest⟩ := exists_of_marks_eq hlater.symm
    obtain ⟨last, rfl, -⟩ := exists_of_marks_eq hrest
    exact hquotes last (Prod.mk.inj hc).2.symm hafter

/-! ### The reading -/

/-- Where a reader of a heredoc stands. -/
inductive Place
  /-- After some spaces at the start of a line. -/
  | start (spaces : Nat)
  /-- Further on in a line. -/
  | inside

/-- What reading a heredoc comes to. -/
inductive Reading
  /-- Three quotes close the text, and something follows them. -/
  | closed (text rest : List Char)
  /-- An interpolation starts. -/
  | interpolated
  /-- The source ends first. -/
  | unended
  deriving DecidableEq

/-- A reading with some text before it. -/
def Reading.prepend (cs : List Char) : Reading → Reading
  | .closed text rest => .closed (cs ++ text) rest
  | .interpolated => .interpolated
  | .unended => .unended

@[simp] theorem Reading.prepend_nil (r : Reading) : r.prepend [] = r := by
  cases r <;> rfl

@[simp] theorem Reading.prepend_prepend (cs ds : List Char) (r : Reading) :
    (r.prepend ds).prepend cs = r.prepend (cs ++ ds) := by
  cases r with
  | closed text rest => simp [prepend]
  | _ => rfl

/-- Reads a heredoc whose lines are indented by a margin. A backslash takes the next character as it
is; otherwise a number sign with an opening brace starts an interpolation, and three quotes close
the text when nothing but spaces stands before them in their line. Spaces at the start of a line
are left out as far as the margin goes. -/
def read (margin : Nat) (place : Place) : List Char → Reading
  | [] => .unended
  | '\\' :: c :: rest => (read margin .inside rest).prepend [c]
  | '#' :: '\x7b' :: _ => .interpolated
  | '"' :: '"' :: '"' :: rest =>
    match place with
    | .start _ => .closed [] rest
    | .inside => (read margin .inside ('"' :: '"' :: rest)).prepend ['"']
  | c :: rest =>
    if c = '\n' then (read margin (.start 0) rest).prepend ['\n']
    else
      match place with
      | .start spaces =>
        if c = ' ' then
          (read margin (.start (spaces + 1)) rest).prepend (if spaces < margin then [] else [' '])
        else (read margin .inside rest).prepend [c]
      | .inside => (read margin .inside rest).prepend [c]

/-- The margin of the line is behind a place. -/
def Place.IsPast (margin : Nat) : Place → Prop
  | .start spaces => margin ≤ spaces
  | .inside => True

variable {margin : Nat}

theorem read_newline (place : Place) (rest : List Char) :
    read margin place ('\n' :: rest) = (read margin (.start 0) rest).prepend ['\n'] := by
  cases place <;> rfl

/-- A character that means nothing of its own is read as it stands once the margin is behind. -/
theorem exists_read_cons {c : Char} (rest : List Char) (hescape : c ≠ '\\') (hnewline : c ≠ '\n')
    (hopen : c = '#' → ∀ later, rest ≠ '\x7b' :: later)
    (hquotes : c = '"' → ∀ later, rest ≠ '"' :: '"' :: later) {place : Place}
    (hplace : place.IsPast margin) :
    ∃ next : Place, next.IsPast margin ∧
      read margin place (c :: rest) = (read margin next rest).prepend [c] := by
  rw [read.eq_def]
  split
  · simp_all
  · simp_all
  · simp_all
  · simp_all
  · next c' rest' _ _ _ heq =>
    obtain ⟨rfl, rfl⟩ := List.cons.inj heq
    rw [if_neg hnewline]
    cases place with
    | inside => exact ⟨.inside, trivial, rfl⟩
    | start spaces =>
      have hpast : ¬spaces < margin := Nat.not_lt.2 hplace
      by_cases hspace : c = ' '
      · refine ⟨.start (spaces + 1), Nat.le_succ_of_le hplace, ?_⟩
        simp [hspace, hpast]
      · refine ⟨.inside, trivial, ?_⟩
        simp [hspace]

/-- What comes first in escaped text, if it is no backslash, came first in the text. -/
theorem exists_of_escapeInOnePass_eq {cs after later : List Char} {c : Char} (hescape : c ≠ '\\')
    (hnewline : c ≠ '\n') (h : escapeInOnePass cs ++ '\n' :: after = c :: later) :
    ∃ rest, cs = c :: rest ∧ escapeInOnePass rest ++ '\n' :: after = later := by
  revert h
  fun_cases escapeInOnePass cs with
  | case1 => exact fun h ↦ absurd (List.cons.inj h).1.symm hnewline
  | case2 rest => exact fun h ↦ absurd (List.cons.inj h).1.symm hescape
  | case3 rest => exact fun h ↦ absurd (List.cons.inj h).1.symm hescape
  | case4 rest => exact fun h ↦ absurd (List.cons.inj h).1.symm hescape
  | case5 d rest =>
    intro h
    obtain ⟨rfl, hrest⟩ := List.cons.inj h
    exact ⟨rest, rfl, hrest⟩

/-- An escaped line is read as the line. -/
theorem read_escapeInOnePass {line : List Char} (hline : '\n' ∉ line) {place : Place}
    (hplace : place.IsPast margin) (after : List Char) :
    read margin place (escapeInOnePass line ++ '\n' :: after) =
      (read margin (.start 0) after).prepend (line ++ ['\n']) := by
  fun_induction escapeInOnePass line generalizing place with
  | case1 => exact read_newline place after
  | case2 rest ih =>
    have hrest := @ih (by simp_all) .inside trivial
    simp [read, hrest]
  | case3 rest ih =>
    have hrest := @ih (by simp_all) .inside trivial
    simp [read, hrest]
  | case4 rest ih =>
    have hrest := @ih (by simp_all) .inside trivial
    simp [read, hrest]
  | case5 c rest hescape hopen hquotes ih =>
    rw [List.mem_cons, not_or] at hline
    obtain ⟨next, hnext, hread⟩ :=
      exists_read_cons (escapeInOnePass rest ++ '\n' :: after) hescape (Ne.symm hline.1)
        (fun hc later hlater ↦ by
          obtain ⟨after, rfl, -⟩ := exists_of_escapeInOnePass_eq (by decide) (by decide) hlater
          exact hopen after hc rfl)
        (fun hc later hlater ↦ by
          obtain ⟨rest, rfl, hrest⟩ :=
            exists_of_escapeInOnePass_eq (by decide) (by decide) hlater
          obtain ⟨after, rfl, -⟩ := exists_of_escapeInOnePass_eq (by decide) (by decide) hrest
          exact hquotes after hc rfl)
        hplace
    rw [List.cons_append, hread, ih hline.2 hnext, Reading.prepend_prepend]
    rfl

end ServiceClient.Doc.Heredoc
