/-!
# Splitting and joining text

Text is cut at a character, or at the pairs of newlines that separate paragraphs, and put together
again with `List.intercalate`. Cutting always gives at least one piece, and joining the pieces with
what was cut out gives the text back.
-/

namespace ServiceClient.Text

/-- Adds a character to the first of some pieces. -/
def consFirst (c : Char) : List (List Char) → List (List Char)
  | [] => [[c]]
  | piece :: pieces => (c :: piece) :: pieces

/-- The pieces between the occurrences of a character. -/
def splitOn (separator : Char) : List Char → List (List Char)
  | [] => [[]]
  | c :: rest =>
    if c = separator then [] :: splitOn separator rest else consFirst c (splitOn separator rest)

/-- The pieces between the pairs of newlines, which are paired from the left: of three in a row the
first two are a pair. -/
def splitParagraphs : List Char → List (List Char)
  | [] => [[]]
  | '\n' :: '\n' :: rest => [] :: splitParagraphs rest
  | c :: rest => consFirst c (splitParagraphs rest)

/-- Lines as one text. -/
def joinLines (lines : List (List Char)) : List Char := ['\n'].intercalate lines

/-- Paragraphs as one text, a blank line between neighbours. -/
def joinParagraphs (paragraphs : List (List Char)) : List Char :=
  ['\n', '\n'].intercalate paragraphs

theorem consFirst_ne_nil (c : Char) (pieces : List (List Char)) : consFirst c pieces ≠ [] := by
  cases pieces <;> simp [consFirst]

theorem splitOn_ne_nil (separator : Char) (cs : List Char) : splitOn separator cs ≠ [] := by
  cases cs with
  | nil => simp [splitOn]
  | cons c rest =>
    unfold splitOn
    split
    · simp
    · exact consFirst_ne_nil c _

theorem intercalate_consFirst (separator : List Char) (c : Char) {pieces : List (List Char)}
    (h : pieces ≠ []) :
    separator.intercalate (consFirst c pieces) = c :: separator.intercalate pieces := by
  match pieces, h with
  | [piece], _ => simp [consFirst, List.intercalate]
  | piece :: next :: pieces, _ => simp [consFirst, List.intercalate]

/-- Joining the pieces with the character they were cut at gives the text back. -/
theorem intercalate_splitOn (separator : Char) (cs : List Char) :
    [separator].intercalate (splitOn separator cs) = cs := by
  induction cs with
  | nil => rfl
  | cons c rest ih =>
    have hne := splitOn_ne_nil separator rest
    by_cases h : c = separator
    · obtain ⟨piece, pieces, hp⟩ := List.exists_cons_of_ne_nil hne
      rw [hp] at ih
      subst h
      simp only [splitOn, if_true, hp]
      rw [← ih]
      simp [List.intercalate]
    · rw [splitOn, if_neg h, intercalate_consFirst _ _ hne, ih]

end ServiceClient.Text
