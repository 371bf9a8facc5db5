import ServiceClient.Proofs.Text.Split
import ServiceClient.Source

/-!
# The characters of source text

A source text is its lines, each ended by a newline, and an indented block is the lines that were
joined in it, each moved to the right unless it is empty.
-/

namespace ServiceClient.Source

@[simp] theorem toList_text_nil : (text []).toList = [] := rfl

theorem toList_text_cons (line : String) (lines : List String) :
    (text (line :: lines)).toList = line.toList ++ '\n' :: (text lines).toList := by
  simp [text, String.join_cons]

theorem toList_text_append (lines later : List String) :
    (text (lines ++ later)).toList = (text lines).toList ++ (text later).toList := by
  simp [text, String.join_append]

/-- The characters of a line are in the text. -/
theorem mem_toList_text {line : String} {lines : List String} (hline : line ∈ lines) {c : Char}
    (hc : c ∈ line.toList) : c ∈ (text lines).toList := by
  obtain ⟨before, later, rfl⟩ := List.mem_iff_append.1 hline
  rw [toList_text_append, toList_text_cons]
  simp [hc]

theorem toList_spaces (n : Nat) : (spaces n).toList = List.replicate n ' ' :=
  String.toList_ofList

/-- The lines of a block are the lines that were joined in it. The first is moved in any case. -/
theorem indentBlock_joinLines (n : Nat) {line : List Char} {later : List (List Char)}
    (h : ∀ l ∈ line :: later, '\n' ∉ l) :
    indentBlock n (String.ofList (Text.joinLines (line :: later))) =
      (spaces n ++ String.ofList line) :: indent n (later.map String.ofList) := by
  rw [indentBlock, String.toList_ofList, Text.splitOn_joinLines (List.cons_ne_nil line later) h]
  rfl

end ServiceClient.Source
