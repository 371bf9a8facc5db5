import Mathlib.Data.List.Flatten
import ServiceClient.Text.Wrap

/-!
# What filling keeps

A step of filling cuts the chunks into those of a line and those that are left, and then drops blank
chunks, so no line has a character that the paragraph has not.
-/

namespace ServiceClient.Text

/-- The chunks that fit and the others are the chunks. -/
theorem takeFitting_append (room : Nat) (chunks : List (List Char)) :
    (takeFitting room chunks).1 ++ (takeFitting room chunks).2 = chunks := by
  induction chunks generalizing room with
  | nil => rfl
  | cons chunk rest ih =>
    rw [takeFitting]
    split
    · exact congrArg (chunk :: ·) (ih (room - chunk.length))
    · rfl

/-- A line and what is left after it hold the characters of the chunks in their order. -/
theorem lineOf_flatten (width : Nat) (all : List (List Char)) :
    (lineOf width all).1.flatten ++ (lineOf width all).2.flatten = all.flatten := by
  have happend := takeFitting_append width all
  unfold lineOf
  split
  next taken left htake =>
  rw [htake] at happend
  subst happend
  split
  · simp
  · next chunk rest =>
    split
    · simp only [List.flatten_append, List.flatten_cons, List.flatten_nil, List.append_nil,
        List.append_assoc]
      rw [← List.append_assoc (List.take _ chunk), List.take_append_drop]
    · simp

theorem isPrefix_dropBlankEnd (line : List (List Char)) : dropBlankEnd line <+: line := by
  unfold dropBlankEnd
  split
  · split
    · exact List.dropLast_prefix line
    · exact List.prefix_rfl
  · exact List.prefix_rfl

theorem isSuffix_dropBlankStart (all : List (List Char)) : dropBlankStart all <:+ all := by
  unfold dropBlankStart
  split
  · exact List.suffix_rfl
  · next chunk rest =>
    split
    · exact List.suffix_cons chunk rest
    · exact List.suffix_rfl

/-- A line has only characters of the chunks that it is filled with. -/
theorem mem_of_mem_fill {width fuel : Nat} {isFirst : Bool} {all : List (List Char)}
    {line : List Char} (h : line ∈ fill width fuel isFirst all) {c : Char} (hc : c ∈ line) :
    c ∈ all.flatten := by
  induction fuel generalizing isFirst all with
  | zero => simp [fill] at h
  | succ fuel ih =>
    rw [fill] at h
    -- dropping blanks at the start leaves a part of the chunks
    have hnext : (if isFirst then all else dropBlankStart all) <:+ all := by
      cases isFirst with
      | true => exact List.suffix_rfl
      | false => exact isSuffix_dropBlankStart all
    refine hnext.sublist.flatten.subset ?_
    generalize (if isFirst then all else dropBlankStart all) = next at h ⊢
    split at h
    · simp at h
    · have hflatten := lineOf_flatten width next
      have hleft : c ∈ (lineOf width next).2.flatten → c ∈ next.flatten := fun hmem ↦
        hflatten ▸ List.mem_append_right _ hmem
      dsimp only at h
      split at h
      · exact hleft (ih h)
      · rcases List.mem_cons.1 h with rfl | h
        · exact hflatten ▸ List.mem_append_left _
            ((isPrefix_dropBlankEnd _).sublist.flatten.subset hc)
        · exact hleft (ih h)

/-- A line has only characters of its paragraph. -/
theorem mem_of_mem_wrap {width : Nat} {paragraph line : List Char} (h : line ∈ wrap width paragraph)
    {c : Char} (hc : c ∈ line) : c ∈ paragraph :=
  flatten_chunks paragraph ▸ mem_of_mem_fill h hc

end ServiceClient.Text
