import ServiceClient.Identifier

/-!
# Names with one identifier

The suffix that keeps an identifier apart from reserved names can make it meet another one. Two
names have one identifier exactly when they are the same but for their style, or when one of them is
a reserved name and the other that name with the suffix: `ofName_eq_ofName_iff`.
-/

namespace ServiceClient.Identifier

variable {language : Language} {a b : String}

/-- One name is reserved, and the other is that name with the suffix. -/
def IsSuffixed (language : Language) (a b : String) : Prop :=
  base language a ∈ reserved language ∧ base language b = base language a ++ suffix language

/-- Two names are the same but for their style, or for the suffix of a reserved name. -/
def Clash (language : Language) (a b : String) : Prop :=
  base language a = base language b ∨ IsSuffixed language a b ∨ IsSuffixed language b a

instance : Decidable (IsSuffixed language a b) := inferInstanceAs (Decidable (_ ∧ _))

instance : Decidable (Clash language a b) := inferInstanceAs (Decidable (_ ∨ _))

/-- A reserved name with the suffix is not reserved. -/
theorem suffixed_not_mem_reserved {r : String} (h : r ∈ reserved language) :
    r ++ suffix language ∉ reserved language := by
  have helixir : ∀ r ∈ reservedInElixir, r ++ "_param" ∉ reservedInElixir := by decide
  have herlang : ∀ r ∈ reservedInErlang, r ++ "Param" ∉ reservedInErlang := by decide
  cases language with
  | elixir => exact helixir r h
  | erlang => exact herlang r h
  | other name => exact helixir r h

theorem ofName_of_mem (h : base language a ∈ reserved language) :
    ofName language a = base language a ++ suffix language := if_pos h

theorem ofName_of_not_mem (h : base language a ∉ reserved language) :
    ofName language a = base language a := if_neg h

theorem ofName_eq_of_isSuffixed (h : IsSuffixed language a b) :
    ofName language a = ofName language b := by
  have hb : base language b ∉ reserved language := h.2 ▸ suffixed_not_mem_reserved h.1
  rw [ofName_of_mem h.1, ofName_of_not_mem hb, h.2]

/-- Two names have one identifier exactly when they clash. -/
theorem ofName_eq_ofName_iff : ofName language a = ofName language b ↔ Clash language a b := by
  constructor
  · intro h
    by_cases ha : base language a ∈ reserved language
    · by_cases hb : base language b ∈ reserved language
      · rw [ofName_of_mem ha, ofName_of_mem hb] at h
        exact .inl ((String.append_left_inj _).1 h)
      · rw [ofName_of_mem ha, ofName_of_not_mem hb] at h
        exact .inr (.inl ⟨ha, h.symm⟩)
    · by_cases hb : base language b ∈ reserved language
      · rw [ofName_of_not_mem ha, ofName_of_mem hb] at h
        exact .inr (.inr ⟨hb, h⟩)
      · rw [ofName_of_not_mem ha, ofName_of_not_mem hb] at h
        exact .inl h
  · rintro (h | h | h)
    · rw [ofName, ofName, h]
    · exact ofName_eq_of_isSuffixed h
    · exact (ofName_eq_of_isSuffixed h).symm

end ServiceClient.Identifier
