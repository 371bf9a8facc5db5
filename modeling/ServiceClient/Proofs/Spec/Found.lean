import ServiceClient.Proofs.Spec.Typed

/-!
# What looking into a spec finds

No schema is checked, so looking into a spec can fail. Where it succeeds it finds what the total
functions read off: the value of a field, and the members of an operation's input or output. This
holds of any spec, typed or not.
-/

namespace ServiceClient

namespace Json

variable {v w : Json} {name : String}

theorem eq_valueAt_of_field (h : v.field name = .ok w) : w = v.valueAt name := by
  cases v with
  | obj => exact (Except.ok.inj h).symm
  | _ => cases h

theorem eq_part_of_fieldOrEmpty (h : v.fieldOrEmpty name = .ok w) : w = v.part name := by
  cases v with
  | obj => exact (Except.ok.inj h).symm
  | _ => cases h

theorem eq_entries_of_fields {fields : Fields} (h : v.fields = .ok fields) :
    fields = v.entries := by
  cases v with
  | obj => exact (Except.ok.inj h).symm
  | _ => cases h

/-- What serves as a key is a name, or can equal none. -/
theorem cases_of_key? {word? : Option String} (h : v.key? = .ok word?) :
    (∃ word, v = .str word ∧ word? = some word) ∨ (∀ word, v ≠ .str word) ∧ word? = none := by
  cases v with
  | str word => exact .inl ⟨word, rfl, (Except.ok.inj h).symm⟩
  | arr => cases h
  | obj => cases h
  | _ => exact .inr ⟨fun _ ↦ Json.noConfusion, (Except.ok.inj h).symm⟩

/-- Nothing is found under a key that is no name. -/
theorem find_eq_ok {key : Json} (h : v.find key = .ok w) :
    (∃ name, key = .str name ∧ w = v.valueAt name) ∨ (∀ name, key ≠ .str name) ∧ w = .null := by
  obtain ⟨fields, hfields, h⟩ := bind_eq_ok_iff.1 h
  obtain rfl := eq_entries_of_fields hfields
  obtain ⟨name?, hkey, h⟩ := bind_eq_ok_iff.1 h
  obtain ⟨name, rfl, rfl⟩ | ⟨hname, rfl⟩ := cases_of_key? hkey
  · exact .inl ⟨name, rfl, (Except.ok.inj h).symm⟩
  · exact .inr ⟨hname, (Except.ok.inj h).symm⟩

/-- A value that does not count as given has no fields. -/
theorem entries_of_not_given (h : v.given = false) : v.entries = [] := by
  cases v with
  | obj fields =>
    cases fields with
    | nil => rfl
    | cons => cases h
  | _ => rfl

theorem valueAt_orElse_empty (v : Json) (name : String) :
    (v.orElse .empty).valueAt name = v.valueAt name := by
  rw [orElse]
  split
  · rfl
  · next h => rw [valueAt, valueAt, entries_of_not_given (Bool.eq_false_iff.2 h)]; rfl

end Json

namespace Spec

variable {api operation shape : Json} {direction : String}

/-- No shape is referred to by what is no name. -/
theorem shape?_eq_none
    (h : ∀ name, (operation.valueAt direction).valueAt "shape" = .str name → name = "") :
    shape? api operation direction = none := by
  rw [shape?]
  split
  · next name hname => rw [if_pos (h name hname)]
  · rfl

/-- The shape that is found is the one that is referred to. -/
theorem shape_eq_ok (h : Spec.shape api operation direction = .ok shape) :
    shape = (shape? api operation direction).getD .null := by
  obtain ⟨reference, hreference, h⟩ := bind_eq_ok_iff.1 h
  obtain rfl := Json.eq_valueAt_of_field hreference
  obtain ⟨key, hkey, h⟩ := bind_eq_ok_iff.1 h
  obtain rfl := Json.eq_valueAt_of_field hkey
  rw [Json.valueAt_orElse_empty] at h
  split at h
  · next hgiven =>
    obtain ⟨shapes, hshapes, h⟩ := bind_eq_ok_iff.1 h
    obtain rfl := Json.eq_part_of_fieldOrEmpty hshapes
    obtain ⟨name, hname, rfl⟩ | ⟨hname, rfl⟩ := Json.find_eq_ok h
    · have hne : name ≠ "" := by simpa [hname, Json.given] using hgiven
      rw [shape?, hname]
      simp only [hne, if_false]
      rfl
    · rw [shape?_eq_none fun name h ↦ absurd h (hname name)]
      rfl
  · next hgiven =>
    obtain rfl := Except.ok.inj h
    have hempty : ∀ name, (operation.valueAt direction).valueAt "shape" = .str name →
        name = "" := by
      intro name hname
      simpa [hname, Json.given] using hgiven
    rw [shape?_eq_none hempty]
    rfl

/-- The members that are found are those of the shape. -/
theorem members_eq_ok {members : Fields}
    (h : (Spec.shape api operation direction >>= Spec.members) = .ok members) :
    members = membersOf api operation direction := by
  obtain ⟨shape, hshape, h⟩ := bind_eq_ok_iff.1 h
  obtain rfl := shape_eq_ok hshape
  have hpart : members =
      (((shape? api operation direction).getD .null).part "members").entries := by
    rw [Spec.members] at h
    split at h
    · obtain ⟨found, hfound, h⟩ := bind_eq_ok_iff.1 h
      obtain rfl := Json.eq_part_of_fieldOrEmpty hfound
      exact Json.eq_entries_of_fields h
    · next hgiven =>
      obtain rfl := Except.ok.inj h
      rw [Json.part, Json.entries_of_not_given (Bool.eq_false_iff.2 hgiven)]
      rfl
  rw [hpart, membersOf]
  cases shape? api operation direction <;> rfl

end Spec

end ServiceClient
