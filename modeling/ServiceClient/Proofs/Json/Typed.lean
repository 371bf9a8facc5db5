import ServiceClient.Json.Lookup
import ServiceClient.Proofs.Outcome

/-!
# Values of the expected type

Looking into a value can fail only because the value is no object, or because a key is an array or
an object. Where the types are as expected, the lookups are total functions: `entries`, `valueAt`
and `part` read off what `fields`, `field` and `fieldOrEmpty` give.
-/

namespace ServiceClient.Json

/-- A value is an object. -/
def IsObj : Json → Prop
  | .obj _ => True
  | _ => False

/-- A value is a string, or null, which stands for an absent one. -/
def IsText : Json → Prop
  | .str _ => True
  | .null => True
  | _ => False

/-- The fields of a value. -/
def entries : Json → Fields
  | .obj fields => fields
  | _ => []

/-- The value of a field, and null if there is none. -/
def valueAt (v : Json) (name : String) : Json := (v.entries.lookup name).getD .null

/-- The value of a field, and an empty object if there is none. -/
def part (v : Json) (name : String) : Json := (v.entries.lookup name).getD .empty

namespace IsObj

variable {v : Json}

theorem fields_eq (h : v.IsObj) : v.fields = .ok v.entries := by
  cases v with
  | obj fields => rfl
  | _ => cases h

theorem field?_eq (h : v.IsObj) (name : String) : v.field? name = .ok (v.entries.lookup name) := by
  cases v with
  | obj fields => rfl
  | _ => cases h

theorem field_eq (h : v.IsObj) (name : String) : v.field name = .ok (v.valueAt name) := by
  cases v with
  | obj fields => rfl
  | _ => cases h

theorem fieldOrEmpty_eq (h : v.IsObj) (name : String) :
    v.fieldOrEmpty name = .ok (v.part name) := by
  cases v with
  | obj fields => rfl
  | _ => cases h

theorem find_str_eq (h : v.IsObj) (name : String) : v.find (.str name) = .ok (v.valueAt name) := by
  cases v with
  | obj fields => rfl
  | _ => cases h

theorem isNull_eq (h : v.IsObj) : v.isNull = false := by
  cases v with
  | obj fields => rfl
  | _ => cases h

end IsObj

/-- Only objects have fields that can be looked for. -/
theorem isObj_of_fieldOrEmpty {v w : Json} {name : String} (h : v.fieldOrEmpty name = .ok w) :
    v.IsObj := by
  cases v with
  | obj fields => trivial
  | _ => cases h

theorem field_eq_wanting {v : Json} (h : ¬v.IsObj) (name : String) :
    v.field name = .error .wanting := by
  cases v with
  | obj fields => exact absurd trivial h
  | _ => rfl

namespace IsText

variable {v : Json}

theorem cases (h : v.IsText) : v = .null ∨ ∃ s, v = .str s := by
  cases v with
  | null => exact .inl rfl
  | str s => exact .inr ⟨s, rfl⟩
  | _ => cases h

/-- Text is fit to be a key. -/
theorem exists_key (h : v.IsText) : ∃ key, v.key? = .ok key := by
  obtain rfl | ⟨s, rfl⟩ := h.cases
  · exact ⟨none, rfl⟩
  · exact ⟨some s, rfl⟩

/-- Text is given when it is a string that is not empty. -/
theorem given_iff (h : v.IsText) : v.given = true ↔ ∃ s, v = .str s ∧ s ≠ "" := by
  obtain rfl | ⟨s, rfl⟩ := h.cases
  · simp [given]
  · simp [given]

end IsText

/-- What is found under a name is one of the entries, or the substitute. -/
theorem lookup_getD_cases (fields : Fields) (name : String) (substitute : Json) :
    (fields.lookup name).getD substitute = substitute ∨
      ∃ field ∈ fields, (fields.lookup name).getD substitute = field.2 := by
  cases h : fields.lookup name with
  | none => exact .inl rfl
  | some v =>
    obtain ⟨before, after, rfl, -⟩ := List.lookup_eq_some_iff.1 h
    exact .inr ⟨(name, v), by simp, rfl⟩

end ServiceClient.Json
