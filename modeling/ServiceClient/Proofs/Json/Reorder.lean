import ServiceClient.Json.Lookup
import ServiceClient.Proofs.Outcome

/-!
# Fields in another order

An object is a table: what is found under a name does not depend on where the field stands, as long
as no name comes twice. So whatever only looks fields up cannot tell two objects apart whose fields
are in different orders, and every lookup is the same on both.

Documents are reordered one level further down: their sections keep their places, and the fields
within each section are in another order.
-/

namespace ServiceClient

/-- Where no name comes twice, what is found does not depend on the order. -/
theorem Fields.lookup_eq_of_perm {fs gs : Fields} (h : fs.Perm gs) (hnames : (names fs).Nodup)
    (name : String) : fs.lookup name = gs.lookup name := by
  induction h with
  | nil => rfl
  | @cons field fs gs _ ih =>
    rw [List.lookup_cons, List.lookup_cons, ih (List.nodup_cons.1 hnames).2]
  | swap first second rest =>
    have hne : second.1 ≠ first.1 := fun heq ↦
      (List.nodup_cons.1 hnames).1 (List.mem_cons.2 (.inl heq))
    rw [List.lookup_cons, List.lookup_cons, List.lookup_cons, List.lookup_cons]
    by_cases hsecond : name = second.1
    · have hfirst : (name == first.1) = false := by simpa [hsecond] using hne
      simp [hfirst]
    · have hsecond : (name == second.1) = false := by simpa using hsecond
      simp [hsecond]
  | @trans fs gs hs hfg _ ihf ihg =>
    exact (ihf hnames).trans (ihg ((hfg.map Prod.fst).nodup_iff.1 hnames))

namespace Json

/-! ### Values -/

/-- Two values are the same up to the order of their own fields, whose names are different. -/
inductive Reordered : Json → Json → Prop
  /-- They are the same. -/
  | refl (v : Json) : Reordered v v
  /-- They are objects with the same fields. -/
  | fields {fs gs : Fields} (hperm : fs.Perm gs) (hnames : (Fields.names fs).Nodup) :
      Reordered (.obj fs) (.obj gs)

namespace Reordered

variable {v w : Json}

theorem symm (h : v.Reordered w) : w.Reordered v := by
  cases h with
  | refl => exact .refl v
  | fields hperm hnames => exact .fields hperm.symm ((hperm.map Prod.fst).nodup_iff.1 hnames)

theorem field?_eq (h : v.Reordered w) (name : String) : v.field? name = w.field? name := by
  cases h with
  | refl => rfl
  | fields hperm hnames =>
    rw [field?_obj, field?_obj, Fields.lookup_eq_of_perm hperm hnames]

theorem field_eq (h : v.Reordered w) (name : String) : v.field name = w.field name := by
  rw [field, field, h.field?_eq]

theorem find_eq (h : v.Reordered w) (key : Json) : v.find key = w.find key := by
  cases h with
  | refl => rfl
  | @fields fs gs hperm hnames =>
    rw [find, find, fields_obj, fields_obj, ok_bind, ok_bind]
    simp only [Fields.lookup_eq_of_perm hperm hnames]

/-- Either both are no objects, or their fields are the same up to the order. -/
theorem fields_cases (h : v.Reordered w) :
    (∃ e, v.fields = .error e ∧ w.fields = .error e) ∨
      ∃ fs gs, v.fields = .ok fs ∧ w.fields = .ok gs ∧ fs.Perm gs := by
  cases h with
  | refl =>
    cases hv : v.fields with
    | error e => exact .inl ⟨e, rfl, rfl⟩
    | ok fs => exact .inr ⟨fs, fs, rfl, rfl, .refl fs⟩
  | @fields fs gs hperm hnames => exact .inr ⟨fs, gs, rfl, rfl, hperm⟩

end Reordered

/-! ### Documents -/

/-- Two documents are the same up to the order of the fields within their sections. -/
inductive SectionsReordered : Json → Json → Prop
  /-- They are the same. -/
  | refl (v : Json) : SectionsReordered v v
  /-- They have the same sections, each with the same fields. -/
  | sections {fs gs : Fields}
      (h : List.Forall₂ (fun f g ↦ f.1 = g.1 ∧ f.2.Reordered g.2) fs gs) :
      SectionsReordered (.obj fs) (.obj gs)

namespace SectionsReordered

variable {doc doc' : Json} {α : Type}

theorem symm (h : doc.SectionsReordered doc') : doc'.SectionsReordered doc := by
  cases h with
  | refl => exact .refl doc
  | sections h =>
    exact .sections (h.flip.imp fun _ _ ⟨hname, hvalue⟩ ↦ ⟨hname.symm, hvalue.symm⟩)

/-- Under each name there is the same section up to the order, or none. -/
theorem lookup_cases {fs gs : Fields}
    (h : List.Forall₂ (fun f g ↦ f.1 = g.1 ∧ f.2.Reordered g.2) fs gs) (name : String) :
    (fs.lookup name = none ∧ gs.lookup name = none) ∨
      ∃ v w, fs.lookup name = some v ∧ gs.lookup name = some w ∧ v.Reordered w := by
  induction h with
  | nil => exact .inl ⟨rfl, rfl⟩
  | @cons f g fs gs hhead _ ih =>
    rw [List.lookup_cons, List.lookup_cons, hhead.1]
    cases name == g.1 with
    | true => exact .inr ⟨f.2, g.2, rfl, rfl, hhead.2⟩
    | false => exact ih

/-- Either both are no objects, or what is under a name is the same up to the order, whatever stands
for a section that is not there. -/
theorem field?_getD_cases (h : doc.SectionsReordered doc') (name : String) (substitute : Json) :
    (∃ e, doc.field? name = .error e ∧ doc'.field? name = .error e) ∨
      ∃ found found', doc.field? name = .ok found ∧ doc'.field? name = .ok found' ∧
        (found.getD substitute).Reordered (found'.getD substitute) := by
  cases h with
  | refl =>
    cases hfound : doc.field? name with
    | error e => exact .inl ⟨e, rfl, rfl⟩
    | ok found => exact .inr ⟨found, found, rfl, rfl, .refl _⟩
  | @sections fs gs h =>
    refine .inr ⟨fs.lookup name, gs.lookup name, rfl, rfl, ?_⟩
    obtain ⟨hnone, hnone'⟩ | ⟨v, w, hv, hw, hreordered⟩ := lookup_cases h name
    · rw [hnone, hnone']
      exact .refl _
    · rw [hv, hw]
      exact hreordered

theorem fieldOrEmpty_cases (h : doc.SectionsReordered doc') (name : String) :
    (∃ e, doc.fieldOrEmpty name = .error e ∧ doc'.fieldOrEmpty name = .error e) ∨
      ∃ v w, doc.fieldOrEmpty name = .ok v ∧ doc'.fieldOrEmpty name = .ok w ∧ v.Reordered w := by
  rw [fieldOrEmpty, fieldOrEmpty]
  obtain ⟨e, he, he'⟩ | ⟨_, _, hv, hw, hreordered⟩ := h.field?_getD_cases name .empty
  · exact .inl ⟨e, by rw [he, error_bind], by rw [he', error_bind]⟩
  · exact .inr ⟨_, _, by rw [hv, ok_bind, pure_eq_ok], by rw [hw, ok_bind, pure_eq_ok], hreordered⟩

theorem field_cases (h : doc.SectionsReordered doc') (name : String) :
    (∃ e, doc.field name = .error e ∧ doc'.field name = .error e) ∨
      ∃ v w, doc.field name = .ok v ∧ doc'.field name = .ok w ∧ v.Reordered w := by
  rw [field, field]
  obtain ⟨e, he, he'⟩ | ⟨_, _, hv, hw, hreordered⟩ := h.field?_getD_cases name .null
  · exact .inl ⟨e, by rw [he, error_bind], by rw [he', error_bind]⟩
  · exact .inr ⟨_, _, by rw [hv, ok_bind, pure_eq_ok], by rw [hw, ok_bind, pure_eq_ok], hreordered⟩

/-- Whatever cannot tell the section of one document from that of the other gives the same on
both. -/
theorem fieldOrEmpty_bind_eq (h : doc.SectionsReordered doc') (name : String) {f : Json → Outcome α}
    (hf : ∀ v w, v.Reordered w → f v = f w) :
    (doc.fieldOrEmpty name >>= f) = (doc'.fieldOrEmpty name >>= f) := by
  obtain ⟨e, he, he'⟩ | ⟨v, w, hv, hw, hreordered⟩ := h.fieldOrEmpty_cases name
  · rw [he, he', error_bind]
  · rw [hv, hw, ok_bind, ok_bind, hf v w hreordered]

end SectionsReordered

end Json

end ServiceClient
