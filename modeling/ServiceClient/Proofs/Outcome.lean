import Mathlib.Data.List.Forall2
import Mathlib.Data.List.Perm.Basic

/-!
# Computations that can fail

What a computation in `Except` gives, read off its parts: a sequence of two steps succeeds exactly
when both do, and a traversal of a list succeeds exactly when the step does at every item. The
equations that run a step whose result is known are simplification rules.
-/

namespace ServiceClient

variable {ε α β : Type}

@[simp] theorem ok_bind (a : α) (f : α → Except ε β) : (Except.ok a >>= f) = f a := rfl

@[simp] theorem error_bind (e : ε) (f : α → Except ε β) :
    ((Except.error e : Except ε α) >>= f) = .error e := rfl

@[simp] theorem pure_eq_ok (a : α) : (pure a : Except ε α) = .ok a := rfl

@[simp] theorem throw_eq_error (e : ε) : (throw e : Except ε α) = .error e := rfl

@[simp] theorem except_map_ok (f : α → β) (a : α) :
    (Except.ok a : Except ε α).map f = .ok (f a) := rfl

@[simp] theorem except_map_error (f : α → β) (e : ε) :
    (Except.error e : Except ε α).map f = .error e := rfl

@[simp] theorem mapError_ok {δ : Type} (f : ε → δ) (a : α) :
    (Except.ok a : Except ε α).mapError f = .ok a := rfl

@[simp] theorem mapError_error {δ : Type} (f : ε → δ) (e : ε) :
    (Except.error e : Except ε α).mapError f = .error (f e) := rfl

/-- Two steps succeed when the first does and the second does with its result. -/
theorem bind_eq_ok_iff {x : Except ε α} {f : α → Except ε β} {b : β} :
    x >>= f = .ok b ↔ ∃ a, x = .ok a ∧ f a = .ok b := by
  cases x with
  | error e => simp
  | ok a => simp

/-- A function of the result of two steps is one of the result of the second. -/
theorem map_bind {γ : Type} (x : Except ε α) (f : α → Except ε β) (g : β → γ) :
    (x >>= f).map g = x >>= fun a ↦ (f a).map g := by
  cases x with
  | error e => rfl
  | ok a => rfl

/-- A computation has a result when it succeeds with it. -/
theorem toOption_eq_some_iff {x : Except ε α} {a : α} : x.toOption = some a ↔ x = .ok a := by
  cases x with
  | error e => simp [Except.toOption]
  | ok b => simp [Except.toOption]

/-- Changing what an error says keeps success. -/
theorem mapError_eq_ok_iff {δ : Type} {x : Except ε α} {f : ε → δ} {a : α} :
    x.mapError f = .ok a ↔ x = .ok a := by
  cases x with
  | error e => simp
  | ok b => simp

/-- Changing what an error says keeps failure. -/
theorem mapError_eq_error_iff {δ : Type} {x : Except ε α} {f : ε → δ} {d : δ} :
    x.mapError f = .error d ↔ ∃ e, x = .error e ∧ f e = d := by
  cases x with
  | error e => simp
  | ok b => simp

/-- A traversal succeeds when the step succeeds at every item. -/
theorem mapM_eq_ok_iff {f : α → Except ε β} {as : List α} {bs : List β} :
    as.mapM f = .ok bs ↔ List.Forall₂ (fun a b ↦ f a = .ok b) as bs := by
  induction as generalizing bs with
  | nil =>
    rw [List.mapM_nil, pure_eq_ok, Except.ok.injEq]
    constructor
    · rintro rfl
      exact .nil
    · intro h
      cases h
      rfl
  | cons a as ih =>
    rw [List.mapM_cons, bind_eq_ok_iff]
    constructor
    · rintro ⟨b, hb, h⟩
      obtain ⟨cs, hcs, h⟩ := bind_eq_ok_iff.1 h
      obtain rfl : b :: cs = bs := by simpa using h
      exact .cons hb (ih.1 hcs)
    · intro h
      cases h with
      | @cons _ b _ cs hb hcs => exact ⟨b, hb, by rw [ih.2 hcs]; rfl⟩

/-- Changing every result of the step changes the items of what the traversal gives. -/
theorem mapM_eq_map {γ : Type} {f : α → Except ε β} {f' : α → Except ε γ} {g : β → γ}
    (h : ∀ a, f' a = (f a).map g) (as : List α) : as.mapM f' = (as.mapM f).map (List.map g) := by
  induction as with
  | nil => rfl
  | cons a as ih =>
    rw [List.mapM_cons, List.mapM_cons, h, ih]
    cases f a with
    | error e => rfl
    | ok b => cases as.mapM f <;> rfl

/-- Two runs of two steps agree up to what `q` forgets, if the first steps agree up to what `p`
forgets and the second steps agree on results that do. -/
theorem map_bind_congr {γ δ : Type} {x y : Except ε α} {f g : α → Except ε β} {p : α → γ}
    {q : β → δ} (h : x.map p = y.map p) (hstep : ∀ a b, p a = p b → (f a).map q = (g b).map q) :
    (x >>= f).map q = (y >>= g).map q := by
  cases x with
  | error e =>
    cases y with
    | error e' =>
      obtain rfl := Except.error.inj h
      rfl
    | ok b => cases h
  | ok a =>
    cases y with
    | error e' => cases h
    | ok b => exact hstep a b (Except.ok.inj h)

/-- Two runs with the same first step agree if the second steps do. -/
theorem map_bind_congr_right {γ : Type} (x : Except ε α) {f g : α → Except ε β} {q : β → γ}
    (hstep : ∀ a, (f a).map q = (g a).map q) : (x >>= f).map q = (x >>= g).map q := by
  rw [map_bind, map_bind, funext hstep]

/-- Two traversals agree up to what `q` forgets if the steps do. -/
theorem map_mapM_congr {γ : Type} {f g : α → Except ε β} {q : β → γ}
    (h : ∀ a, (f a).map q = (g a).map q) (as : List α) :
    (as.mapM f).map (List.map q) = (as.mapM g).map (List.map q) := by
  rw [← mapM_eq_map (fun a ↦ (h a).symm) as, ← mapM_eq_map (fun _ ↦ rfl) as]

/-- A traversal whose step succeeds at every item gives what the step gives at each. -/
theorem mapM_eq_ok_map {f : α → Except ε β} {g : α → β} {as : List α}
    (h : ∀ a ∈ as, f a = .ok (g a)) : as.mapM f = .ok (as.map g) := by
  induction as with
  | nil => rfl
  | cons a as ih =>
    rw [List.mapM_cons, h a List.mem_cons_self, ok_bind,
      ih fun a' ha' ↦ h a' (List.mem_cons_of_mem a ha')]
    rfl

/-- A traversal whose step can only give one result at each item gives these. -/
theorem eq_map_of_mapM {f : α → Except ε β} {g : α → β} (h : ∀ a b, f a = .ok b → b = g a)
    {as : List α} {bs : List β} (hbs : as.mapM f = .ok bs) : bs = as.map g := by
  have hall := mapM_eq_ok_iff.1 hbs
  clear hbs
  induction hall with
  | nil => rfl
  | cons hb _ ih => rw [List.map_cons, ← h _ _ hb, ih]

/-- A traversal gives what can be said of each result by its item. -/
theorem map_eq_map_of_mapM {γ : Type} {f : α → Except ε β} {p : β → γ} {q : α → γ}
    (h : ∀ a b, f a = .ok b → p b = q a) {as : List α} {bs : List β}
    (hbs : as.mapM f = .ok bs) : bs.map p = as.map q := by
  have hall := mapM_eq_ok_iff.1 hbs
  clear hbs
  induction hall with
  | nil => rfl
  | cons hb _ ih => rw [List.map_cons, List.map_cons, h _ _ hb, ih]

/-- Two traversals are the same where the steps are at items in the same place. -/
theorem mapM_congr_forall₂ {γ : Type} {f : α → Except ε β} {g : γ → Except ε β} {as : List α}
    {cs : List γ} (h : List.Forall₂ (fun a c ↦ f a = g c) as cs) : as.mapM f = cs.mapM g := by
  induction h with
  | nil => rfl
  | cons hhead _ ih => rw [List.mapM_cons, List.mapM_cons, hhead, ih]

/-- A traversal depends on its step only at the items of the list. -/
theorem mapM_congr_left {f g : α → Except ε β} {as : List α} (h : ∀ a ∈ as, f a = g a) :
    as.mapM f = as.mapM g :=
  mapM_congr_forall₂ (List.forall₂_same.2 h)

/-- A traversal fails as the step does at the first item where it fails. -/
theorem mapM_eq_error {f : α → Except ε β} {before after : List α} {a : α} {e : ε}
    (hbefore : ∀ a' ∈ before, ∃ b, f a' = .ok b) (ha : f a = .error e) :
    (before ++ a :: after).mapM f = .error e := by
  induction before with
  | nil => rw [List.nil_append, List.mapM_cons, ha, error_bind]
  | cons a' before ih =>
    obtain ⟨b, hb⟩ := hbefore a' List.mem_cons_self
    rw [List.cons_append, List.mapM_cons, hb, ok_bind,
      ih fun a'' ha'' ↦ hbefore a'' (List.mem_cons_of_mem a' ha''), error_bind]

/-- Where not all items have a property, there is a first item without it. -/
theorem exists_first_not {P : α → Prop} {as : List α} (h : ¬∀ a ∈ as, P a) :
    ∃ before a after, as = before ++ a :: after ∧ (∀ a' ∈ before, P a') ∧ ¬P a := by
  induction as with
  | nil => simp at h
  | cons a as ih =>
    by_cases ha : P a
    · have htail : ¬∀ a' ∈ as, P a' := fun hall ↦ h (List.forall_mem_cons.2 ⟨ha, hall⟩)
      obtain ⟨before, a', after, rfl, hbefore, ha'⟩ := ih htail
      exact ⟨a :: before, a', after, rfl, List.forall_mem_cons.2 ⟨ha, hbefore⟩, ha'⟩
    · exact ⟨[], a, as, rfl, by simp, ha⟩

/-- What a traversal gave comes from an item of the list. -/
theorem exists_mem_of_forall₂ {R : α → β → Prop} {as : List α} {bs : List β}
    (h : List.Forall₂ R as bs) {b : β} (hb : b ∈ bs) : ∃ a ∈ as, R a b := by
  induction h with
  | nil => simp at hb
  | @cons a b' as bs hab _ ih =>
    rcases List.mem_cons.1 hb with rfl | hb
    · exact ⟨a, List.mem_cons_self, hab⟩
    · obtain ⟨a', ha', hab'⟩ := ih hb
      exact ⟨a', List.mem_cons_of_mem a ha', hab'⟩

/-- A traversal gives something when the step gives something at every item. -/
theorem exists_mapM_iff {f : α → Except ε β} {as : List α} :
    (∃ bs, as.mapM f = .ok bs) ↔ ∀ a ∈ as, ∃ b, f a = .ok b := by
  constructor
  · rintro ⟨bs, hbs⟩ a ha
    have hall := mapM_eq_ok_iff.1 hbs
    clear hbs
    induction hall with
    | nil => simp at ha
    | @cons a' b as bs hb _ ih =>
      rcases List.mem_cons.1 ha with rfl | ha
      · exact ⟨b, hb⟩
      · exact ih ha
  · intro h
    induction as with
    | nil => exact ⟨[], rfl⟩
    | cons a as ih =>
      obtain ⟨b, hb⟩ := h a List.mem_cons_self
      obtain ⟨bs, hbs⟩ := ih fun a' ha' ↦ h a' (List.mem_cons_of_mem a ha')
      exact ⟨b :: bs, by rw [List.mapM_cons, hb, ok_bind, hbs]; rfl⟩

/-- A traversal of the same items in another order gives the same results in another order. -/
theorem exists_mapM_of_perm {f : α → Except ε β} {as as' : List α} {bs : List β}
    (h : as.Perm as') (hbs : as.mapM f = .ok bs) :
    ∃ bs', as'.mapM f = .ok bs' ∧ bs.Perm bs' := by
  obtain ⟨bs', hall, hperm⟩ := List.perm_comp_forall₂ h.symm (mapM_eq_ok_iff.1 hbs)
  exact ⟨bs', mapM_eq_ok_iff.2 hall, hperm.symm⟩

/-! ### Success alone -/

/-- Two computations succeed alike: they have the same results, whatever their errors are. -/
def SucceedsAlike (x y : Except ε α) : Prop := ∀ a, x = .ok a ↔ y = .ok a

theorem SucceedsAlike.refl (x : Except ε α) : SucceedsAlike x x := fun _ ↦ Iff.rfl

/-- Sequences of two steps succeed alike when the first steps do, and the second steps on each
result. -/
theorem SucceedsAlike.bind {x y : Except ε α} {f g : α → Except ε β} (h : SucceedsAlike x y)
    (hstep : ∀ a, SucceedsAlike (f a) (g a)) : SucceedsAlike (x >>= f) (y >>= g) := by
  intro b
  rw [bind_eq_ok_iff, bind_eq_ok_iff]
  exact exists_congr fun a ↦ and_congr (h a) (hstep a b)

end ServiceClient
