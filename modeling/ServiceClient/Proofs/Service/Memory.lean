import ServiceClient.Proofs.Outcome
import ServiceClient.Service.Memory

/-!
# What is shared in memory

Objects stay where they are, and a write changes one object. So what is read at an address depends
on the objects on the way there: for a view that is the view itself and the table it is of, which is
why a view follows its table (`entries_of_view`).

`IsSnapshot` says that a service does not share its options with a table: what it refers to is a
view of another table. A new service is one (`exists_construct`), and it remains one whatever is
written into the table (`IsSnapshot.set`).
-/

namespace ServiceClient.Memory

variable {m : Memory} {a : Address} {table : Options}

theorem set_self {object : Object} (h : m[a]? = some object) : m.set a object = m := by
  obtain ⟨_, rfl⟩ := List.getElem?_eq_some_iff.1 h
  exact List.set_getElem_self _

theorem entries_of_table (h : m[a]? = some (.table table)) : m.entries a = .ok table := by
  simp only [entries, h]

/-- A view shows the entries of the table that it is of. -/
theorem entries_of_view {target : Address} (hview : m[a]? = some (.view target))
    (htable : m[target]? = some (.table table)) : m.entries a = .ok table := by
  simp only [entries, hview, htable]

/-- A view of a table that is shared, and not of a copy, shows what is written into it later. -/
example :
    let shared : Memory := [.table [(.str "retries", .int 3)], .view 0]
    (shared.setItem 0 (.str "retries") (.int 5)).1.entries 1 =
      .ok [(.str "retries", .int 5)] := rfl

/-! ### Snapshots -/

/-- At an address there is a frozen service whose options are a view of a table, and of another
table than the one at `source`. -/
def IsSnapshot (m : Memory) (source a : Address) (made : Service) (options : Options) : Prop :=
  ∃ view copy, m[a]? = some (.record { frozen := true, made, options := view }) ∧
    m[view]? = some (.view copy) ∧ m[copy]? = some (.table options) ∧ copy ≠ source

namespace IsSnapshot

variable {source : Address} {made : Service} {options : Options}

/-- The service is as it was made, with the options of the snapshot. -/
theorem service_eq (h : IsSnapshot m source a made options) :
    m.service a = .ok ({ made with options }, []) := by
  obtain ⟨view, copy, hrecord, hview, hcopy, -⟩ := h
  simp only [service, hrecord, entries_of_view hview hcopy, ok_bind, pure_eq_ok]

/-- The options can be read and not written to. -/
theorem exists_optionsOf (h : IsSnapshot m source a made options) :
    ∃ view, m.optionsOf a = .ok view ∧ m.entries view = .ok options ∧
      ∀ key value, m.setItem view key value = (m, .error .unfit) := by
  obtain ⟨view, copy, hrecord, hview, hcopy, -⟩ := h
  refine ⟨view, ?_, entries_of_view hview hcopy, fun key value ↦ ?_⟩
  · simp only [optionsOf, hrecord]
  · simp only [setItem, hview]

/-- No field can be assigned. -/
theorem setField_eq (h : IsSnapshot m source a made options) (name : String) (value : Json) :
    m.setField a name value = (m, .error .fixed) := by
  obtain ⟨view, copy, hrecord, -⟩ := h
  simp only [setField, hrecord, if_true]

/-- Whatever is written into the table, the snapshot remains. -/
theorem set (h : IsSnapshot m source a made options) (hsource : m[source]? = some (.table table))
    (after : Options) : IsSnapshot (m.set source (.table after)) source a made options := by
  obtain ⟨view, copy, hrecord, hview, hcopy, hne⟩ := h
  -- the record and the view are elsewhere because they are no tables, the copy because it is one
  have helsewhere {b : Address} {object : Object} (hb : m[b]? = some object) (hbs : b ≠ source) :
      (m.set source (.table after))[b]? = some object := by
    rw [List.getElem?_set_ne hbs.symm, hb]
  refine ⟨view, copy, helsewhere hrecord ?_, helsewhere hview ?_, helsewhere hcopy hne, hne⟩
  · rintro rfl
    cases hsource.symm.trans hrecord
  · rintro rfl
    cases hsource.symm.trans hview

end IsSnapshot

/-! ### New services -/

theorem getElem?_append_of_some {object : Object} (h : m[a]? = some object) (others : Memory) :
    (m ++ others)[a]? = some object := by
  obtain ⟨hlt, -⟩ := List.getElem?_eq_some_iff.1 h
  rw [List.getElem?_append_left hlt, h]

/-- A service is added along with a copy of its options and a view of the copy. -/
theorem construct_eq {source : Address} (hsource : m[source]? = some (.table table))
    (made : Service) :
    m.construct made source = .ok
      (m ++ [.record { frozen := true, made, options := m.length + 2 }, .table table,
        .view (m.length + 1)], m.length) := by
  have htable (r : Record) : (m ++ [Object.record r])[source]? = some (.table table) :=
    getElem?_append_of_some hsource _
  simp [construct, settleOptions, add, optionsOf, bindOptions, entries_of_table (htable _)]

/-- A new service is a snapshot of the table that it was made from, which stays as it is. -/
theorem exists_construct {source : Address} (hsource : m[source]? = some (.table table))
    (made : Service) :
    ∃ m' a, m.construct made source = .ok (m', a) ∧ IsSnapshot m' source a made table ∧
      m'[source]? = some (.table table) := by
  obtain ⟨hlt, -⟩ := List.getElem?_eq_some_iff.1 hsource
  refine ⟨_, _, construct_eq hsource made, ⟨m.length + 2, m.length + 1, ?_, ?_, ?_, ?_⟩,
    getElem?_append_of_some hsource _⟩
  · simp
  · simp
  · simp
  · exact Nat.ne_of_gt (Nat.lt_succ_of_lt hlt)

end ServiceClient.Memory
