import ServiceClient.Proofs.Service.Heads
import ServiceClient.Proofs.Service.Memory
import ServiceClient.Service.Session

/-!
# Options as a snapshot

A service and the table that its options were taken from go separate ways. `Step.onTable` says what
a step makes of the table alone, without a memory or a service. In a session in which the service is
a snapshot, a step does just that to the object at the address of the table, and to no other
(`Session.Holds.step_eq`); so the service remains a snapshot, by induction over the run
(`Session.Holds.after`).

`Session.options_are_snapshot` says this of every session from its start: the service keeps the
options that the table held when it was made, writing to it is rejected, and the table becomes what
the steps make of it.
-/

namespace ServiceClient.Service

/-- What a step makes of the table, unless it is rejected. -/
def Step.onTable (table : Options) : Step → Outcome Options
  | .setSource key value => if Options.isKey key then .ok (table.put key value) else .error .unfit
  | .deleteSource key =>
    if !Options.isKey key then .error .unfit
    else if (table.value? key).isSome then .ok (table.erase key)
    else .error (.missingKey key.literal)
  | .setService _ _ => .error .unfit
  | .assignField _ _ => .error .fixed
  | .read => .ok table

/-- What some steps make of the table, one after another. Those that are rejected change nothing. -/
def tableAfter (table : Options) : List Step → Options
  | [] => table
  | step :: rest => tableAfter ((step.onTable table).toOption.getD table) rest

namespace Session

/-- The session after some steps, one after another. -/
def after (s : Session) : List Step → Session
  | [] => s
  | step :: rest => (s.step step).1.after rest

theorem after_append (s : Session) (before later : List Step) :
    s.after (before ++ later) = (s.after before).after later := by
  induction before generalizing s with
  | nil => rfl
  | cons step before ih => exact ih (s.step step).1

/-- The answer to a step in a run is what the session that it meets answers. -/
theorem getElem?_run (s : Session) (before : List Step) (step : Step) (later : List Step) :
    (s.run (before ++ step :: later))[before.length]? = some ((s.after before).step step).2 := by
  induction before generalizing s with
  | nil => rfl
  | cons first before ih => exact ih (s.step first).1

/-- The session with another table where its table is. -/
def withTable (s : Session) (table : Options) : Session :=
  { s with memory := s.memory.set s.source (.table table) }

theorem withTable_withTable (s : Session) (table later : Options) :
    (s.withTable table).withTable later = s.withTable later := by
  simp only [withTable, List.set_set]

/-- The table of a session is at its place, and its service is a snapshot. -/
structure Holds (s : Session) (made : Service) (options table : Options) : Prop where
  /-- What the table is now. -/
  table : s.memory[s.source]? = some (.table table)
  /-- What the service is. -/
  snapshot : s.memory.IsSnapshot s.source s.service made options

namespace Holds

variable {s : Session} {made : Service} {options table : Options}

theorem withTable_self (h : s.Holds made options table) : s.withTable table = s := by
  rw [withTable, Memory.set_self h.table]

theorem withTable (h : s.Holds made options table) (later : Options) :
    (s.withTable later).Holds made options later := by
  refine ⟨?_, h.snapshot.set h.table later⟩
  obtain ⟨hlt, -⟩ := List.getElem?_eq_some_iff.1 h.table
  exact List.getElem?_set_self hlt

theorem options_eq (h : s.Holds made options table) : s.options = .ok options := by
  obtain ⟨view, hoptions, hentries, -⟩ := h.snapshot.exists_optionsOf
  rw [Session.options, hoptions, ok_bind, hentries]

/-! ### One step -/

/-- What a step does is to replace the table as it says. -/
theorem perform_eq (h : s.Holds made options table) (step : Step) :
    s.perform step =
      (s.memory.set s.source (.table ((step.onTable table).toOption.getD table)),
        (step.onTable table).map fun _ ↦ ()) := by
  have hself : s.memory.set s.source (.table table) = s.memory := Memory.set_self h.table
  cases step with
  | setSource key value =>
    rw [perform, Memory.setItem, Step.onTable]
    simp only [h.table]
    split
    · rfl
    · exact Prod.ext hself.symm rfl
  | deleteSource key =>
    rw [perform, Memory.deleteItem, Step.onTable]
    simp only [h.table]
    split
    · exact Prod.ext hself.symm rfl
    · split
      · rfl
      · exact Prod.ext hself.symm rfl
  | setService key value =>
    obtain ⟨view, hoptions, -, hwrite⟩ := h.snapshot.exists_optionsOf
    simp only [perform, hoptions, hwrite]
    exact Prod.ext hself.symm rfl
  | assignField name value =>
    rw [perform, h.snapshot.setField_eq]
    exact Prod.ext hself.symm rfl
  | read => exact Prod.ext hself.symm rfl

/-- A step replaces the table and is answered with the options of the snapshot, or it is rejected.
-/
theorem step_eq (h : s.Holds made options table) (step : Step) :
    s.step step =
      (s.withTable ((step.onTable table).toOption.getD table),
        (step.onTable table).map fun _ ↦ options) := by
  have hnext := (h.withTable ((step.onTable table).toOption.getD table)).options_eq
  rw [Session.step, h.perform_eq step]
  refine Prod.ext rfl ?_
  cases hstep : step.onTable table with
  | ok later =>
    rw [hstep] at hnext
    exact hnext
  | error fault => rfl

/-! ### Runs -/

/-- A run replaces the table by what the steps make of it, and so the service stays a snapshot. -/
theorem after (h : s.Holds made options table) (steps : List Step) :
    s.after steps = s.withTable (tableAfter table steps) ∧
      (s.after steps).Holds made options (tableAfter table steps) := by
  induction steps generalizing s table with
  | nil => exact ⟨h.withTable_self.symm, h⟩
  | cons step steps ih =>
    obtain ⟨hafter, hholds⟩ := ih (h.withTable ((step.onTable table).toOption.getD table))
    have hstep : (s.step step).1 = s.withTable ((step.onTable table).toOption.getD table) := by
      rw [h.step_eq step]
    rw [Session.after, hstep]
    exact ⟨hafter.trans (withTable_withTable ..), hholds⟩

end Holds

/-- A service can be made from every table, and is a snapshot of it. -/
theorem exists_start (made : Service) (source : Options) :
    ∃ s, start made source = .ok s ∧ s.Holds made source source := by
  have htable : ([.table source] : Memory)[0]? = some (.table source) := rfl
  obtain ⟨m, a, hconstruct, hsnapshot, hsource⟩ := Memory.exists_construct htable made
  refine ⟨{ memory := m, source := 0, service := a }, ?_, hsource, hsnapshot⟩
  simp [start, Memory.add, hconstruct]

/-- A service is made from every table. Wherever a run has come to, a step leaves the service as it
was made, with the options that the table held then, and nothing assigned to its fields; it is
answered with these options, or it is rejected and changes nothing at all. To write into the options
is always rejected, and so is to assign a field. The table is what the steps have made of it, each
by itself, and all else in memory is as it was at the start. -/
theorem options_are_snapshot (made : Service) (source : Options) (before : List Step)
    (step : Step) (later : List Step) :
    ∃ (s reached next : Session) (answer : Outcome Options),
      start made source = .ok s ∧ s.memory.entries s.source = .ok source ∧
      reached = s.after before ∧ reached.step step = (next, answer) ∧
      (s.run (before ++ step :: later))[before.length]? = some answer ∧
      next.memory.service next.service = .ok ({ made with options := source }, []) ∧
      answer = (step.onTable (tableAfter source before)).map (fun _ ↦ source) ∧
      (∀ fault, answer = .error fault → next = reached) ∧
      (∀ key value, step = .setService key value → answer = .error .unfit) ∧
      (∀ name value, step = .assignField name value → answer = .error .fixed) ∧
      next.memory.entries next.source = .ok (tableAfter source (before ++ [step])) ∧
      next = s.withTable (tableAfter source (before ++ [step])) := by
  obtain ⟨s, hstart, hs⟩ := exists_start made source
  obtain ⟨hreached, hbefore⟩ := hs.after before
  obtain ⟨hnext, hholds⟩ := hs.after (before ++ [step])
  have hlast : s.after (before ++ [step]) = ((s.after before).step step).1 := after_append ..
  rw [hlast] at hnext hholds
  have hstep := hbefore.step_eq step
  have hanswer : ((s.after before).step step).2 =
      (step.onTable (tableAfter source before)).map fun _ ↦ source := by rw [hstep]
  refine ⟨s, s.after before, ((s.after before).step step).1, ((s.after before).step step).2,
    hstart, Memory.entries_of_table hs.table, rfl, rfl,
    getElem?_run s before step later, hholds.snapshot.service_eq, hanswer, ?_, ?_, ?_,
    Memory.entries_of_table hholds.table, hnext⟩
  · intro fault hfault
    rw [hanswer] at hfault
    cases honTable : step.onTable (tableAfter source before) with
    | ok table =>
      rw [honTable] at hfault
      cases hfault
    | error fault =>
      rw [hstep, honTable]
      exact hbefore.withTable_self
  · rintro key value rfl
    exact hanswer
  · rintro name value rfl
    exact hanswer

/-- The table gets another value before the service is written to, and keeps it; the service keeps
the options that it was made with. -/
theorem options_are_snapshot_retries :
    ∃ (made : Service) (s next : Session), build .rest "demo" itemCatalog (itemApi "/items" [])
        .empty (.obj [("retries", .int 3)]) .elixir = .ok made ∧
      start made made.options = .ok s ∧
      (s.run [.setSource (.str "retries") (.int 5), .setService (.str "retries") (.int 7),
        .read])[1]? = some (.error .unfit) ∧
      next.memory.service next.service = .ok (made, []) ∧
      made.options = [(.str "retries", .int 3)] ∧
      next.memory.entries next.source = .ok [(.str "retries", .int 5)] := by
  have hbuild : (build .rest "demo" itemCatalog (itemApi "/items" []) .empty
      (.obj [("retries", .int 3)]) .elixir).toOption.isSome := by
    decide +kernel
  obtain ⟨made, hfound⟩ := Option.isSome_iff_exists.1 hbuild
  have hmade := toOption_eq_some_iff.1 hfound
  obtain ⟨_, _, hparts⟩ := exists_isBuilt hmade
  have hoptions : made.options = [(.str "retries", .int 3)] :=
    (Except.ok.inj hparts.options_eq).symm
  obtain ⟨s, _, next, _, hstart, -, -, -, hanswer, hkept, -, -, hwrite, -, htable, -⟩ :=
    options_are_snapshot made made.options [.setSource (.str "retries") (.int 5)]
      (.setService (.str "retries") (.int 7)) [.read]
  refine ⟨made, s, next, hmade, hstart, hanswer.trans (congrArg some (hwrite _ _ rfl)), hkept,
    hoptions, htable.trans ?_⟩
  rw [hoptions]
  rfl

end Session

end ServiceClient.Service
