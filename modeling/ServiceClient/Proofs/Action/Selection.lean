import ServiceClient.Proofs.Action.Congruence
import ServiceClient.Proofs.Action.Order
import ServiceClient.Proofs.Json.Reorder
import ServiceClient.Proofs.Spec.Found

/-!
# Operations in another order, and fewer operations

The operations are compiled one after another, and the first that fails decides the fault; but
whether all of them succeed does not depend on the order, and the actions are sorted at the end. So
specs that are the same up to the order of the operations have the same actions, if they have any.

Nor do operations influence each other. A spec with some of the operations has those of the actions
that belong to them.
-/

namespace ServiceClient

variable {api api' docs docs' : Json}

/-! ### What is looked up -/

theorem Spec.shape_eq_of_reordered (h : api.SectionsReordered api') :
    Spec.shape api = Spec.shape api' := by
  funext operation direction
  have hfind (name : Json) : (Spec.shapes api >>= fun shapes ↦ shapes.find name) =
      Spec.shapes api' >>= fun shapes ↦ shapes.find name :=
    h.fieldOrEmpty_bind_eq "shapes" fun _ _ hreordered ↦ hreordered.find_eq name
  simp only [Spec.shape, hfind]

theorem Spec.endpointPrefix_eq_of_reordered (h : api.SectionsReordered api') :
    Spec.endpointPrefix api = Spec.endpointPrefix api' :=
  h.fieldOrEmpty_bind_eq "metadata" fun _ _ hreordered ↦ hreordered.field_eq "endpointPrefix"

theorem Doc.operationEntry_eq_of_reordered (h : docs.SectionsReordered docs') :
    Doc.operationEntry docs = Doc.operationEntry docs' := by
  funext name
  exact h.fieldOrEmpty_bind_eq "operations" fun _ _ hreordered ↦ hreordered.field_eq name

/-! ### Some of the operations -/

/-- An object with those of its fields whose names are kept. -/
def Json.keepFields (keep : String → Bool) : Json → Json
  | .obj fields => .obj (fields.filter fun field ↦ keep field.1)
  | v => v

/-- An API spec with those of its operations whose names are kept. -/
def Spec.keepOperations (keep : String → Bool) : Json → Json
  | .obj sections => .obj (sections.map fun s ↦
      (s.1, if s.1 = "operations" then s.2.keepFields keep else s.2))
  | api => api

theorem Fields.lookup_map (f : String → Json → Json) (fields : Fields) (name : String) :
    (fields.map fun field ↦ (field.1, f field.1 field.2)).lookup name =
      (fields.lookup name).map (f name) := by
  induction fields with
  | nil => rfl
  | cons field fields ih =>
    rw [List.map_cons, List.lookup_cons, List.lookup_cons, ih]
    cases hname : name == field.1 with
    | true => rw [eq_of_beq hname]; rfl
    | false => rfl

theorem Spec.fieldOrEmpty_keepOperations {name : String} (h : name ≠ "operations")
    (keep : String → Bool) (api : Json) :
    (keepOperations keep api).fieldOrEmpty name = api.fieldOrEmpty name := by
  cases api with
  | obj sections =>
    rw [keepOperations, Json.fieldOrEmpty_obj, Json.fieldOrEmpty_obj,
      Fields.lookup_map fun name v ↦ if name = "operations" then v.keepFields keep else v]
    simp [h]
  | _ => rfl

theorem Spec.operations_keepOperations (keep : String → Bool) (api : Json) :
    Spec.operations (keepOperations keep api) =
      (Spec.operations api).map (Json.keepFields keep) := by
  cases api with
  | obj sections =>
    rw [Spec.operations, Spec.operations, keepOperations, Json.fieldOrEmpty_obj,
      Json.fieldOrEmpty_obj,
      Fields.lookup_map fun name v ↦ if name = "operations" then v.keepFields keep else v]
    cases sections.lookup "operations" <;> rfl
  | _ => rfl

theorem Spec.shape_keepOperations (keep : String → Bool) (api : Json) :
    Spec.shape (keepOperations keep api) = Spec.shape api := by
  funext operation direction
  rw [Spec.shape, Spec.shape, Spec.shapes, Spec.shapes, fieldOrEmpty_keepOperations (by decide)]

theorem Spec.endpointPrefix_keepOperations (keep : String → Bool) (api : Json) :
    Spec.endpointPrefix (keepOperations keep api) = Spec.endpointPrefix api := by
  rw [Spec.endpointPrefix, Spec.endpointPrefix, Spec.metadata, Spec.metadata,
    fieldOrEmpty_keepOperations (by decide)]

namespace Action

variable {transport : Transport} {language : Language}

/-- The actions of the operations that are kept. -/
theorem filter_of_forall₂ {operations : Fields} {actions : List Action}
    (h : List.Forall₂ (CompilesTo transport language api docs) operations actions)
    (keep : String → Bool) :
    List.Forall₂ (CompilesTo transport language api docs)
      (operations.filter fun operation ↦ keep operation.1)
      (actions.filter fun a ↦ keep a.name) := by
  induction h with
  | nil => exact .nil
  | @cons operation a operations actions hhead _ ih =>
    rw [List.filter_cons, List.filter_cons, hhead.2.1]
    split
    · exact .cons hhead ih
    · exact ih

/-- Compiling all operations succeeds with the actions of each in strictly ascending order of their
function names. -/
theorem compileAll_eq_ok_iff {arranged : List Action} :
    compileAll transport language api docs = .ok arranged ↔
      ∃ operations, (Spec.operations api >>= Json.fields) = .ok operations ∧
        ∃ actions, (operations.mapM fun operation ↦
            compile transport language api docs operation.1 operation.2) = .ok actions ∧
          arranged.Perm actions ∧
          arranged.Pairwise fun a b ↦ a.functionName < b.functionName := by
  rw [compileAll_eq, ← bind_assoc]
  refine bind_eq_ok_iff.trans (exists_congr fun operations ↦ and_congr_right fun _ ↦ ?_)
  exact bind_eq_ok_iff.trans (exists_congr fun actions ↦ and_congr_right fun _ ↦
    arrange_eq_ok_iff_perm)

/-- Every operation is compiled into an action of its own, and there are no others. -/
theorem exists_forall₂_of_compileAll {actions : List Action}
    (h : compileAll transport language api docs = .ok actions) :
    ∃ compiled, List.Forall₂ (CompilesTo transport language api docs)
      (api.part "operations").entries compiled ∧ actions.Perm compiled := by
  obtain ⟨operations, hoperations, compiled, hcompiled, hperm, -⟩ := compileAll_eq_ok_iff.1 h
  obtain ⟨found, hfound, hfields⟩ := bind_eq_ok_iff.1 hoperations
  obtain rfl := Json.eq_part_of_fieldOrEmpty hfound
  obtain rfl := Json.eq_entries_of_fields hfields
  exact ⟨compiled, forall₂_compilesTo hcompiled, hperm⟩

/-- An action is compiled from one of the operations. -/
theorem exists_compile_of_mem {a : Action} {actions : List Action}
    (h : compileAll transport language api docs = .ok actions) (ha : a ∈ actions) :
    ∃ operation, (a.name, operation) ∈ (api.part "operations").entries ∧
      compile transport language api docs a.name operation = .ok a := by
  obtain ⟨compiled, hcompiled, hperm⟩ := exists_forall₂_of_compileAll h
  obtain ⟨⟨name, operation⟩, hmem, hcompile, rfl, -⟩ :=
    exists_mem_of_forall₂ hcompiled (hperm.mem_iff.1 ha)
  exact ⟨operation, hmem, hcompile⟩

/-- Every operation has an action. -/
theorem exists_action_of_mem {operation : String × Json} {actions : List Action}
    (h : compileAll transport language api docs = .ok actions)
    (hmem : operation ∈ (api.part "operations").entries) :
    ∃ a ∈ actions, compile transport language api docs operation.1 operation.2 = .ok a := by
  obtain ⟨compiled, hcompiled, hperm⟩ := exists_forall₂_of_compileAll h
  obtain ⟨a, ha, hcompile, -⟩ := exists_mem_of_forall₂ hcompiled.flip hmem
  exact ⟨a, hperm.mem_iff.2 ha, hcompile⟩

/-- There are as many actions as operations. -/
theorem length_of_compileAll {actions : List Action}
    (h : compileAll transport language api docs = .ok actions) :
    actions.length = (api.part "operations").entries.length := by
  obtain ⟨compiled, hcompiled, hperm⟩ := exists_forall₂_of_compileAll h
  rw [hperm.length_eq, hcompiled.length_eq]

/-- With some of the operations, the actions are those that belong to them. -/
theorem compileAll_keepOperations {arranged : List Action}
    (h : compileAll transport language api docs = .ok arranged) (keep : String → Bool) :
    compileAll transport language (Spec.keepOperations keep api) docs =
      .ok (arranged.filter fun a ↦ keep a.name) := by
  obtain ⟨operations, hoperations, actions, hactions, hperm, hascending⟩ :=
    compileAll_eq_ok_iff.1 h
  have hcompile : compile transport language (Spec.keepOperations keep api) docs =
      compile transport language api docs :=
    compile_congr (Spec.shape_keepOperations keep api)
      (Spec.endpointPrefix_keepOperations keep api) rfl transport language
  refine compileAll_eq_ok_iff.2 ⟨operations.filter fun operation ↦ keep operation.1, ?_,
    actions.filter fun a ↦ keep a.name, ?_, hperm.filter _, hascending.filter _⟩
  · obtain ⟨found, hfound, hfields⟩ := bind_eq_ok_iff.1 hoperations
    rw [Spec.operations_keepOperations, hfound]
    cases found with
    | obj fields =>
      obtain rfl := Except.ok.inj hfields
      rfl
    | _ => cases hfields
  · rw [hcompile]
    exact mapM_eq_ok_iff.2
      ((filter_of_forall₂ (forall₂_compilesTo hactions) keep).imp fun _ _ hto ↦ hto.1)

/-! ### Operations in another order -/

/-- Specs that are the same up to the order of their operations have the same actions, if any. -/
theorem compileAll_eq_ok_of_reordered (hapi : api.SectionsReordered api')
    (hdocs : docs.SectionsReordered docs') {arranged : List Action}
    (h : compileAll transport language api docs = .ok arranged) :
    compileAll transport language api' docs' = .ok arranged := by
  obtain ⟨operations, hoperations, actions, hactions, hperm, hascending⟩ :=
    compileAll_eq_ok_iff.1 h
  have hcompile := compile_congr (Spec.shape_eq_of_reordered hapi)
    (Spec.endpointPrefix_eq_of_reordered hapi) (Doc.operationEntry_eq_of_reordered hdocs)
    transport language
  obtain ⟨e, he, -⟩ | ⟨v, w, hv, hw, hreordered⟩ := hapi.fieldOrEmpty_cases "operations"
  · rw [Spec.operations, he] at hoperations
    cases hoperations
  rw [Spec.operations, hv, ok_bind] at hoperations
  obtain ⟨e, he, -⟩ | ⟨fs, gs, hfs, hgs, hfields⟩ := hreordered.fields_cases
  · rw [he] at hoperations
    cases hoperations
  obtain rfl := Except.ok.inj (hfs.symm.trans hoperations)
  rw [hcompile] at hactions
  obtain ⟨actions', hactions', hperm'⟩ := exists_mapM_of_perm hfields hactions
  exact compileAll_eq_ok_iff.2 ⟨gs, by rw [Spec.operations, hw, ok_bind, hgs], actions',
    hactions', hperm.trans hperm', hascending⟩

theorem compileAll_succeedsAlike (hapi : api.SectionsReordered api')
    (hdocs : docs.SectionsReordered docs') :
    SucceedsAlike (compileAll transport language api docs)
      (compileAll transport language api' docs') := fun _ ↦
  ⟨compileAll_eq_ok_of_reordered hapi hdocs, compileAll_eq_ok_of_reordered hapi.symm hdocs.symm⟩

end Action

end ServiceClient
