import Mathlib.Data.List.Sort
import ServiceClient.Proofs.Action.Arrange
import ServiceClient.Proofs.Action.Compile
import ServiceClient.Proofs.Action.Parts
import ServiceClient.Proofs.Spec.Typed

/-!
# The order of the actions

Arranged actions are the compiled ones in strictly ascending order of their function names. There is
only one such order, so `arrange_eq_ok_iff_perm` says all about success.

A refusal names the smallest function name that is shared and the first two operations that have it.
It also names the service, by the endpoint prefix in the metadata. These may be missing, but if they
are there and no object then looking for the prefix fails, and that fault takes the place of the
refusal (`clash_unnamed_without_metadata`).
-/

namespace ServiceClient.Action

variable {transport : Transport} {language : Language} {api docs : Json}

/-! ### Success -/

/-- Actions with different function names are sorted into strictly ascending order. -/
theorem sortByFunctionName_pairwise_lt {actions : List Action}
    (h : (actions.map functionName).Nodup) :
    (sortByFunctionName actions).Pairwise fun a b ↦ a.functionName < b.functionName := by
  have hnodup : ((sortByFunctionName actions).map functionName).Nodup :=
    ((List.mergeSort_perm actions _).map functionName).nodup_iff.2 h
  exact ((sortByFunctionName_pairwise actions).and (List.pairwise_map.1 hnodup)).imp
    fun ⟨hle, hne⟩ ↦ lt_of_le_of_ne hle hne

/-- Actions in strictly ascending order have different function names. -/
theorem nodup_functionName_of_pairwise_lt {actions : List Action}
    (h : actions.Pairwise fun a b ↦ a.functionName < b.functionName) :
    (actions.map functionName).Nodup :=
  List.pairwise_map.2 (h.imp ne_of_lt)

/-- The arranged actions are the given ones in strictly ascending order of their function names. -/
theorem arrange_eq_ok_iff_perm {actions arranged : List Action} :
    arrange api actions = .ok arranged ↔
      arranged.Perm actions ∧ arranged.Pairwise fun a b ↦ a.functionName < b.functionName := by
  constructor
  · intro h
    obtain ⟨hshared, rfl⟩ := arrange_eq_ok_iff.1 h
    have hperm : (sortByFunctionName actions).Perm actions := List.mergeSort_perm actions _
    have hnodup := (firstShared?_eq_none_iff (sortByFunctionName_pairwise actions)).1 hshared
    exact ⟨hperm,
      sortByFunctionName_pairwise_lt ((hperm.map functionName).nodup_iff.1 hnodup)⟩
  · rintro ⟨hperm, hascending⟩
    have hnodup : (actions.map functionName).Nodup :=
      (hperm.map functionName).nodup_iff.1 (nodup_functionName_of_pairwise_lt hascending)
    have hsorted : sortByFunctionName actions = arranged :=
      List.Perm.eq_of_pairwise (fun a b _ _ hab hba ↦ absurd hab (lt_asymm hba))
        (sortByFunctionName_pairwise_lt hnodup) hascending
        ((List.mergeSort_perm actions _).trans hperm.symm)
    rw [arrange_of_nodup hnodup, hsorted]

/-! ### All operations -/

/-- An action is what an operation is compiled into, and goes by the names of the operation. -/
def CompilesTo (transport : Transport) (language : Language) (api docs : Json)
    (operation : String × Json) (a : Action) : Prop :=
  compile transport language api docs operation.1 operation.2 = .ok a ∧
    a.name = operation.1 ∧ a.functionName = Identifier.snakeCase operation.1

theorem forall₂_compilesTo {operations : Fields} {actions : List Action}
    (h : (operations.mapM fun operation ↦
      compile transport language api docs operation.1 operation.2) = .ok actions) :
    List.Forall₂ (CompilesTo transport language api docs) operations actions :=
  (mapM_eq_ok_iff.1 h).imp fun _ _ hcompile ↦ ⟨hcompile, names_of_compile hcompile⟩

/-- The functions are named as the operations, in order. -/
theorem map_functionName_of_forall₂ {operations : Fields} {actions : List Action}
    (h : List.Forall₂ (CompilesTo transport language api docs) operations actions) :
    actions.map functionName = (Fields.names operations).map Identifier.snakeCase := by
  induction h with
  | nil => rfl
  | cons hhead _ ih =>
    rw [List.map_cons, ih, hhead.2.2]
    rfl

/-- The actions with one function name are named as the operations that have it, in order. -/
theorem map_name_filter_of_forall₂ {operations : Fields} {actions : List Action}
    (h : List.Forall₂ (CompilesTo transport language api docs) operations actions)
    (shared : String) :
    (actions.filter fun a ↦ a.functionName = shared).map Action.name =
      (Fields.names operations).filter fun name ↦ Identifier.snakeCase name = shared := by
  induction h with
  | nil => rfl
  | @cons operation a operations actions hhead _ ih =>
    have hnames : Fields.names (operation :: operations) =
        operation.1 :: Fields.names operations := rfl
    rw [hnames, List.filter_cons, List.filter_cons, hhead.2.2]
    split
    · rw [List.map_cons, ih, hhead.2.1]
    · exact ih

/-- Once every operation has been compiled, all that is left is to arrange the actions. -/
theorem exists_compileAll_eq_arrange {operations : Fields}
    (hoperations : (Spec.operations api >>= Json.fields) = .ok operations)
    (hcompile : ∀ operation ∈ operations, ∃ a,
      compile transport language api docs operation.1 operation.2 = .ok a) :
    ∃ actions, List.Forall₂ (CompilesTo transport language api docs) operations actions ∧
      actions.map functionName = (Fields.names operations).map Identifier.snakeCase ∧
      compileAll transport language api docs = arrange api actions := by
  obtain ⟨actions, hactions⟩ := exists_mapM_iff.2 hcompile
  have hall := forall₂_compilesTo hactions
  refine ⟨actions, hall, map_functionName_of_forall₂ hall, ?_⟩
  obtain ⟨found, hfound, hfields⟩ := bind_eq_ok_iff.1 hoperations
  rw [compileAll_eq, hfound, ok_bind, hfields, ok_bind, hactions, ok_bind]

/-- Once every operation has been compiled, the function names decide. If they differ, the actions
are those of the operations, one for each, in strictly ascending order of the function names.
Otherwise they are refused for the smallest function name that is shared, with the first two
operations that have it, the second of which is the one that the error names. The error also names
the service by its endpoint prefix, or by null; so where the metadata are no object, looking for the
prefix fails before there is such an error. -/
theorem compileAll_sorts_or_refuses {operations : Fields}
    (hoperations : (Spec.operations api >>= Json.fields) = .ok operations)
    (hcompile : ∀ operation ∈ operations, ∃ a,
      compile transport language api docs operation.1 operation.2 = .ok a) :
    ∃ actions, List.Forall₂ (CompilesTo transport language api docs) operations actions ∧
      (((Fields.names operations).map Identifier.snakeCase).Nodup →
        ∃ arranged, compileAll transport language api docs = .ok arranged ∧
          arranged.Perm actions ∧
          arranged.Pairwise fun a b ↦ a.functionName < b.functionName) ∧
      (¬((Fields.names operations).map Identifier.snakeCase).Nodup →
        ∃ shared first second rest,
          (Fields.names operations).filter (fun name ↦ Identifier.snakeCase name = shared) =
            first :: second :: rest ∧
          (∀ other, 2 ≤ ((Fields.names operations).map Identifier.snakeCase).count other →
            shared ≤ other) ∧
          ((api.part "metadata").IsObj →
            compileAll transport language api docs = .error (.spec {
              defect := .sharedFunctionName first second shared
              service := (api.part "metadata").valueAt "endpointPrefix"
              operation := .str second })) ∧
          (¬(api.part "metadata").IsObj →
            compileAll transport language api docs = .error .wanting)) := by
  obtain ⟨actions, hall, hnames, harrange⟩ := exists_compileAll_eq_arrange hoperations hcompile
  obtain ⟨_, hfound, -⟩ := bind_eq_ok_iff.1 hoperations
  have hapi : api.IsObj := Json.isObj_of_fieldOrEmpty hfound
  rw [harrange, ← hnames]
  refine ⟨actions, hall, fun hnodup ↦ ?_, fun hnodup ↦ ?_⟩
  · exact ⟨sortByFunctionName actions, arrange_of_nodup hnodup api,
      List.mergeSort_perm actions _, sortByFunctionName_pairwise_lt hnodup⟩
  · obtain ⟨a, b, rest, hfilter, hleast, hrefused⟩ := exists_arrange_eq_refused hnodup api
    refine ⟨b.functionName, a.name, b.name, rest.map Action.name, ?_, hleast,
      fun hmetadata ↦ ?_, fun hmetadata ↦ ?_⟩
    · rw [← map_name_filter_of_forall₂ hall, hfilter]
      rfl
    · rw [hrefused, Spec.endpointPrefix_eq_valueAt hapi hmetadata, ok_bind]
    · rw [hrefused, Spec.endpointPrefix_eq_wanting hapi hmetadata, error_bind]

/-- Where the metadata are null, two operations with one function name are not refused as such:
there is no endpoint prefix to look for, although each operation is compiled. -/
theorem clash_unnamed_without_metadata :
    let api : Json := .obj [
      ("metadata", .null),
      ("operations", .obj [("GetItem", .empty), ("getItem", .empty)])]
    (∃ operations, (Spec.operations api >>= Json.fields) = .ok operations ∧
        ¬((Fields.names operations).map Identifier.snakeCase).Nodup ∧
        ∀ operation ∈ operations, ∃ a,
          compile .rpc .elixir api .empty operation.1 operation.2 = .ok a) ∧
      compileAll .rpc .elixir api .empty = .error .wanting := by
  intro api
  have hoperations : (Spec.operations api >>= Json.fields) =
      .ok [("GetItem", .empty), ("getItem", .empty)] := rfl
  have hclash : ¬((Fields.names [("GetItem", Json.empty), ("getItem", .empty)]).map
      Identifier.snakeCase).Nodup := by decide +kernel
  have hcompile (operation : String × Json) :
      ∃ a, compile .rpc .elixir api .empty operation.1 operation.2 = .ok a := ⟨_, rfl⟩
  refine ⟨⟨_, hoperations, hclash, fun operation _ ↦ hcompile operation⟩, ?_⟩
  obtain ⟨actions, -, hnames, harrange⟩ :=
    exists_compileAll_eq_arrange hoperations fun operation _ ↦ hcompile operation
  rw [← hnames] at hclash
  obtain ⟨_, _, _, -, -, hrefused⟩ := exists_arrange_eq_refused hclash api
  have hunnamed : Spec.endpointPrefix api = .error .wanting := rfl
  rw [harrange, hrefused, hunnamed, error_bind]

/-- Three of four operations have one function name, and the first two of the three are refused;
without the others the two operations that are left are sorted. -/
theorem compileAll_sorts_or_refuses_items :
    let api (names : List String) : Json := .obj [
      ("metadata", .obj [("endpointPrefix", .str "items")]),
      ("operations", .obj (names.map fun name ↦ (name, .empty)))]
    compileAll .rpc .elixir (api ["PutItem", "get_item", "GetItem", "getItem"]) .empty =
        .error (.spec {
          defect := .sharedFunctionName "get_item" "GetItem" "get_item"
          service := .str "items"
          operation := .str "GetItem" }) ∧
      ∃ arranged, compileAll .rpc .elixir (api ["PutItem", "GetItem"]) .empty = .ok arranged ∧
        arranged.map functionName = ["get_item", "put_item"] := by
  intro api
  have hoperations (names : List String) : (Spec.operations (api names) >>= Json.fields) =
      .ok (names.map fun name ↦ (name, Json.empty)) := rfl
  have hcompile (names : List String) (operation : String × Json) :
      ∃ a, compile .rpc .elixir (api names) .empty operation.1 operation.2 = .ok a := ⟨_, rfl⟩
  constructor
  · obtain ⟨_, _, -, hrefuses⟩ := compileAll_sorts_or_refuses
      (hoperations ["PutItem", "get_item", "GetItem", "getItem"]) fun operation _ ↦
        hcompile ["PutItem", "get_item", "GetItem", "getItem"] operation
    obtain ⟨shared, first, second, rest, hfilter, -, hrefused, -⟩ := hrefuses (by decide +kernel)
    have hnames : Fields.names (["PutItem", "get_item", "GetItem", "getItem"].map fun name ↦
        (name, Json.empty)) = ["PutItem", "get_item", "GetItem", "getItem"] := rfl
    rw [hnames] at hfilter
    have hfirst := List.mem_filter.1 (hfilter ▸ List.mem_cons_self (l := second :: rest))
    have hshared : shared = "put_item" ∨ shared = "get_item" := by
      have hmem := List.mem_map_of_mem (f := Identifier.snakeCase) hfirst.1
      have hsnake : ["PutItem", "get_item", "GetItem", "getItem"].map Identifier.snakeCase =
          ["put_item", "get_item", "get_item", "get_item"] := by decide +kernel
      rw [of_decide_eq_true hfirst.2, hsnake] at hmem
      simpa using hmem
    rcases hshared with rfl | rfl
    · have hput : ["PutItem", "get_item", "GetItem", "getItem"].filter (fun name ↦
          Identifier.snakeCase name = "put_item") = ["PutItem"] := by decide +kernel
      rw [hput] at hfilter
      cases hfilter
    · have hget : ["PutItem", "get_item", "GetItem", "getItem"].filter (fun name ↦
          Identifier.snakeCase name = "get_item") = ["get_item", "GetItem", "getItem"] := by
        decide +kernel
      rw [hget] at hfilter
      obtain ⟨rfl, htail⟩ := List.cons.inj hfilter
      obtain ⟨rfl, -⟩ := List.cons.inj htail
      exact hrefused trivial
  · obtain ⟨actions, hactions, hsorts, -⟩ := compileAll_sorts_or_refuses
      (hoperations ["PutItem", "GetItem"]) fun operation _ ↦
        hcompile ["PutItem", "GetItem"] operation
    obtain ⟨arranged, hcompiled, hperm, hascending⟩ := hsorts (by decide +kernel)
    refine ⟨arranged, hcompiled, ?_⟩
    have hnames : actions.map functionName = ["put_item", "get_item"] :=
      (map_functionName_of_forall₂ hactions).trans (by decide +kernel)
    have hsorted : ["get_item", "put_item"].Pairwise (· < ·) := by decide
    refine List.Perm.eq_of_pairwise (fun a b _ _ hab hba ↦ absurd hab (lt_asymm hba))
      (List.pairwise_map.2 hascending) hsorted ((hperm.map functionName).trans ?_)
    rw [hnames]
    exact List.Perm.swap _ _ _

end ServiceClient.Action
