import ServiceClient.Proofs.Action.Compile
import ServiceClient.Proofs.Action.Congruence
import ServiceClient.Proofs.Parameter

/-!
# What reaches an action

An action for a request of its own is made from what the request carries outside its body: of the
members of an input those in the path and the headers, of an output those in the headers. Two specs
that agree on these, and on how each operation describes its request, are compiled alike, error
included, whatever else they say; `AgreeOnWire` puts it shape by shape, so that a shape that serves
as an input and as an output has to keep both kinds of members, and one that serves as neither none.

An action for a remote procedure call is made from the name of its operation alone.
-/

namespace ServiceClient

namespace Spec

variable {api api' operation operation' : Json} {direction : String}

/-- A spec is typed wherever the compilation of its operations looks. -/
structure IsTypedInUse (api : Json) : Prop where
  /-- The spec is an object. -/
  isObj : api.IsObj
  /-- The operations are the fields of an object. -/
  operations_isObj : (api.part "operations").IsObj
  /-- The members of the inputs are typed. -/
  inputs : ∀ operation ∈ (api.part "operations").entries,
    HasTypedMembers api operation.2 "input"
  /-- The members of the outputs are typed. -/
  outputs : ∀ operation ∈ (api.part "operations").entries,
    HasTypedMembers api operation.2 "output"

theorem IsTyped.isTypedInUse (h : IsTyped api) : IsTypedInUse api where
  isObj := h.isObj
  operations_isObj := h.operations_isObj
  inputs _ hoperation :=
    h.hasTypedMembers (h.operations _ hoperation).isObj (h.operations _ hoperation).input
  outputs _ hoperation :=
    h.hasTypedMembers (h.operations _ hoperation).isObj (h.operations _ hoperation).output

theorem IsTypedInUse.fields_operations (h : IsTypedInUse api) :
    (Spec.operations api >>= Json.fields) = .ok (api.part "operations").entries := by
  rw [Spec.operations, h.isObj.fieldOrEmpty_eq, ok_bind, h.operations_isObj.fields_eq]

/-! ### Shapes by name -/

/-- The members of the shape of a given name, in order. -/
def membersNamed (api : Json) (name : String) : Fields :=
  (((api.part "shapes").valueAt name).part "members").entries

/-- An operation refers to the shape of a given name as its input or output. -/
def RefersTo (operation : Json) (direction name : String) : Prop :=
  (operation.valueAt direction).valueAt "shape" = .str name ∧ name ≠ ""

theorem membersOf_eq_membersNamed {name : String} (h : RefersTo operation direction name) :
    membersOf api operation direction = membersNamed api name := by
  rw [membersOf, shape?, h.1, membersNamed, Json.valueAt]
  simp only [h.2, if_false]
  cases (api.part "shapes").entries.lookup name <;> rfl

/-- An operation that refers to no shape has no members. -/
theorem membersOf_eq_nil (h : ∀ name, ¬RefersTo operation direction name) :
    membersOf api operation direction = [] := by
  have hnone : shape? api operation direction = none := shape?_eq_none fun name hname ↦ by
    by_contra hne
    exact h name ⟨hname, hne⟩
  rw [membersOf, hnone]

/-! ### Agreement -/

/-- A member of an input is sent outside the body. -/
def isSent (member : Json) : Bool :=
  Parameter.isBoundTo .path member || Parameter.isBoundTo .header member

/-- A member of an output is received outside the body. -/
def isReceived (member : Json) : Bool := Parameter.isBoundTo .header member

/-- Two operations have one name, and describe their request, input and output alike. -/
structure SameRequest (operation operation' : String × Json) : Prop where
  /-- The names are the same. -/
  name_eq : operation.1 = operation'.1
  /-- The requests are described alike. -/
  http_eq : operation.2.part "http" = operation'.2.part "http"
  /-- The inputs are described alike. -/
  input_eq : operation.2.valueAt "input" = operation'.2.valueAt "input"
  /-- The outputs are described alike. -/
  output_eq : operation.2.valueAt "output" = operation'.2.valueAt "output"

/-- Two specs agree on what their requests and responses carry outside the body. -/
structure AgreeOnWire (api api' : Json) : Prop where
  /-- The endpoint prefix, which errors name, is the same. -/
  endpointPrefix_eq : Spec.endpointPrefix api = Spec.endpointPrefix api'
  /-- The operations describe the same requests, in the same order. -/
  operations : List.Forall₂ SameRequest (api.part "operations").entries
    (api'.part "operations").entries
  /-- A shape that is an input has the same members that are sent outside the body. -/
  inputs : ∀ operation ∈ (api.part "operations").entries, ∀ name,
    RefersTo operation.2 "input" name →
      (membersNamed api name).filter (isSent ·.2) = (membersNamed api' name).filter (isSent ·.2)
  /-- A shape that is an output has the same members that are received outside the body. -/
  outputs : ∀ operation ∈ (api.part "operations").entries, ∀ name,
    RefersTo operation.2 "output" name →
      (membersNamed api name).filter (isReceived ·.2) =
        (membersNamed api' name).filter (isReceived ·.2)

/-- Operations that refer to the same shape have the same members of a kind, if the shape has. -/
theorem filter_membersOf_eq {keep : Json → Bool}
    (hreference : operation.valueAt direction = operation'.valueAt direction)
    (h : ∀ name, RefersTo operation direction name →
      (membersNamed api name).filter (keep ·.2) = (membersNamed api' name).filter (keep ·.2)) :
    (membersOf api operation direction).filter (keep ·.2) =
      (membersOf api' operation' direction).filter (keep ·.2) := by
  have hiff (name : String) :
      RefersTo operation' direction name ↔ RefersTo operation direction name := by
    rw [RefersTo, RefersTo, hreference]
  by_cases hnone : ∃ name, RefersTo operation direction name
  · obtain ⟨name, hname⟩ := hnone
    rw [membersOf_eq_membersNamed hname, membersOf_eq_membersNamed ((hiff name).2 hname),
      h name hname]
  · rw [not_exists] at hnone
    have hnone' (name : String) : ¬RefersTo operation' direction name :=
      fun hname ↦ hnone name ((hiff name).1 hname)
    rw [membersOf_eq_nil hnone, membersOf_eq_nil hnone']

end Spec

/-- The parameters of a location kind are the same where the members are of a kind that includes
it. -/
theorem Parameter.boundOf_congr {api api' operation operation' : Json} {direction : String}
    {kind : LocationKind} {keep : Json → Bool}
    (hkeep : ∀ member, isBoundTo kind member = true → keep member = true)
    (h : (Spec.membersOf api operation direction).filter (keep ·.2) =
      (Spec.membersOf api' operation' direction).filter (keep ·.2)) (language : Language) :
    boundOf language api operation direction kind =
      boundOf language api' operation' direction kind := by
  have hfilter (members : Fields) : members.filter (isBoundTo kind ·.2) =
      (members.filter (keep ·.2)).filter (isBoundTo kind ·.2) := by
    rw [List.filter_filter]
    refine List.filter_congr fun field _ ↦ ?_
    cases hbound : isBoundTo kind field.2 with
    | false => rfl
    | true => rw [hkeep _ hbound]; rfl
  rw [boundOf, boundOf, hfilter, h, ← hfilter]

namespace Action

variable {transport : Transport} {language : Language} {api api' docs : Json}

/-- What compiling remote procedure calls makes of a spec, it makes of the names of the
operations. -/
theorem compileAll_rpc_eq :
    compileAll .rpc language api docs =
      ((Spec.operations api >>= Json.fields).map Fields.names >>= fun names ↦
        names.mapM (compileRpc language docs) >>= arrange api) := by
  rw [compileAll_eq, ← bind_assoc]
  cases Spec.operations api >>= Json.fields with
  | error fault => rfl
  | ok operations =>
    rw [except_map_ok, ok_bind, ok_bind, Fields.names, List.mapM_map]
    rfl

/-- An operation is compiled alike by specs that agree on what requests carry outside the body. -/
theorem compileRest_eq_of_agreeOnWire (hapi : Spec.IsTypedInUse api)
    (hapi' : Spec.IsTypedInUse api') (h : Spec.AgreeOnWire api api')
    {operation operation' : String × Json}
    (hmem : operation ∈ (api.part "operations").entries)
    (hmem' : operation' ∈ (api'.part "operations").entries)
    (hsame : Spec.SameRequest operation operation') :
    compileRest language api docs operation.1 operation.2 =
      compileRest language api' docs operation'.1 operation'.2 := by
  have hinput := hapi.inputs operation hmem
  have hinput' := hapi'.inputs operation' hmem'
  have hsent := Spec.filter_membersOf_eq hsame.input_eq (h.inputs operation hmem)
  have hreceived := Spec.filter_membersOf_eq hsame.output_eq (h.outputs operation hmem)
  rw [hsame.name_eq]
  refine compileRest_congr ?_ (fun kind ↦ ?_) ?_ h.endpointPrefix_eq rfl
  · rw [hinput.operation_isObj.fieldOrEmpty_eq, hinput'.operation_isObj.fieldOrEmpty_eq,
      hsame.http_eq]
  · rw [Parameter.ofOperation_eq hinput, Parameter.ofOperation_eq hinput']
    refine congrArg _ (Parameter.boundOf_congr (fun member hbound ↦ ?_) hsent language)
    cases kind with
    | path => rw [Spec.isSent, hbound, Bool.true_or]
    | header => rw [Spec.isSent, hbound, Bool.or_true]
  · rw [Parameter.ofOperation_eq (hapi.outputs operation hmem),
      Parameter.ofOperation_eq (hapi'.outputs operation' hmem')]
    exact congrArg _ (Parameter.boundOf_congr (fun _ hbound ↦ hbound) hreceived language)

/-- Only what a request carries outside the body, and how it is described, reaches an action: specs
that agree on it have the same actions, or are refused with the same error, whatever else they say
of shapes and operations. For remote procedure calls that is nothing but the names of the
operations. -/
theorem only_wire_data_reaches_actions (language : Language) (api api' docs : Json) :
    (Spec.IsTypedInUse api → Spec.IsTypedInUse api' → Spec.AgreeOnWire api api' →
      compileAll .rest language api docs = compileAll .rest language api' docs) ∧
    ((Spec.operations api >>= Json.fields).map Fields.names =
        (Spec.operations api' >>= Json.fields).map Fields.names →
      Spec.endpointPrefix api = Spec.endpointPrefix api' →
      compileAll .rpc language api docs = compileAll .rpc language api' docs) := by
  constructor
  · intro hapi hapi' h
    -- the operations that stand in the same place, each as one of its spec
    have hleft := (List.forall₂_and_left _ _).2 ⟨fun _ hmem ↦ hmem, h.operations⟩
    have hright := ((List.forall₂_and_left _ _).2 ⟨fun _ hmem ↦ hmem, hleft.flip⟩).flip
    have hcompile : List.Forall₂ (fun operation operation' ↦
        compile .rest language api docs operation.1 operation.2 =
          compile .rest language api' docs operation'.1 operation'.2)
        (api.part "operations").entries (api'.part "operations").entries :=
      hright.imp fun _ _ ⟨hmem', hmem, hsame⟩ ↦
        compileRest_eq_of_agreeOnWire hapi hapi' h hmem hmem' hsame
    rw [compileAll_of_fields hapi.fields_operations, compileAll_of_fields hapi'.fields_operations,
      mapM_congr_forall₂ hcompile, arrange_congr h.endpointPrefix_eq]
  · intro hnames hendpoint
    rw [compileAll_rpc_eq, compileAll_rpc_eq, hnames, arrange_congr hendpoint]

/-- A shape is both input and output. A member of its body is moved to the query and another one is
added, a field is added to the operation, and a shape that nothing refers to is no shape any
more. -/
theorem only_wire_data_reaches_actions_shared :
    let member (location : String) : Json := .obj [("location", .str location)]
    let item : Json := .obj [("shape", .str "Item")]
    let api (members fields shapes : Fields) : Json := .obj [
      ("metadata", .obj [("endpointPrefix", .str "items")]),
      ("operations", .obj [("GetItem", .obj (
        ("http", .obj [("method", .str "GET"), ("requestUri", .str "/\x7bId\x7d")]) ::
        ("input", item) :: ("output", item) :: fields))]),
      ("shapes", .obj (("Item", .obj [("members", .obj members)]) :: shapes))]
    let before := api [("Id", member "uri"), ("Note", .empty), ("Tag", member "header")] []
      [("Other", .empty)]
    let after := api [("Body", .empty), ("Id", member "uri"), ("Note", member "querystring"),
      ("Tag", member "header")] [("errors", .arr [])] [("Other", .str "none")]
    compileAll .rest .elixir before .empty = compileAll .rest .elixir after .empty ∧
      compileAll .rpc .elixir before .empty = compileAll .rpc .elixir after .empty ∧
      ∃ actions, compileAll .rest .elixir after .empty = .ok actions ∧
        actions.map Action.functionParameters = [", id, tag"] := by
  intro member item api before after
  have hmember (location : String) : Spec.IsTypedMember (member location) :=
    ⟨trivial, trivial, trivial⟩
  have hempty : Spec.IsTypedMember .empty := ⟨trivial, trivial, trivial⟩
  have htyped (members fields shapes : Fields)
      (hmembers : ∀ field ∈ members, Spec.IsTypedMember field.2) :
      Spec.IsTypedInUse (api members fields shapes) := by
    have hshape : Spec.IsTypedShape (.obj [("members", .obj members)]) :=
      ⟨trivial, trivial, hmembers⟩
    refine ⟨trivial, trivial, List.forall_mem_singleton.2 ?_, List.forall_mem_singleton.2 ?_⟩
    · exact ⟨trivial, trivial, trivial, trivial, by rintro shape ⟨⟩; exact hshape⟩
    · exact ⟨trivial, trivial, trivial, trivial, by rintro shape ⟨⟩; exact hshape⟩
  have hagree : Spec.AgreeOnWire before after := by
    have hname {operation : Json} {direction name : String}
        (hitem : operation.valueAt direction = item)
        (hrefers : Spec.RefersTo operation direction name) : name = "Item" := by
      have hshape := hrefers.1
      rw [hitem] at hshape
      exact (Json.str.inj hshape).symm
    refine ⟨rfl, .cons ⟨rfl, rfl, rfl, rfl⟩ .nil,
      List.forall_mem_singleton.2 fun name hrefers ↦ ?_,
      List.forall_mem_singleton.2 fun name hrefers ↦ ?_⟩
    · rw [hname rfl hrefers]
      rfl
    · rw [hname rfl hrefers]
      rfl
  obtain ⟨hrest, hrpc⟩ := only_wire_data_reaches_actions .elixir before after .empty
  refine ⟨hrest (htyped _ _ _ ?_) (htyped _ _ _ ?_) hagree, hrpc rfl rfl, ?_⟩
  · simp [hmember, hempty]
  · simp [hmember, hempty]
  · have hactions : (compileAll .rest .elixir after .empty).toOption.map
        (List.map Action.functionParameters) = some [", id, tag"] := by decide +kernel
    obtain ⟨actions, hsome, hparameters⟩ := Option.map_eq_some_iff.1 hactions
    exact ⟨actions, toOption_eq_some_iff.1 hsome, hparameters⟩

end Action

end ServiceClient
