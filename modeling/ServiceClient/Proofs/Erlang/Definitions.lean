import ServiceClient.Proofs.Client.Arity

/-!
# The functions that an Erlang module defines

Besides the functions for its actions, a module has one of its own, through which they make their
requests. Its name is one that an operation can have too, and nothing compares the two: a function
is defined twice exactly when the function for such an operation has the same arity. For remote
procedure calls it never has. For requests of their own it is a matter of how many members the
input has in the path, and for GET in the headers.
-/

namespace ServiceClient.Erlang

open Client

variable {transport : Transport} {api docs : Json} {a : Action} {actions : List Action}

/-- The names and the arities of the functions that a module defines. -/
def Module.definitions (m : Module) : List Export :=
  (m.entries.flatMap fun e ↦ e.clauses.map Clause.signature) ++ [m.request.signature]

/-- The function for an operation has the name and the arity of the function that makes the
requests. -/
def IsRequestFunction (transport : Transport) (api : Json) (operation : String × Json) : Prop :=
  Identifier.snakeCase operation.1 = "request" ∧
    (Action.headNames transport api operation.2).length +
      (if Action.takesInput transport operation.2 then 3 else 2) =
        (requestFormals transport).length

instance : DecidablePred (IsRequestFunction transport api) := fun _ ↦
  inferInstanceAs (Decidable (_ ∧ _))

/-- A remote procedure call takes less than the function that makes the requests. -/
theorem not_isRequestFunction_rpc (operation : String × Json) :
    ¬IsRequestFunction .rpc api operation := by
  rintro ⟨-, harity⟩
  have hthree : 3 = 4 := harity
  omega

theorem request_mem_exportsOf_iff :
    ⟨"request", (requestFormals transport).length⟩ ∈ exportsOf transport a ↔
      a.functionName = "request" ∧ a.arity = (requestFormals transport).length := by
  cases transport with
  | rpc => simp [exportsOf, requestFormals, eq_comm]
  | rest => simp [exportsOf, eq_comm]

/-- The function that makes the requests is one of those for an operation exactly when it is that
of an action. -/
theorem exists_request_mem_exportsOf_iff
    (h : Action.compileAll transport .erlang api docs = .ok actions) :
    (∃ a ∈ actions, ⟨"request", (requestFormals transport).length⟩ ∈ exportsOf transport a) ↔
      ∃ operation ∈ (api.part "operations").entries,
        IsRequestFunction transport api operation := by
  constructor
  · rintro ⟨a, ha, hrequest⟩
    obtain ⟨hname, harity⟩ := request_mem_exportsOf_iff.1 hrequest
    obtain ⟨operation, hmem, hcompile⟩ := Action.exists_compile_of_mem h ha
    rw [(Action.names_of_compile hcompile).2] at hname
    exact ⟨(a.name, operation), hmem, hname, (Action.arity_of_compile hcompile).symm.trans harity⟩
  · rintro ⟨operation, hmem, hname, harity⟩
    obtain ⟨a, ha, hcompile⟩ := Action.exists_action_of_mem h hmem
    have hrequest : a.functionName = "request" := (Action.names_of_compile hcompile).2.trans hname
    exact ⟨a, ha, request_mem_exportsOf_iff.2
      ⟨hrequest, (Action.arity_of_compile hcompile).trans harity⟩⟩

/-- The functions for the actions are defined once each. -/
theorem nodup_flatMap_exportsOf
    (h : Action.compileAll transport .erlang api docs = .ok actions) :
    (actions.flatMap (exportsOf transport)).Nodup := by
  rw [List.nodup_flatMap]
  constructor
  · intro a ha
    cases transport with
    | rpc =>
      obtain ⟨operation, -, hcompile⟩ := Action.exists_compile_of_mem h ha
      have harity : a.arity = 3 := Action.arity_of_compile hcompile
      simp [exportsOf, harity]
    | rest => exact List.nodup_singleton _
  · obtain ⟨_, -, _, -, -, hascending⟩ := Action.compileAll_eq_ok_iff.1 h
    refine hascending.imp fun {a b} hlt x hxa hxb ↦ ?_
    exact hlt.ne ((name_of_mem_exportsOf hxa).symm.trans (name_of_mem_exportsOf hxb))

variable {moduleName : String} {endpoints options : Json} {s : Service} {text : String}

/-- A module defines every function once exactly when no operation has a function with the name and
the arity of the one that makes the requests. For remote procedure calls that is always so. -/
theorem defines_once_iff
    (hbuild : Service.build transport moduleName endpoints api docs options .erlang = .ok s)
    (hrender : Client.render ⟨.erlang, transport⟩ s = .ok text) :
    ∃ m, Module.ofService transport s = .ok m ∧ text = m.text ∧
      (m.definitions.Nodup ↔ ∀ operation ∈ (api.part "operations").entries,
        ¬IsRequestFunction transport api operation) ∧
      (transport = .rpc → m.definitions.Nodup) := by
  obtain ⟨_, _, hparts⟩ := Service.exists_isBuilt hbuild
  obtain ⟨m, hm, htext⟩ := bind_eq_ok_iff.1 hrender
  have harity : ∀ a ∈ s.actions,
      (Layout.headOf ⟨.erlang, transport⟩ a).formals.length = a.arity := by
    intro a ha
    obtain ⟨operation, -, hcompile⟩ := Action.exists_compile_of_mem hparts.actions_eq ha
    let layout : Layout := ⟨.erlang, transport⟩
    exact layout.length_formals_headOf hcompile
  obtain ⟨hexports, hclauses⟩ := flatMap_exports_eq (Module.forall₂_isEntryOf hm) harity
  have hrequest : m.request.signature = ⟨"request", (requestFormals transport).length⟩ := by
    rw [Module.request_of_ofService hm]
    rfl
  have hdefinitions : m.definitions = s.actions.flatMap (exportsOf transport) ++
      [⟨"request", (requestFormals transport).length⟩] := by
    rw [Module.definitions, ← hclauses, hexports, hrequest]
  have hiff : m.definitions.Nodup ↔ ∀ operation ∈ (api.part "operations").entries,
      ¬IsRequestFunction transport api operation := by
    have hnodup := nodup_flatMap_exportsOf hparts.actions_eq
    rw [hdefinitions, List.nodup_append_comm, List.singleton_append, List.nodup_cons,
      and_iff_left hnodup, List.mem_flatMap, exists_request_mem_exportsOf_iff hparts.actions_eq]
    simp only [not_exists, not_and]
  refine ⟨m, hm, (Except.ok.inj htext).symm, hiff, ?_⟩
  rintro rfl
  exact hiff.2 fun operation _ ↦ not_isRequestFunction_rpc operation

/-- An API spec with an operation whose function is named `request` and takes some keys, which are
bound to the path. -/
def requestApi (keys : List String) : Json :=
  .obj [
    ("metadata", .obj [("endpointPrefix", .str "items")]),
    ("operations", .obj [("Request", .obj [
      ("http", .obj [
        ("method", .str "POST"),
        ("requestUri", .str (String.join (keys.map fun key ↦ "/\x7b" ++ key ++ "\x7d")))]),
      ("input", .obj [("shape", .str "RequestInput")])])]),
    ("shapes", .obj [("RequestInput", .obj [
      ("members", .obj (keys.map fun key ↦ (key, .obj [("location", .str "uri")])))])])]

/-- With one key the function for the operation has an arity of its own. -/
theorem defines_once_iff_key :
    ∃ s m, Service.build .rest "demo" Service.itemCatalog (requestApi ["A"]) .empty .null .erlang =
        .ok s ∧
      Module.ofService .rest s = .ok m ∧ m.definitions.Nodup := by
  have hbuild : (Service.build .rest "demo" Service.itemCatalog (requestApi ["A"]) .empty .null
      .erlang).toOption.map (fun s ↦ (Client.render ⟨.erlang, .rest⟩ s).toOption.isSome) =
      some true := by
    decide +kernel
  have hoperations : ∀ operation ∈ ((requestApi ["A"]).part "operations").entries,
      ¬IsRequestFunction .rest (requestApi ["A"]) operation := by
    decide +kernel
  obtain ⟨s, hs, hrender⟩ := Option.map_eq_some_iff.1 hbuild
  obtain ⟨text, htext⟩ := Option.isSome_iff_exists.1 hrender
  have hok := toOption_eq_some_iff.1 hs
  obtain ⟨m, hm, -, hiff, -⟩ := defines_once_iff hok (toOption_eq_some_iff.1 htext)
  exact ⟨s, m, hok, hm, hiff.2 hoperations⟩

/-- With four keys, the function for the operation takes as much as the one that makes the
requests, and the module defines both. -/
theorem request_can_be_defined_twice :
    ∃ (s : Service) (m : Module),
      Service.build .rest "demo" Service.itemCatalog (requestApi ["A", "B", "C", "D"]) .empty .null
        .erlang = .ok s ∧
      Client.render ⟨.erlang, .rest⟩ s = .ok m.text ∧
      m.definitions = [⟨"request", 7⟩, ⟨"request", 7⟩] ∧ ¬m.definitions.Nodup := by
  have hbuild : (Service.build .rest "demo" Service.itemCatalog
      (requestApi ["A", "B", "C", "D"]) .empty .null .erlang).toOption.map (fun s ↦
        (Module.ofService .rest s).toOption.map Module.definitions) =
      some (some [⟨"request", 7⟩, ⟨"request", 7⟩]) := by
    decide +kernel
  obtain ⟨s, hs, hmodule⟩ := Option.map_eq_some_iff.1 hbuild
  obtain ⟨m, hm, hdefinitions⟩ := Option.map_eq_some_iff.1 hmodule
  have hof := toOption_eq_some_iff.1 hm
  have hrender : Client.render ⟨.erlang, .rest⟩ s = .ok m.text := by
    simp only [Client.render, hof, ok_bind]
    rfl
  exact ⟨s, m, toOption_eq_some_iff.1 hs, hrender, hdefinitions, by simp [hdefinitions]⟩

end ServiceClient.Erlang
