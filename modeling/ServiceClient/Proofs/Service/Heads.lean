import ServiceClient.Proofs.Action.Selection
import ServiceClient.Proofs.Identifier.Clash
import ServiceClient.Proofs.Parameter
import ServiceClient.Proofs.Service.Parts

/-!
# The arguments in function heads

The head of a function for a REST operation has an argument for each member of the input that is
bound to the path, and for GET also for each that is sent as a header. Every member is named on its
own, and nothing compares the names: an argument stands twice in a head exactly when two of the
members clash, and such a service is built like any other.

Where that happens the head is not refused by either language. It is a pattern, which then asks for
the two arguments to be equal.
-/

namespace ServiceClient

variable {language : Language} {api docs operation : Json} {name : String} {a : Action}

namespace Action

/-- The members of the input that are arguments of the function for an operation. -/
def headMembers (api operation : Json) : Fields :=
  let members := Spec.membersOf api operation "input"
  members.filter (Parameter.isBoundTo .path ·.2) ++
    if isGet ((operation.part "http").valueAt "method") then
      members.filter (Parameter.isBoundTo .header ·.2)
    else []

/-- The arguments of a function are the parameters for the members in its head. -/
theorem arguments_of_compileRest (h : compileRest language api docs name operation = .ok a) :
    a.arguments = (headMembers api operation).map (Parameter.ofField language) := by
  obtain ⟨http, hparts⟩ := exists_isRestAction h
  obtain rfl := Json.eq_part_of_fieldOrEmpty hparts.http_eq
  have hget : a.isBodyless = isGet ((operation.part "http").valueAt "method") := by
    rw [isBodyless, Json.eq_valueAt_of_field hparts.method_eq]
  rw [arguments, hget, Parameter.eq_boundOf_of_ofOperation hparts.urlParameters_eq,
    Parameter.eq_boundOf_of_ofOperation hparts.requestHeaders_eq, headMembers, List.map_append]
  split <;> rfl

/-- A head has no argument twice exactly when no two of its members clash. -/
theorem nodup_codeName_iff (h : compileRest language api docs name operation = .ok a) :
    (a.arguments.map Parameter.codeName).Nodup ↔
      (Fields.names (headMembers api operation)).Pairwise fun x y ↦
        ¬Identifier.Clash language x y := by
  rw [arguments_of_compileRest h, List.map_map, Fields.names, List.Nodup, List.pairwise_map,
    List.pairwise_map]
  simp only [Function.comp_apply, Parameter.ofField, ne_eq, Identifier.ofName_eq_ofName_iff]

end Action

namespace Service

variable {moduleName : String} {endpoints options : Json} {s : Service}

/-- The head of a function binds no name twice exactly when no two of the members in it clash. -/
theorem head_binds_once_iff
    (h : build .rest moduleName endpoints api docs options language = .ok s) :
    ∀ a ∈ s.actions, ∃ operation, (a.name, operation) ∈ (api.part "operations").entries ∧
      ((a.arguments.map Parameter.codeName).Nodup ↔
        (Fields.names (Action.headMembers api operation)).Pairwise fun x y ↦
          ¬Identifier.Clash language x y) := by
  intro a ha
  obtain ⟨_, _, hparts⟩ := exists_isBuilt h
  obtain ⟨operation, hmem, hcompile⟩ := Action.exists_compile_of_mem hparts.actions_eq ha
  exact ⟨operation, hmem, Action.nodup_codeName_iff hcompile⟩

/-- An operation that gets an item. -/
def itemOperation (requestUri : String) : Json :=
  .obj [
    ("http", .obj [("method", .str "GET"), ("requestUri", .str requestUri)]),
    ("input", .obj [("shape", .str "GetItemRequest")])]

/-- An API spec with one operation, which gets an item by some members. -/
def itemApi (requestUri : String) (members : Fields) : Json :=
  .obj [
    ("metadata", .obj [("endpointPrefix", .str "items")]),
    ("operations", .obj [("GetItem", itemOperation requestUri)]),
    ("shapes", .obj [("GetItemRequest", .obj [("members", .obj members)])])]

/-- A catalog with the service of such a spec. -/
def itemCatalog : Json := .obj [("services", .obj [("items", .empty)])]

/-- A key in the path and a version in a header do not clash. -/
theorem head_binds_once_iff_key :
    let api := itemApi "/\x7bKey\x7d" [
      ("Key", .obj [("location", .str "uri")]),
      ("VersionId", .obj [("location", .str "header")])]
    ∃ s, build .rest "demo" itemCatalog api .empty .null .elixir = .ok s ∧
      ∀ a ∈ s.actions, (a.arguments.map Parameter.codeName).Nodup := by
  intro api
  have hnames : Fields.names (Action.headMembers api (itemOperation "/\x7bKey\x7d")) =
      ["Key", "VersionId"] := by decide +kernel
  have hclash : ["Key", "VersionId"].Pairwise fun x y ↦ ¬Identifier.Clash .elixir x y := by
    decide +kernel
  have hbuild : (build .rest "demo" itemCatalog api .empty .null .elixir).toOption.isSome := by
    decide +kernel
  obtain ⟨s, hfound⟩ := Option.isSome_iff_exists.1 hbuild
  have hs := toOption_eq_some_iff.1 hfound
  refine ⟨s, hs, fun a ha ↦ ?_⟩
  obtain ⟨operation, hmem, hiff⟩ := head_binds_once_iff hs a ha
  obtain rfl : operation = itemOperation "/\x7bKey\x7d" :=
    (Prod.mk.inj (List.mem_singleton.1 hmem)).2
  exact hiff.2 (hnames ▸ hclash)

/-- A member named as the client is kept apart from it by a suffix, and then meets a member that
has this name by itself. -/
theorem head_can_bind_twice :
    let api := itemApi "/\x7bClient\x7d" [
      ("Client", .obj [("location", .str "uri")]),
      ("ClientParam", .obj [("location", .str "header")])]
    (∃ s, build .rest "demo" itemCatalog api .empty .null .elixir = .ok s ∧
      ∃ a ∈ s.actions, ¬(a.arguments.map Parameter.codeName).Nodup) ∧
    ∃ s, build .rest "demo" itemCatalog api .empty .null .erlang = .ok s ∧
      ∃ a ∈ s.actions, ¬(a.arguments.map Parameter.codeName).Nodup := by
  intro api
  have hrepeats (language : Language) (name : String)
      (h : (build .rest "demo" itemCatalog api .empty .null language).toOption.map
        (fun s ↦ s.actions.map fun a ↦ a.arguments.map Parameter.codeName) =
          some [[name, name]]) :
      ∃ s, build .rest "demo" itemCatalog api .empty .null language = .ok s ∧
        ∃ a ∈ s.actions, ¬(a.arguments.map Parameter.codeName).Nodup := by
    obtain ⟨s, hs, hnames⟩ := Option.map_eq_some_iff.1 h
    obtain ⟨a, ha, heq⟩ := List.mem_map.1 (hnames ▸ List.mem_singleton_self [name, name])
    exact ⟨s, toOption_eq_some_iff.1 hs, a, ha, by simp [heq]⟩
  exact ⟨hrepeats .elixir "client_param" (by decide +kernel),
    hrepeats .erlang "ClientParam" (by decide +kernel)⟩

end Service

end ServiceClient
