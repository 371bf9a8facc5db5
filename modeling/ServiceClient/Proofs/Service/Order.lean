import ServiceClient.Client
import ServiceClient.Proofs.Action.Selection
import ServiceClient.Service.Build

/-!
# The order of a spec does not matter

A service is built from documents whose sections are tables, so the order in which their fields were
written is nothing that a service could depend on. Documents that are the same up to that order are
built into the same service, or into none; only which of several errors is reported may differ. The
order of the members of a shape is another matter, since it is that of the arguments.
-/

namespace ServiceClient

variable {api api' docs docs' endpoints endpoints' : Json}

theorem Doc.blockOf_eq_of_reordered {v w : Json} (h : v.Reordered w) (language : Language) :
    blockOf language v = blockOf language w := by
  cases h with
  | refl => rfl
  | @fields fs gs hperm _ =>
    have hgiven : (Json.obj fs).given = (Json.obj gs).given := by
      rw [Json.given, Json.given, hperm.isEmpty_eq]
    show (if !(Json.obj fs).given then _ else _) = if !(Json.obj gs).given then _ else _
    rw [hgiven]

namespace Service

/-- The identity of a service does not depend on the order of the metadata or of the catalog. -/
theorem identify_eq_of_reordered {metadata metadata' : Json}
    (hmetadata : metadata.Reordered metadata')
    (hendpoints : endpoints.SectionsReordered endpoints') :
    identify metadata endpoints = identify metadata' endpoints' := by
  have hsigning : signingNameOf metadata = signingNameOf metadata' := by
    funext endpointPrefix
    rw [signingNameOf, signingNameOf, hmetadata.field_eq]
  rw [identify, identify, hmetadata.field_eq, hsigning]
  congr 1
  funext endpointPrefix
  cases endpointPrefix.given with
  | false => rfl
  | true =>
    simp only [Bool.not_true, Bool.false_eq_true, if_false]
    refine hendpoints.fieldOrEmpty_bind_eq "services" fun v w hreordered ↦ ?_
    rw [hreordered.find_eq]

/-- Documents that are the same up to the order of their sections' fields are built into the same
service, if into any. -/
theorem build_succeedsAlike (hendpoints : endpoints.SectionsReordered endpoints')
    (hapi : api.SectionsReordered api') (hdocs : docs.SectionsReordered docs')
    (transport : Transport) (moduleName : String) (options : Json) (language : Language) :
    SucceedsAlike (build transport moduleName endpoints api docs options language)
      (build transport moduleName endpoints' api' docs' options language) := by
  have hblock : (docs.field "service" >>= Doc.blockOf language) =
      docs'.field "service" >>= Doc.blockOf language := by
    obtain ⟨e, he, he'⟩ | ⟨v, w, hv, hw, hreordered⟩ := hdocs.field_cases "service"
    · rw [he, he']
    · rw [hv, hw, ok_bind, ok_bind, Doc.blockOf_eq_of_reordered hreordered]
  rw [build, build, Spec.metadata, Spec.metadata]
  obtain ⟨e, he, he'⟩ | ⟨metadata, metadata', hv, hw, hmetadata⟩ :=
    hapi.fieldOrEmpty_cases "metadata"
  · rw [he, he']
    exact .refl _
  · rw [hv, hw, ok_bind, ok_bind, identify_eq_of_reordered hmetadata hendpoints]
    refine (SucceedsAlike.refl _).bind fun identity ↦
      (Action.compileAll_succeedsAlike hapi hdocs).bind fun actions ↦ ?_
    simp only [hmetadata.field_eq, ← bind_assoc, hblock]
    exact .refl _

end Service

/-- Documents that are the same up to the order of their sections' fields succeed alike: they are
built into the same service, which is rendered as the same text in every layout. And operations do
not influence each other: what compiles still does with some of the operations, and gives those of
the actions that belong to them, in their order. -/
theorem order_changes_no_service (hendpoints : endpoints.SectionsReordered endpoints')
    (hapi : api.SectionsReordered api') (hdocs : docs.SectionsReordered docs')
    (transport : Transport) (moduleName : String) (options : Json) (language : Language) :
    SucceedsAlike (Service.build transport moduleName endpoints api docs options language)
        (Service.build transport moduleName endpoints' api' docs' options language) ∧
      (∀ layout, SucceedsAlike
        (Service.build transport moduleName endpoints api docs options language >>=
          Client.render layout)
        (Service.build transport moduleName endpoints' api' docs' options language >>=
          Client.render layout)) ∧
      ∀ actions, Action.compileAll transport language api docs = .ok actions →
        ∀ keep : String → Bool,
          Action.compileAll transport language (Spec.keepOperations keep api) docs =
            .ok (actions.filter fun a ↦ keep a.name) := by
  have hbuild := Service.build_succeedsAlike hendpoints hapi hdocs transport moduleName options
    language
  exact ⟨hbuild, fun layout ↦ hbuild.bind fun s ↦ .refl (Client.render layout s),
    fun actions hactions keep ↦ Action.compileAll_keepOperations hactions keep⟩

/-- Two operations in the other order, with the metadata and their documentation. -/
theorem order_changes_no_service_items :
    let get : String × Json := ("GetItem", .empty)
    let put : String × Json := ("PutItem", .empty)
    let named : String × Json := ("endpointPrefix", .str "items")
    let signed : String × Json := ("signingName", .str "item-store")
    let api (metadata operations : Fields) : Json :=
      .obj [("metadata", .obj metadata), ("operations", .obj operations)]
    let docs (operations : Fields) : Json := .obj [("operations", .obj operations)]
    let endpoints : Json := .obj [("services", .obj [("items", .empty)])]
    ∃ s, Service.build .rpc "demo" endpoints (api [named, signed] [put, get]) (docs [put, get])
        .null .elixir = .ok s ∧
      Service.build .rpc "demo" endpoints (api [signed, named] [get, put]) (docs [get, put])
        .null .elixir = .ok s ∧
      Action.compileAll .rpc .elixir
          (Spec.keepOperations (fun name ↦ name = "GetItem") (api [named, signed] [put, get]))
          (docs [put, get]) =
        .ok (s.actions.filter fun a ↦ a.name = "GetItem") := by
  intro get put named signed api docs endpoints
  have hreordered (first second : String × Json) (h : first.1 ≠ second.1) :
      (Json.obj [first, second]).Reordered (.obj [second, first]) :=
    .fields (.swap _ _ _) (List.nodup_cons.2 ⟨by simpa using h, List.nodup_singleton _⟩)
  have hapi : (api [named, signed] [put, get]).SectionsReordered
      (api [signed, named] [get, put]) :=
    .sections (.cons ⟨rfl, hreordered named signed (by decide)⟩
      (.cons ⟨rfl, hreordered put get (by decide)⟩ .nil))
  have hdocs : (docs [put, get]).SectionsReordered (docs [get, put]) :=
    .sections (.cons ⟨rfl, hreordered put get (by decide)⟩ .nil)
  obtain ⟨hbuild, -, hkeep⟩ := order_changes_no_service (.refl endpoints) hapi hdocs .rpc "demo"
    .null .elixir
  obtain ⟨actions, hactions⟩ : ∃ actions, Action.compileAll .rpc .elixir
      (api [named, signed] [put, get]) (docs [put, get]) = .ok actions := by
    refine ⟨_, Action.compileAll_eq.trans (Action.arrange_of_nodup ?_ _)⟩
    decide +kernel
  obtain ⟨s, hs, hsactions⟩ : ∃ s, Service.build .rpc "demo" endpoints
      (api [named, signed] [put, get]) (docs [put, get]) .null .elixir = .ok s ∧
      s.actions = actions := by
    rw [Service.build, hactions]
    exact ⟨_, rfl, rfl⟩
  refine ⟨s, hs, (hbuild s).1 hs, ?_⟩
  rw [hkeep actions hactions, hsactions]

end ServiceClient
