import ServiceClient.Proofs.Action.Arrange
import ServiceClient.Proofs.Action.Compile
import ServiceClient.Proofs.Uri.Neutral
import ServiceClient.Service.Build

/-!
# One API in every language

The clients of a service in two languages offer the same. The language goes into the identifiers of
the parameters, into the documentation blocks and into the path, and nothing that is decided on the
way looks at any of these: a neutral action or service, which forgets them, is the same whatever the
language was, and so is the error if there is one.

Two runs are followed side by side. Each step gives results that agree up to what is forgotten, and
the next step cannot tell such results apart.
-/

namespace ServiceClient

variable (l₁ l₂ : Language)

/-! ### What is forgotten -/

/-- An action without its language, its documentation and its identifiers. -/
def Action.neutral (a : Action) : Action :=
  { a with
    docstring := ""
    urlParameters := a.urlParameters.map Parameter.unnamed
    requestHeaders := a.requestHeaders.map Parameter.unnamed
    responseHeaders := a.responseHeaders.map Parameter.unnamed
    path := a.path.map Uri.Path.unbound
    language := .elixir }

/-- A service without its language, its documentation and the identifiers of its actions. -/
def Service.neutral (s : Service) : Service :=
  { s with
    docstring := ""
    actions := s.actions.map Action.neutral
    language := .elixir }

/-- Whether there is a documentation block does not depend on the language. -/
theorem Doc.blockOf_neutral (entry : Json) :
    (blockOf l₁ entry).map (fun _ ↦ ()) = (blockOf l₂ entry).map fun _ ↦ () := by
  cases entry with
  | str markup =>
    simp only [blockOf, block]
    split
    · rfl
    · cases Markup.plainChars markup.toList <;> rfl
  | _ => rfl

/-! ### Parameters -/

namespace Parameter

theorem ofMember_neutral (name : String) (member : Json) :
    (ofMember l₁ (.str name) member).map unnamed = (ofMember l₂ (.str name) member).map unnamed :=
  map_bind_congr_right (member.field "locationName") fun _ ↦ rfl

theorem ofBound?_neutral (kind : LocationKind) (name : String) (member : Json) :
    (ofBound? l₁ kind (.str name) member).map (Option.map unnamed) =
      (ofBound? l₂ kind (.str name) member).map (Option.map unnamed) := by
  refine map_bind_congr_right (isBound kind member) fun bound ↦ ?_
  cases bound with
  | false => rfl
  | true =>
    refine map_bind_congr (ofMember_neutral l₁ l₂ name member) fun p q hpq ↦ ?_
    exact congrArg (fun p ↦ Except.ok (some p)) hpq

theorem map_filterMap_id {α β : Type} (f : α → β) (found : List (Option α)) :
    (found.filterMap id).map f = (found.map (Option.map f)).filterMap id := by
  rw [List.map_filterMap, List.filterMap_map]
  rfl

theorem ofMembers_neutral (kind : LocationKind) (members : Fields) :
    (ofMembers l₁ kind members).map (List.map unnamed) =
      (ofMembers l₂ kind members).map (List.map unnamed) := by
  have hmembers := map_mapM_congr (q := Option.map unnamed)
    (fun m : String × Json ↦ ofBound?_neutral l₁ l₂ kind m.1 m.2) members
  refine map_bind_congr hmembers fun found found' hfound ↦ ?_
  rw [pure_eq_ok, pure_eq_ok, except_map_ok, except_map_ok, map_filterMap_id, map_filterMap_id,
    hfound]

theorem ofOperation_neutral (api operation : Json) (direction : String) (kind : LocationKind) :
    (ofOperation l₁ api operation direction kind).map (List.map unnamed) =
      (ofOperation l₂ api operation direction kind).map (List.map unnamed) :=
  map_bind_congr_right _ fun shape ↦ map_bind_congr_right (Spec.members shape) fun members ↦
    ofMembers_neutral l₁ l₂ kind members

end Parameter

/-! ### Actions -/

namespace Action

theorem locate_map {α β : Type} (f : α → β) (api : Json) (name : String) (outcome : Outcome α) :
    (locate api name outcome).map f = locate api name (outcome.map f) := by
  cases outcome with
  | ok a => rfl
  | error fault =>
    cases fault with
    | spec e =>
      show (Spec.endpointPrefix api >>= _).map f = Spec.endpointPrefix api >>= _
      rw [map_bind]
      rfl
    | _ => rfl

/-- A path is compiled alike with parameters that agree up to their identifiers. -/
theorem compilePath_neutral (api : Json) (name : String) (requestUri : Json)
    {ps qs : List Parameter} (h : ps.map Parameter.unnamed = qs.map Parameter.unnamed) :
    (compilePath api name requestUri ps).map Uri.Path.unbound =
      (compilePath api name requestUri qs).map Uri.Path.unbound := by
  rw [compilePath, compilePath, locate_map, locate_map]
  split
  · rfl
  · rw [← Uri.Path.compile_unnamed, h, Uri.Path.compile_unnamed]

theorem compileRpc_neutral (docs : Json) (name : String) :
    (compileRpc l₁ docs name).map neutral = (compileRpc l₂ docs name).map neutral :=
  map_bind_congr_right (Doc.operationEntry docs name) fun entry ↦
    map_bind_congr (Doc.blockOf_neutral l₁ l₂ entry) fun _ _ _ ↦ rfl

theorem compileRest_neutral (api docs : Json) (name : String) (operation : Json) :
    (compileRest l₁ api docs name operation).map neutral =
      (compileRest l₂ api docs name operation).map neutral := by
  refine map_bind_congr_right (operation.fieldOrEmpty "http") fun http ↦ ?_
  refine map_bind_congr_right (http.field "method") fun method ↦ ?_
  refine map_bind_congr_right (http.field "requestUri") fun requestUri ↦ ?_
  refine map_bind_congr (Parameter.ofOperation_neutral l₁ l₂ api operation "input" .path)
    fun url url' hurl ↦ ?_
  refine map_bind_congr (Parameter.ofOperation_neutral l₁ l₂ api operation "input" .header)
    fun request request' hrequest ↦ ?_
  refine map_bind_congr (Parameter.ofOperation_neutral l₁ l₂ api operation "output" .header)
    fun response response' hresponse ↦ ?_
  refine map_bind_congr (compilePath_neutral api name requestUri hurl) fun path path' hpath ↦ ?_
  refine map_bind_congr_right (hasNoBody method) fun noBody ↦ ?_
  refine map_bind_congr_right (Doc.operationEntry docs name) fun entry ↦ ?_
  refine map_bind_congr (Doc.blockOf_neutral l₁ l₂ entry) fun _ _ _ ↦ ?_
  refine map_bind_congr_right (http.field "responseCode") fun code ↦ ?_
  -- the arity is a matter of how many parameters there are
  have hurlLength : url.length = url'.length := by simpa using congrArg List.length hurl
  have hrequestLength : request.length = request'.length := by
    simpa using congrArg List.length hrequest
  simp only [pure_eq_ok, except_map_ok, neutral, hurl, hrequest, hresponse, hpath, hurlLength,
    hrequestLength, Option.map_some]

/-- An operation is compiled alike in every language, up to what depends on the language. -/
theorem compile_neutral (transport : Transport) (api docs : Json) (name : String)
    (operation : Json) :
    (compile transport l₁ api docs name operation).map neutral =
      (compile transport l₂ api docs name operation).map neutral := by
  cases transport with
  | rpc => exact compileRpc_neutral l₁ l₂ docs name
  | rest => exact compileRest_neutral l₁ l₂ api docs name operation

/-- Actions that agree up to what depends on the language are arranged alike. -/
theorem arrange_neutral (api : Json) {actions actions' : List Action}
    (h : actions.map neutral = actions'.map neutral) :
    (arrange api actions).map (List.map neutral) =
      (arrange api actions').map (List.map neutral) := by
  rw [← arrange_map neutral (fun _ ↦ rfl) (fun _ ↦ rfl), h,
    arrange_map neutral (fun _ ↦ rfl) fun _ ↦ rfl]

theorem compileAll_neutral (transport : Transport) (api docs : Json) :
    (compileAll transport l₁ api docs).map (List.map neutral) =
      (compileAll transport l₂ api docs).map (List.map neutral) := by
  rw [compileAll_eq, compileAll_eq]
  refine map_bind_congr_right (Spec.operations api) fun operations ↦ ?_
  refine map_bind_congr_right operations.fields fun fields ↦ ?_
  have hfields := map_mapM_congr (q := neutral) (fun operation : String × Json ↦
    compile_neutral l₁ l₂ transport api docs operation.1 operation.2) fields
  exact map_bind_congr hfields fun _ _ hactions ↦ arrange_neutral api hactions

end Action

/-! ### Services -/

/-- Whatever the language, the same API is exposed: two builds that differ in nothing else fail with
the same error, or give services that agree on everything but the language, the documentation and
the identifiers that stand for members. -/
theorem languages_expose_one_api (transport : Transport) (moduleName : String)
    (endpoints api docs options : Json) :
    (Service.build transport moduleName endpoints api docs options l₁).map Service.neutral =
      (Service.build transport moduleName endpoints api docs options l₂).map Service.neutral := by
  refine map_bind_congr_right (Spec.metadata api) fun metadata ↦ ?_
  refine map_bind_congr_right (Service.identify metadata endpoints) fun identity ↦ ?_
  refine map_bind_congr (Action.compileAll_neutral l₁ l₂ transport api docs)
    fun actions actions' hactions ↦ ?_
  refine map_bind_congr_right (metadata.field "protocol") fun protocol ↦ ?_
  refine map_bind_congr_right (metadata.field "serviceAbbreviation") fun abbreviation ↦ ?_
  refine map_bind_congr_right (metadata.field "apiVersion") fun apiVersion ↦ ?_
  refine map_bind_congr_right (docs.field "service") fun entry ↦ ?_
  refine map_bind_congr (Doc.blockOf_neutral l₁ l₂ entry) fun _ _ _ ↦ ?_
  refine map_bind_congr_right (metadata.field "jsonVersion") fun jsonVersion ↦ ?_
  refine map_bind_congr_right (metadata.field "targetPrefix") fun targetPrefix ↦ ?_
  refine map_bind_congr_right (Options.ofJson options) fun table ↦ ?_
  simp only [pure_eq_ok, except_map_ok, Service.neutral, hactions]

end ServiceClient
