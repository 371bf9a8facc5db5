import ServiceClient.Action.Compile
import ServiceClient.Proofs.Outcome

/-!
# The parts of an action

Where an action that was compiled has its parts from. `IsRestAction` says it for an operation that
describes its own request, with one field for each part of the action; an action for a remote
procedure call has little more than its names.
-/

namespace ServiceClient.Action

variable {transport : Transport} {language : Language} {api docs operation : Json} {name : String}
  {a : Action}

/-- An action has the parts that an operation gives it which describes its own request. -/
structure IsRestAction (language : Language) (api docs : Json) (name : String)
    (operation http : Json) (a : Action) : Prop where
  /-- The description of the request. -/
  http_eq : operation.fieldOrEmpty "http" = .ok http
  /-- The name is that of the operation. -/
  name_eq : a.name = name
  /-- The function is named in snake case. -/
  functionName_eq : a.functionName = Identifier.snakeCase name
  /-- The language is the one that is compiled for. -/
  language_eq : a.language = language
  /-- The method is that of the request. -/
  method_eq : http.field "method" = .ok a.method
  /-- The template of the path is that of the request. -/
  requestUri_eq : http.field "requestUri" = .ok a.requestUri
  /-- The status code of success is that of the request. -/
  successStatusCode_eq : http.field "responseCode" = .ok a.successStatusCode
  /-- The parameters of the path are members of the input. -/
  urlParameters_eq :
    Parameter.ofOperation language api operation "input" .path = .ok a.urlParameters
  /-- The headers that are sent are members of the input. -/
  requestHeaders_eq :
    Parameter.ofOperation language api operation "input" .header = .ok a.requestHeaders
  /-- The headers that are read are members of the output. -/
  responseHeaders_eq :
    Parameter.ofOperation language api operation "output" .header = .ok a.responseHeaders
  /-- The path is compiled from its template and its parameters. -/
  exists_path : ∃ path, compilePath api name a.requestUri a.urlParameters = .ok path ∧
    a.path = some path
  /-- The documentation is the block of the operation's entry. -/
  exists_docstring : ∃ entry, Doc.operationEntry docs name = .ok entry ∧
    Doc.blockOf language entry = .ok a.docstring
  /-- The arity counts the parameters that are arguments. -/
  arity_eq : a.arity =
    if isGet a.method then a.urlParameters.length + 2 + a.requestHeaders.length
    else a.urlParameters.length + 3

/-- A compiled action has its parts from the operation. -/
theorem exists_isRestAction (h : compileRest language api docs name operation = .ok a) :
    ∃ http, IsRestAction language api docs name operation http a := by
  simp only [compileRest, hasNoBody, bind_eq_ok_iff] at h
  obtain ⟨http, hhttp, method, hmethod, requestUri, hrequestUri, urlParameters, hurl,
    requestHeaders, hrequest, responseHeaders, hresponse, path, hpath, noBody, ⟨_, -, hnoBody⟩,
    entry, hentry, docstring, hdocstring, code, hcode, h⟩ := h
  obtain rfl := Except.ok.inj hnoBody
  obtain rfl := Except.ok.inj h
  exact ⟨http, {
    http_eq := hhttp
    name_eq := rfl
    functionName_eq := rfl
    language_eq := rfl
    method_eq := hmethod
    requestUri_eq := hrequestUri
    successStatusCode_eq := hcode
    urlParameters_eq := hurl
    requestHeaders_eq := hrequest
    responseHeaders_eq := hresponse
    exists_path := ⟨path, hpath, rfl⟩
    exists_docstring := ⟨entry, hentry, hdocstring⟩
    arity_eq := rfl }⟩

/-- An action is named as its operation, and its function is named so in snake case. -/
theorem names_of_compile (h : compile transport language api docs name operation = .ok a) :
    a.name = name ∧ a.functionName = Identifier.snakeCase name := by
  cases transport with
  | rpc =>
    simp only [compile, compileRpc, bind_eq_ok_iff] at h
    obtain ⟨_, -, _, -, h⟩ := h
    obtain rfl := Except.ok.inj h
    exact ⟨rfl, rfl⟩
  | rest =>
    obtain ⟨_, hparts⟩ := exists_isRestAction h
    exact ⟨hparts.name_eq, hparts.functionName_eq⟩

end ServiceClient.Action
