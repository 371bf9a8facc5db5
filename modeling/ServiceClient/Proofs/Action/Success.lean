import ServiceClient.Proofs.Action.Arrange
import ServiceClient.Proofs.Action.Compile
import ServiceClient.Proofs.Doc.Entry
import ServiceClient.Proofs.Parameter

/-!
# When operations are compiled

For a typed spec and a readable documentation spec only two things can be wrong with the operations:
the request URI of one, which a remote procedure call does not read, and the function names of two.
The first operation that is not routable decides the error, and only if there is none do the
function names matter.
-/

namespace ServiceClient.Action

/-- The request URI of an operation. -/
def requestUriOf (operation : Json) : Json := (operation.part "http").valueAt "requestUri"

/-- The request URI of an operation is a template, and every placeholder in it is named as a member
of the input that is bound to the path. -/
def IsRoutable (api operation : Json) : Prop :=
  ∃ template names, requestUriOf operation = .str template ∧
    Uri.Grammar names template.toList ∧
    ∀ name ∈ names, ∃ field ∈ Spec.membersOf api operation "input",
      Parameter.isBoundTo .path field.2 = true ∧
        Parameter.locationNameOf field.1 field.2 = .str name

/-- An operation can be compiled: whatever a transport reads of the request is right. -/
def IsCompilable (transport : Transport) (api operation : Json) : Prop :=
  transport = .rest → IsRoutable api operation

/-- What can be wrong with the request URI of an operation. -/
inductive RouteDefect (operation : Json) : SpecError.Defect → Prop
  /-- There is none. -/
  | missing (huri : requestUriOf operation = .null) : RouteDefect operation .noRequestUri
  /-- It is no template, or one with a placeholder that nothing is bound to. -/
  | template {template : String} (huri : requestUriOf operation = .str template)
      (defect : Uri.TemplateDefect) :
      RouteDefect operation (.template defect (Text.quoted template))

theorem RouteDefect.category_eq {operation : Json} {defect : SpecError.Defect}
    (h : RouteDefect operation defect) : defect.category = .malformedUriTemplate := by
  cases h with
  | missing => rfl
  | template => rfl

variable {transport : Transport} {language : Language} {api docs operation : Json}

/-! ### One operation -/

theorem locate_spec {α : Type} {service : Json} (hservice : Spec.endpointPrefix api = .ok service)
    (name : String) (e : SpecError) :
    locate api name (.error (.spec e) : Outcome α) =
      .error (.spec { e with service, operation := .str name }) := by
  rw [locate, hservice]
  rfl

/-- A path is compiled for a routable operation. -/
theorem exists_compilePath (hapi : Spec.IsTyped api) (h : IsRoutable api operation)
    (language : Language) (name : String) :
    ∃ path, compilePath api name (requestUriOf operation)
      (Parameter.boundOf language api operation "input" .path) = .ok path := by
  obtain ⟨template, names, huri, hgrammar, hnames⟩ := h
  obtain ⟨path, hpath⟩ := (Uri.Path.exists_compile_str_iff (Parameter.keyable_boundOf hapi)).2
    ⟨names, hgrammar, fun name hname ↦ Parameter.exists_mem_boundOf_iff.2 (hnames name hname)⟩
  refine ⟨path, ?_⟩
  rw [compilePath, huri]
  show locate api name (Uri.Path.compile (.str template) _) = _
  rw [hpath]
  rfl

/-- The path of an operation that is not routable is refused, and the error says whose it is. -/
theorem compilePath_of_not_isRoutable (hapi : Spec.IsTyped api)
    (htext : (requestUriOf operation).IsText) (h : ¬IsRoutable api operation) {service : Json}
    (hservice : Spec.endpointPrefix api = .ok service) (name : String) :
    ∃ defect, RouteDefect operation defect ∧
      compilePath api name (requestUriOf operation)
        (Parameter.boundOf language api operation "input" .path) =
          .error (.spec { defect, service, operation := .str name }) := by
  obtain hnull | ⟨template, huri⟩ := htext.cases
  · refine ⟨_, .missing hnull, ?_⟩
    rw [compilePath, hnull]
    exact locate_spec hservice name _
  · cases hpath : Uri.Path.compile (.str template)
        (Parameter.boundOf language api operation "input" .path) with
    | ok path =>
      obtain ⟨names, hgrammar, hnames⟩ :=
        (Uri.Path.exists_compile_str_iff (Parameter.keyable_boundOf hapi)).1 ⟨path, hpath⟩
      exact absurd ⟨template, names, huri, hgrammar,
        fun name hname ↦ Parameter.exists_mem_boundOf_iff.1 (hnames name hname)⟩ h
    | error fault =>
      obtain ⟨defect, rfl⟩ :=
        Uri.Path.exists_defect_of_compile_str (Parameter.keyable_boundOf hapi) hpath
      refine ⟨_, .template huri defect, ?_⟩
      rw [compilePath, huri]
      show locate api name (Uri.Path.compile (.str template) _) = _
      rw [hpath]
      exact locate_spec hservice name _

/-- The action for an operation of a typed spec, given its block and its path. -/
def routed (language : Language) (api operation : Json) (name docstring : String)
    (path : Uri.Path) : Action :=
  let http := operation.part "http"
  let urlParameters := Parameter.boundOf language api operation "input" .path
  let requestHeaders := Parameter.boundOf language api operation "input" .header
  { arity :=
      if isGet (http.valueAt "method") then urlParameters.length + 2 + requestHeaders.length
      else urlParameters.length + 3
    docstring
    functionName := Identifier.snakeCase name
    name
    method := http.valueAt "method"
    requestUri := requestUriOf operation
    successStatusCode := http.valueAt "responseCode"
    urlParameters
    requestHeaders
    responseHeaders := Parameter.boundOf language api operation "output" .header
    path := some path
    language }

theorem hasNoBody_eq {method : Json} (h : method.IsText) :
    hasNoBody method = .ok (isGet method) := by
  obtain ⟨key, hkey⟩ := h.exists_key
  rw [hasNoBody, hkey]
  rfl

/-- Beside its path, nothing about an operation can fail. -/
theorem exists_compileRest_eq_map (hapi : Spec.IsTyped api)
    (hoperation : Spec.IsTypedOperation operation) (hdocs : Doc.IsReadableSpec docs)
    (language : Language) (name : String) :
    ∃ docstring, compileRest language api docs name operation =
      (compilePath api name (requestUriOf operation)
        (Parameter.boundOf language api operation "input" .path)).map
          (routed language api operation name docstring) := by
  obtain ⟨entry, docstring, hentry, hblock⟩ := hdocs.exists_operationBlock language name
  have hinput (kind : LocationKind) : Parameter.ofOperation language api operation "input" kind =
      .ok (Parameter.boundOf language api operation "input" kind) :=
    Parameter.ofOperation_eq (hapi.hasTypedMembers hoperation.isObj hoperation.input)
  have houtput : Parameter.ofOperation language api operation "output" .header =
      .ok (Parameter.boundOf language api operation "output" .header) :=
    Parameter.ofOperation_eq (hapi.hasTypedMembers hoperation.isObj hoperation.output)
  refine ⟨docstring, ?_⟩
  rw [compileRest, hoperation.isObj.fieldOrEmpty_eq, ok_bind, hoperation.http_isObj.field_eq,
    ok_bind, hoperation.http_isObj.field_eq, ok_bind, hinput, ok_bind, hinput, ok_bind,
    houtput, ok_bind, hasNoBody_eq hoperation.method, hentry, hoperation.http_isObj.field_eq]
  show (compilePath api name (requestUriOf operation) _ >>= _) = _
  cases compilePath api name (requestUriOf operation)
      (Parameter.boundOf language api operation "input" .path) with
  | error fault => rfl
  | ok path =>
    simp only [ok_bind, hblock, except_map_ok]
    cases hget : isGet ((operation.part "http").valueAt "method") with
    | true =>
      simp only [routed, hget]
      rfl
    | false =>
      simp only [routed, hget]
      rfl

/-- A compilable operation is compiled, and the name of its function is its name in snake case. -/
theorem exists_compile (hapi : Spec.IsTyped api) (hoperation : Spec.IsTypedOperation operation)
    (hdocs : Doc.IsReadableSpec docs) (h : IsCompilable transport api operation)
    (language : Language) (name : String) :
    ∃ action, compile transport language api docs name operation = .ok action ∧
      action.name = name ∧ action.functionName = Identifier.snakeCase name := by
  cases transport with
  | rpc =>
    obtain ⟨entry, docstring, hentry, hblock⟩ := hdocs.exists_operationBlock language name
    refine ⟨{
      arity := rpcArity
      docstring
      functionName := Identifier.snakeCase name
      name, language }, ?_, rfl, rfl⟩
    rw [compile, compileRpc, hentry, ok_bind, hblock]
    rfl
  | rest =>
    obtain ⟨docstring, hcompile⟩ := exists_compileRest_eq_map hapi hoperation hdocs language name
    obtain ⟨path, hpath⟩ := exists_compilePath hapi (h rfl) language name
    refine ⟨routed language api operation name docstring path, ?_, rfl, rfl⟩
    rw [compile, hcompile, hpath]
    rfl

/-- An operation that is not compilable is refused for its request URI. -/
theorem compile_of_not_isCompilable (hapi : Spec.IsTyped api)
    (hoperation : Spec.IsTypedOperation operation) (hdocs : Doc.IsReadableSpec docs)
    (h : ¬IsCompilable transport api operation) {service : Json}
    (hservice : Spec.endpointPrefix api = .ok service) (language : Language) (name : String) :
    ∃ defect, RouteDefect operation defect ∧
      compile transport language api docs name operation =
        .error (.spec { defect, service, operation := .str name }) := by
  obtain ⟨rfl, hroutable⟩ := Classical.not_imp.1 h
  obtain ⟨docstring, hcompile⟩ := exists_compileRest_eq_map hapi hoperation hdocs language name
  obtain ⟨defect, hdefect, hpath⟩ :=
    compilePath_of_not_isRoutable hapi hoperation.requestUri hroutable hservice name
  refine ⟨defect, hdefect, ?_⟩
  rw [compile, hcompile, hpath]
  rfl

/-! ### All operations -/

/-- The names of the operations of a spec, in order. -/
def operationNames (api : Json) : List String := (api.part "operations").entries.map Prod.fst

/-- All operations of a spec are compilable. -/
def AllCompilable (transport : Transport) (api : Json) : Prop :=
  ∀ field ∈ (api.part "operations").entries, IsCompilable transport api field.2

/-- No two operations of a spec have the same function name. -/
def DistinctNames (api : Json) : Prop := ((operationNames api).map Identifier.snakeCase).Nodup

/-- The operations of a typed spec are compiled in their order. -/
theorem compileAll_eq_of_isTyped (hapi : Spec.IsTyped api) :
    compileAll transport language api docs = (do
      let actions ← (api.part "operations").entries.mapM fun operation ↦
        compile transport language api docs operation.1 operation.2
      arrange api actions) := by
  rw [compileAll_eq, Spec.operations, hapi.isObj.fieldOrEmpty_eq, ok_bind,
    hapi.operations_isObj.fields_eq, ok_bind]

/-- Compilable operations are compiled, and each function is named as its operation. -/
theorem exists_mapM_compile (hapi : Spec.IsTyped api) (hdocs : Doc.IsReadableSpec docs)
    (h : AllCompilable transport api) (language : Language) :
    ∃ actions, ((api.part "operations").entries.mapM fun operation ↦
        compile transport language api docs operation.1 operation.2) = .ok actions ∧
      actions.map Action.name = operationNames api ∧
      ∀ action ∈ actions, action.functionName = Identifier.snakeCase action.name := by
  have hall : ∀ field ∈ (api.part "operations").entries, ∃ action,
      compile transport language api docs field.1 field.2 = .ok action ∧
        action.name = field.1 ∧ action.functionName = Identifier.snakeCase field.1 :=
    fun field hfield ↦
      exists_compile hapi (hapi.operations field hfield) hdocs (h field hfield) language field.1
  rw [operationNames]
  generalize (api.part "operations").entries = fields at hall
  induction fields with
  | nil => exact ⟨[], rfl, rfl, by simp⟩
  | cons field fields ih =>
    obtain ⟨action, hcompile, hname, hfunction⟩ := hall field List.mem_cons_self
    obtain ⟨actions, hactions, hnames, hfunctions⟩ :=
      ih fun field' hfield ↦ hall field' (List.mem_cons_of_mem field hfield)
    refine ⟨action :: actions, ?_, ?_, ?_⟩
    · rw [List.mapM_cons, hcompile, ok_bind, hactions]
      rfl
    · rw [List.map_cons, List.map_cons, hname, hnames]
    · exact List.forall_mem_cons.2 ⟨by rw [hfunction, hname], hfunctions⟩

/-- Actions that are named as their operations have different names when these have. -/
theorem nodup_functionName_iff {actions : List Action}
    (hnames : actions.map Action.name = operationNames api)
    (hfunctions : ∀ action ∈ actions, action.functionName = Identifier.snakeCase action.name) :
    (actions.map functionName).Nodup ↔ DistinctNames api := by
  rw [DistinctNames, ← hnames, List.map_map, List.map_congr_left hfunctions]
  rfl

/-- The operations of a spec are compiled if each is and their function names differ. -/
theorem exists_compileAll (hapi : Spec.IsTyped api) (hdocs : Doc.IsReadableSpec docs)
    (hcompilable : AllCompilable transport api) (hdistinct : DistinctNames api)
    (language : Language) :
    ∃ actions, compileAll transport language api docs = .ok actions := by
  obtain ⟨actions, hactions, hnames, hfunctions⟩ :=
    exists_mapM_compile hapi hdocs hcompilable language
  have hnodup := (nodup_functionName_iff hnames hfunctions).2 hdistinct
  refine ⟨sortByFunctionName actions, ?_⟩
  rw [compileAll_eq_of_isTyped hapi, hactions, ok_bind, arrange_of_nodup hnodup]

/-- Two operations with one function name are refused, once all operations are compiled. -/
theorem compileAll_of_not_distinctNames (hapi : Spec.IsTyped api) (hdocs : Doc.IsReadableSpec docs)
    (hcompilable : AllCompilable transport api) (hdistinct : ¬DistinctNames api) {service : Json}
    (hservice : Spec.endpointPrefix api = .ok service) (language : Language) :
    ∃ first second, [first, second].Subperm (operationNames api) ∧
      Identifier.snakeCase first = Identifier.snakeCase second ∧
      compileAll transport language api docs = .error (.spec {
        defect := .sharedFunctionName first second (Identifier.snakeCase second)
        service
        operation := .str second }) := by
  obtain ⟨actions, hactions, hnames, hfunctions⟩ :=
    exists_mapM_compile hapi hdocs hcompilable language
  have hnodup : ¬(actions.map functionName).Nodup := by
    rwa [nodup_functionName_iff hnames hfunctions]
  obtain ⟨a, b, hsubperm, hshared, harrange⟩ := arrange_of_not_nodup hnodup hservice
  have ha := hfunctions a (hsubperm.subset (by simp))
  have hb := hfunctions b (hsubperm.subset (by simp))
  obtain ⟨pair, hperm, hsublist⟩ := hsubperm
  refine ⟨a.name, b.name, ⟨pair.map Action.name, hperm.map Action.name, ?_⟩, ?_, ?_⟩
  · rw [← hnames]
    exact hsublist.map Action.name
  · rw [← ha, ← hb, hshared]
  · rw [compileAll_eq_of_isTyped hapi, hactions, ok_bind, harrange, hb]

/-- The first operation that is not compilable is refused. -/
theorem compileAll_of_not_allCompilable (hapi : Spec.IsTyped api) (hdocs : Doc.IsReadableSpec docs)
    (h : ¬AllCompilable transport api) {service : Json}
    (hservice : Spec.endpointPrefix api = .ok service) (language : Language) :
    ∃ before name operation after defect,
      (api.part "operations").entries = before ++ (name, operation) :: after ∧
      (∀ field ∈ before, IsCompilable transport api field.2) ∧
      ¬IsCompilable transport api operation ∧ RouteDefect operation defect ∧
      compileAll transport language api docs =
        .error (.spec { defect, service, operation := .str name }) := by
  obtain ⟨before, ⟨name, operation⟩, after, heq, hbefore, hnot⟩ := exists_first_not h
  have htyped := hapi.operations
  rw [heq] at htyped
  obtain ⟨defect, hdefect, hcompile⟩ := compile_of_not_isCompilable hapi
    (htyped (name, operation) (by simp)) hdocs hnot hservice language name
  refine ⟨before, name, operation, after, defect, heq, hbefore, hnot, hdefect, ?_⟩
  have hfail : (before ++ (name, operation) :: after).mapM (fun operation ↦
      compile transport language api docs operation.1 operation.2) =
        .error (.spec { defect, service, operation := .str name }) := by
    refine mapM_eq_error (fun field hfield ↦ ?_) hcompile
    obtain ⟨action, haction, -⟩ := exists_compile hapi
      (htyped field (List.mem_append_left _ hfield)) hdocs (hbefore field hfield) language field.1
    exact ⟨action, haction⟩
  rw [compileAll_eq_of_isTyped hapi, heq, hfail, error_bind]

end ServiceClient.Action
