import ServiceClient.Action

/-!
# Compiling operations

An API spec and a documentation spec are compiled into the actions of the client, one for each
operation, in the order of their function names. The operations are compiled in the order in which
they were written, and the first one that fails decides the fault; only then are two operations with
the same function name a defect.

`compileInOrder` keeps the actions that were compiled before a failure, since progress is reported
as it is made.
-/

namespace ServiceClient.Action

/-- The arity of every function for a remote procedure call, which takes the client, the input and
the options. -/
def rpcArity : Nat := 3

/-- The action for a remote procedure call, which only the name and the documentation decide. -/
def compileRpc (language : Language) (docs : Json) (name : String) : Outcome Action := do
  return {
    arity := rpcArity
    docstring := ← Doc.blockOf language (← Doc.operationEntry docs name)
    functionName := Identifier.snakeCase name
    name, language }

/-- Puts the service and the operation into a spec error. -/
def locate {α : Type} (api : Json) (name : String) : Outcome α → Outcome α
  | .error (.spec e) => do
    throw (.spec { e with service := ← Spec.endpointPrefix api, operation := .str name })
  | outcome => outcome

/-- The path of an operation. -/
def compilePath (api : Json) (name : String) (requestUri : Json) (parameters : List Parameter) :
    Outcome Uri.Path :=
  locate api name <|
    if requestUri.isNull then throw (.spec { defect := .noRequestUri })
    else Uri.Path.compile requestUri parameters

/-- Whether requests with a method have no body. The method must be fit to be looked up. -/
def hasNoBody (method : Json) : Outcome Bool := do
  let _ ← method.key?
  return isGet method

/-- The action for an operation that describes its own request. -/
def compileRest (language : Language) (api docs : Json) (name : String) (operation : Json) :
    Outcome Action := do
  let http ← operation.fieldOrEmpty "http"
  let method ← http.field "method"
  let requestUri ← http.field "requestUri"
  let urlParameters ← Parameter.ofOperation language api operation "input" .path
  let requestHeaders ← Parameter.ofOperation language api operation "input" .header
  let responseHeaders ← Parameter.ofOperation language api operation "output" .header
  let path ← compilePath api name requestUri urlParameters
  let arity :=
    if ← hasNoBody method then urlParameters.length + 2 + requestHeaders.length
    else urlParameters.length + 3
  return {
    arity
    docstring := ← Doc.blockOf language (← Doc.operationEntry docs name)
    functionName := Identifier.snakeCase name
    name, method, requestUri
    successStatusCode := ← http.field "responseCode"
    urlParameters, requestHeaders, responseHeaders
    path := some path
    language }

/-- The action for an operation. -/
def compile (transport : Transport) (language : Language) (api docs : Json) (name : String)
    (operation : Json) : Outcome Action :=
  match transport with
  | .rpc => compileRpc language docs name
  | .rest => compileRest language api docs name operation

/-- The actions for some operations in their order, up to the first that fails, and its fault. -/
def compileInOrder (transport : Transport) (language : Language) (api docs : Json) :
    Fields → List Action × Option Fault
  | [] => ([], none)
  | (name, operation) :: rest =>
    match compile transport language api docs name operation with
    | .ok action =>
      let (actions, fault?) := compileInOrder transport language api docs rest
      (action :: actions, fault?)
    | .error fault => ([], some fault)

/-- Actions in the order of their function names. Those with one name keep their order. -/
def sortByFunctionName (actions : List Action) : List Action :=
  actions.mergeSort fun a b ↦ decide (a.functionName ≤ b.functionName)

/-- The first two neighbours with one function name. -/
def firstShared? : List Action → Option (Action × Action)
  | a :: b :: rest =>
    if a.functionName = b.functionName then some (a, b) else firstShared? (b :: rest)
  | _ => none

/-- Actions in the order of their function names, which have to differ. -/
def arrange (api : Json) (actions : List Action) : Outcome (List Action) := do
  let sorted := sortByFunctionName actions
  match firstShared? sorted with
  | none => return sorted
  | some (a, b) =>
    throw (.spec {
      defect := .sharedFunctionName a.name b.name b.functionName
      service := ← Spec.endpointPrefix api
      operation := .str b.name })

/-- The actions for the operations of a spec. -/
def compileAll (transport : Transport) (language : Language) (api docs : Json) :
    Outcome (List Action) := do
  let operations ← (← Spec.operations api).fields
  match compileInOrder transport language api docs operations with
  | (actions, none) => arrange api actions
  | (_, some fault) => throw fault

end ServiceClient.Action
