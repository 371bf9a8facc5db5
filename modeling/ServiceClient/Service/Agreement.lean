import ServiceClient.Service

/-!
# Agreement of services

Two services agree when they say the same about the API and its client. What they take over from
documents is compared by what it means, all else has to be equal.
-/

namespace ServiceClient

/-- Whether two parameters agree. -/
def Parameter.agrees (a b : Parameter) : Bool :=
  a.codeName == b.codeName && a.name == b.name && a.locationName.agrees b.locationName

/-- Whether lists agree item by item. -/
def listsAgreeBy {α : Type} (agree : α → α → Bool) : List α → List α → Bool
  | [], [] => true
  | a :: as, b :: bs => agree a b && listsAgreeBy agree as bs
  | _, _ => false

/-- Whether two actions agree. -/
def Action.agrees (a b : Action) : Bool :=
  a.arity == b.arity && a.docstring == b.docstring && a.functionName == b.functionName &&
    a.name == b.name && a.method.agrees b.method && a.requestUri.agrees b.requestUri &&
    a.successStatusCode.agrees b.successStatusCode &&
    listsAgreeBy Parameter.agrees a.urlParameters b.urlParameters &&
    listsAgreeBy Parameter.agrees a.requestHeaders b.requestHeaders &&
    listsAgreeBy Parameter.agrees a.responseHeaders b.responseHeaders &&
    decide (a.path = b.path) && decide (a.language = b.language)

/-- Whether two services agree. -/
def Service.agrees (a b : Service) : Bool :=
  a.moduleName == b.moduleName && a.endpointPrefix == b.endpointPrefix &&
    a.signingName.agrees b.signingName && a.protocol.agrees b.protocol &&
    listsAgreeBy Action.agrees a.actions b.actions && a.abbreviation.agrees b.abbreviation &&
    a.apiVersion.agrees b.apiVersion && a.credentialScope.agrees b.credentialScope &&
    a.docstring == b.docstring && a.isGlobal == b.isGlobal &&
    a.jsonVersion.agrees b.jsonVersion && a.targetPrefix.agrees b.targetPrefix &&
    decide (a.language = b.language) && a.options.agrees b.options

end ServiceClient
