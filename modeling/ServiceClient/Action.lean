import ServiceClient.Doc.Entry
import ServiceClient.Text.Lower
import ServiceClient.Transport
import ServiceClient.Uri.Path

/-!
# Actions

An action is what a client offers for one operation: a function, with its name, its arity and its
documentation, and what the function needs to make the request. For a remote procedure call that is
the name of the operation; for a request of its own also the method, the path, the headers that it
sends and reads, and the status code of success.

What a spec says about the request is taken over as it stands, whatever its type.
-/

namespace ServiceClient

/-- The function that a client offers for an operation. -/
structure Action where
  /-- The number of arguments of the function. -/
  arity : Nat
  /-- The documentation block of the function. -/
  docstring : String
  /-- The name of the function. -/
  functionName : String
  /-- The name of the operation. -/
  name : String
  /-- The request method, or null. -/
  method : Json := .null
  /-- The template of the request path, or null. -/
  requestUri : Json := .null
  /-- The status code of a successful response, or null. -/
  successStatusCode : Json := .null
  /-- The parameters bound to the path. -/
  urlParameters : List Parameter := []
  /-- The parameters sent as headers. -/
  requestHeaders : List Parameter := []
  /-- The parameters read from the headers of the response. -/
  responseHeaders : List Parameter := []
  /-- The compiled path, where there is one. -/
  path : Option Uri.Path := none
  /-- The language that identifiers, documentation and source are made for. -/
  language : Language := .elixir

namespace Action

/-- Whether a value is the method whose requests have no body. -/
def isGet : Json → Bool
  | .str method => method = "GET"
  | _ => false

/-- Whether the request of the action has no body. -/
def isBodyless (a : Action) : Bool := isGet a.method

/-- The method as an atom of the target language, in small letters. -/
def methodAtom (a : Action) : Outcome String :=
  match a.method with
  | .null => .ok ""
  | .str method =>
    let atom := String.ofList (Text.lower method.toList)
    .ok (if a.language = .elixir then ":" ++ atom else atom)
  | _ => .error .wanting

/-- The method as an atom, for a module that is written: whatever has no small letters leaves it
undefined. -/
def definedMethodAtom (a : Action) : Outcome String := a.methodAtom.mapError fun _ ↦ .undefined

/-- The source of the path, for the inside of a string literal: without a compiled path the template
itself, if it is given. -/
def urlPath (a : Action) : Json :=
  match a.path with
  | some path => .str (path.source a.language)
  | none => a.requestUri.orElse (.str "")

/-- The parameters that are arguments of the function: those of the path, and those sent as headers
where no request body can hold them. -/
def arguments (a : Action) : List Parameter :=
  a.urlParameters ++ if a.isBodyless then a.requestHeaders else []

/-- The arguments as they follow another one in a head. -/
def functionParameters (a : Action) : String :=
  String.join (a.arguments.map fun p ↦ ", " ++ p.codeName)

end Action

end ServiceClient
