import ServiceClient.Service
import ServiceClient.Source

/-!
# Elixir client modules

The client of a service in Elixir: a module with the metadata of the service and a function for each
action. `Module.ofService` lays out the module, and `Module.text` writes it. A function keeps the
list of its formal arguments, so its arity is that of the list.

Functions for remote procedure calls hand their input on under the name of the operation. The others
build the path and the headers first: without a request body, the headers come from arguments of
their own, and those that are nil are not sent; otherwise they are taken out of the input.
-/

namespace ServiceClient.Elixir

/-- A public function. -/
structure Function where
  /-- The documentation block. -/
  docstring : String
  /-- The name. -/
  name : String
  /-- The patterns of the arguments. -/
  formals : List String
  /-- The lines of the body. -/
  body : List String

/-- A client module. -/
structure Module where
  /-- The name of the module. -/
  name : String
  /-- The documentation block of the module. -/
  docstring : String
  /-- The metadata of the service, names with expressions. -/
  metadata : List (String × String)
  /-- The functions of the module. -/
  functions : List Function

/-- A value as a string literal, or nil if it is not given. -/
def stringOrNil (v : Json) : String := if v.given then "\"" ++ v.display ++ "\"" else "nil"

/-- A text as a string literal. -/
def string (s : String) : String := "\"" ++ s ++ "\""

/-- A pair of string literals. -/
def stringPair (a b : String) : String := "\x7b" ++ string a ++ ", " ++ string b ++ "\x7d"

/-- A truth value as an expression. -/
def truth (b : Bool) : String := if b then "true" else "false"

/-- The metadata that every client has. -/
def commonMetadata (s : Service) : List (String × String) := [
  ("credential_scope", stringOrNil s.credentialScope),
  ("endpoint_prefix", string s.endpointPrefix),
  ("global?", truth s.isGlobal),
  ("json_version", stringOrNil s.jsonVersion),
  ("protocol", string s.protocol.display),
  ("signing_name", string s.signingName.display),
  ("target_prefix", stringOrNil s.targetPrefix)]

/-- The metadata of a client for remote procedure calls. -/
def rpcMetadata (s : Service) : List (String × String) :=
  ("abbreviation", stringOrNil s.abbreviation) :: ("api_version", stringOrNil s.apiVersion) ::
    commonMetadata s

/-- The pattern of the first argument of every function. -/
def clientFormal : String := "%Client\x7b\x7d = client"

/-- The pattern of the last argument of every function, which has a default. -/
def optionsFormal : String := "options \\\\ []"

/-- The function for a remote procedure call. -/
def rpcFunction (a : Action) : Function where
  docstring := a.docstring
  name := a.functionName
  formals := [clientFormal, "input", optionsFormal]
  body := ["Request.request_post(client, metadata(), " ++ string a.name ++ ", input, options)"]

/-- The formal arguments of the function for a request of its own. -/
def restFormals (a : Action) : List String :=
  clientFormal :: a.arguments.map Parameter.codeName ++
    (if a.isBodyless then [optionsFormal] else ["input", optionsFormal])

/-- The line that adds a header whose value is an argument, unless the argument is nil. -/
def headerLine (p : Parameter) : String :=
  "headers = if !is_nil(" ++ p.codeName ++ "), do: [\x7b" ++ string p.locationName.display ++
    ", " ++ p.codeName ++ "\x7d | headers], else: headers"

/-- The lines that set up the headers, the query and the input. -/
def requestLines (a : Action) : List String :=
  if a.isBodyless then
    "headers = []" :: a.requestHeaders.map headerLine ++ ["query_params = []", "input = nil"]
  else
    (if a.requestHeaders.isEmpty then ["headers = []"]
     else
      ["\x7bheaders, input\x7d =", "  ["] ++
        Source.indent 4 (Source.commaSeparated
          (a.requestHeaders.map fun p ↦ stringPair p.name p.locationName.display)) ++
        ["  ]", "  |> Request.build_params(input)"]) ++
    ["query_params = []"]

/-- The lines that tell which headers of the response to read, if there are any. -/
def responseLines (a : Action) : List String :=
  if a.responseHeaders.isEmpty then []
  else
    ["", "options =", "  Keyword.put(", "    options,", "    :response_header_parameters,",
      "    ["] ++
      Source.indent 6 (Source.commaSeparated
        (a.responseHeaders.map fun p ↦ stringPair p.locationName.display p.name)) ++
      ["    ]", "  )"]

/-- The lines that make the request. -/
def callLines (methodAtom : String) (a : Action) : List String :=
  ["Request.request_rest("] ++
    ["  client,", "  metadata(),", "  " ++ methodAtom ++ ",", "  url_path,", "  query_params,",
      "  headers,", "  input,", "  options,",
      "  " ++ if a.successStatusCode.isNull then "nil" else a.successStatusCode.display] ++
    [")"]

/-- The function for a request of its own. -/
def restFunction (a : Action) : Outcome Function := do
  let methodAtom ← a.definedMethodAtom
  return {
    docstring := a.docstring
    name := a.functionName
    formals := restFormals a
    body :=
      ["url_path = " ++ string a.urlPath.display] ++ requestLines a ++ responseLines a ++ [""] ++
        callLines methodAtom a }

namespace Module

/-- The client module of a service. -/
def ofService (transport : Transport) (s : Service) : Outcome Module := do
  let functions ←
    match transport with
    | .rpc => pure (s.actions.map rpcFunction)
    | .rest => s.actions.mapM restFunction
  return {
    name := s.moduleName
    docstring := s.docstring
    metadata :=
      match transport with
      | .rpc => rpcMetadata s
      | .rest => commonMetadata s
    functions }

/-- The lines of a function. -/
def functionLines (f : Function) : List String :=
  ["", "  @doc \"\"\""] ++ Source.indentBlock 2 f.docstring ++ ["  \"\"\""] ++
    ["  def " ++ f.name ++ "(" ++ String.intercalate ", " f.formals ++ ") do"] ++
    Source.indent 4 f.body ++ ["  end"]

/-- The lines of a module. -/
def lines (m : Module) : List String :=
  ["# WARNING: DO NOT EDIT, AUTO-GENERATED CODE!",
    "# See https://github.com/aws/aws-sdk-go/tree/master/models/apis for the source specs.",
    "",
    "defmodule " ++ m.name ++ " do",
    "  @moduledoc \"\"\""] ++
  Source.indentBlock 2 m.docstring ++
  ["  \"\"\"",
    "",
    "  alias AWS.Client",
    "  alias AWS.Request",
    "",
    "  def metadata do",
    "    %AWS.ServiceMetadata\x7b"] ++
  Source.indent 6 (Source.commaSeparated (m.metadata.map fun f ↦ f.1 ++ ": " ++ f.2)) ++
  ["    \x7d",
    "  end"] ++
  m.functions.flatMap functionLines ++
  ["end"]

/-- The text of a module. -/
def text (m : Module) : String := Source.text m.lines

end Module

end ServiceClient.Elixir
