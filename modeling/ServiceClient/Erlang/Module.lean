import ServiceClient.Service
import ServiceClient.Source

/-!
# Erlang client modules

The client of a service in Erlang: a module that exports the functions of its actions and has one
function of its own, through which they all make their requests. `Module.ofService` lays out the
module, and `Module.text` writes it. What is exported and what is defined are lists beside each
other: an export names an arity, and a clause has its formal arguments.

A function for a remote procedure call has a second clause set without options. The others build the
path and the headers first: without a request body, the headers come from arguments of their own,
and those that are undefined are not sent; otherwise they are taken out of the input.
-/

namespace ServiceClient.Erlang

/-- A function that a module exports. -/
structure Export where
  /-- The name. -/
  name : String
  /-- The number of arguments. -/
  arity : Nat
  deriving DecidableEq

/-- A clause of a function. -/
structure Clause where
  /-- The name of the function. -/
  name : String
  /-- The formal arguments. -/
  formals : List String
  /-- The tests of the guard. -/
  guards : List String
  /-- The lines of the body. -/
  body : List String

/-- The functions for an action. -/
structure Entry where
  /-- The documentation block. -/
  docstring : String
  /-- What is exported. -/
  exports : List Export
  /-- What is defined. -/
  clauses : List Clause

/-- A client module. -/
structure Module where
  /-- The name of the module. -/
  name : String
  /-- The documentation block of the module. -/
  docstring : String
  /-- The functions for the actions. -/
  entries : List Entry
  /-- The function that makes the requests. -/
  request : Clause

/-- A text as a binary literal. -/
def binary (s : String) : String := "<<\"" ++ s ++ "\">>"

/-- The functions for a remote procedure call. -/
def rpcEntry (a : Action) : Entry where
  docstring := a.docstring
  exports := [⟨a.functionName, 2⟩, ⟨a.functionName, a.arity⟩]
  clauses := [
    { name := a.functionName
      formals := ["Client", "Input"]
      guards := ["is_map(Client)", "is_map(Input)"]
      body := [a.functionName ++ "(Client, Input, [])."] },
    { name := a.functionName
      formals := ["Client", "Input", "Options"]
      guards := ["is_map(Client)", "is_map(Input)", "is_list(Options)"]
      body := ["request(Client, " ++ binary a.name ++ ", Input, Options)."] }]

/-- The formal arguments of the function for a request of its own. -/
def restFormals (a : Action) : List String :=
  "Client" :: a.arguments.map Parameter.codeName ++
    (if a.isBodyless then ["Options"] else ["Input0", "Options"])

/-- The tests on the arguments of the function for a request of its own. -/
def restGuards (a : Action) : List String :=
  if a.isBodyless then ["is_map(Client)", "is_list(Options)"]
  else ["is_map(Client)", "is_map(Input0)", "is_list(Options)"]

/-- The lines that set up the headers and the input. -/
def requestLines (a : Action) : List String :=
  if a.isBodyless then
    ["Headers0 = ["] ++
      Source.indent 2 (Source.commaSeparated (a.requestHeaders.map fun p ↦
        "\x7b" ++ binary p.locationName.display ++ ", " ++ p.codeName ++ "\x7d")) ++
      ["],", "Headers = [H || \x7b_, V\x7d = H <- Headers0, V =/= undefined],",
        "Input = undefined,"]
  else
    ["HeadersMapping = ["] ++
      Source.indent 2 (Source.commaSeparated (a.requestHeaders.map fun p ↦
        "\x7b" ++ binary p.locationName.display ++ ", " ++ binary p.name ++ "\x7d")) ++
      ["],", "\x7bHeaders, Input\x7d = aws_request:build_headers(HeadersMapping, Input0),"]

/-- The lines that make the request. -/
def callLines (methodAtom : String) (a : Action) : List String := [
  "request(Client, " ++ methodAtom ++ ", Path, Headers, Input, Options,",
  "        " ++ (if a.successStatusCode.isNull then "undefined" else a.successStatusCode.display) ++
    ")."]

/-- The function for a request of its own. -/
def restEntry (a : Action) : Outcome Entry := do
  let methodAtom ← a.definedMethodAtom
  return {
    docstring := a.docstring
    exports := [⟨a.functionName, a.arity⟩]
    clauses := [{
      name := a.functionName
      formals := restFormals a
      guards := restGuards a
      body :=
        ["Path = [\"" ++ a.urlPath.display ++ "\"],"] ++ requestLines a ++
          callLines methodAtom a }] }

/-- The lines that describe the service to the runtime, for the inside of a map. -/
def serviceLines (transport : Transport) (s : Service) : List String :=
  ["signing_name => " ++ binary s.signingName.display ++ ","] ++
    (if transport = .rpc ∧ s.targetPrefix.given then
      ["target_prefix => " ++ binary s.targetPrefix.display ++ ","] else []) ++
    (if s.isGlobal then
      ["credential_scope => " ++ binary s.credentialScope.display ++ ","] else []) ++
    ["protocol => " ++ binary s.protocol.display ++ "\x7d,"]

/-- The formal arguments of the function that makes the requests. -/
def requestFormals : Transport → List String
  | .rpc => ["Client", "Action", "Input", "Options"]
  | .rest => ["Client", "Method", "Path", "Headers", "Input", "Options", "SuccessStatusCode"]

/-- The function of the runtime that makes the requests. -/
def runtimeFunction : Transport → String
  | .rpc => "aws_request:request_post"
  | .rest => "aws_request:request_rest"

/-- The function that makes the requests. -/
def requestClause (transport : Transport) (s : Service) : Clause where
  name := "request"
  formals := requestFormals transport
  guards := []
  body :=
    [runtimeFunction transport ++ "(Client, #\x7bendpoint_prefix => " ++ binary s.endpointPrefix ++
        ","] ++
      Source.indent 35 (serviceLines transport s) ++
      [Source.spaces 25 ++ String.intercalate ", " (requestFormals transport).tail ++ ")."]

namespace Module

/-- The client module of a service. -/
def ofService (transport : Transport) (s : Service) : Outcome Module := do
  let entries ←
    match transport with
    | .rpc => pure (s.actions.map rpcEntry)
    | .rest => s.actions.mapM restEntry
  return {
    name := s.moduleName
    docstring := s.docstring
    entries
    request := requestClause transport s }

/-- The lines of the attribute that exports functions. -/
def exportLines (exports : List Export) : List String :=
  match Source.commaSeparated (exports.map fun e ↦ e.name ++ "/" ++ toString e.arity) with
  | [] => []
  | first :: rest =>
    let lines := ("-export([" ++ first) :: Source.indent 9 rest
    lines.dropLast ++ (lines.getLast?.map (· ++ "]).")).toList

/-- The lines of a clause. -/
def clauseLines (c : Clause) : List String :=
  let head := c.name ++ "(" ++ String.intercalate ", " c.formals ++ ")"
  (if c.guards.isEmpty then [head ++ " ->"]
   else [head, "  when " ++ String.intercalate ", " c.guards ++ " ->"]) ++
    Source.indent 4 c.body

/-- The lines of the functions for an action. -/
def entryLines (e : Entry) : List String :=
  ["", e.docstring] ++ e.clauses.flatMap clauseLines

/-- The lines of a heading. -/
def headingLines (title : String) : List String :=
  let rule := "%%" ++ String.ofList (List.replicate 68 '=')
  [rule, "%% " ++ title, rule]

/-- The lines of a module. -/
def lines (m : Module) : List String :=
  ["%% WARNING: DO NOT EDIT, AUTO-GENERATED CODE!",
    "%% See https://github.com/aws/aws-sdk-go/tree/master/models/apis for the source specs.",
    "",
    m.docstring,
    "-module(" ++ m.name ++ ").",
    ""] ++
  m.entries.flatMap (fun e ↦ exportLines e.exports) ++
  ["", "-include_lib(\"hackney/include/hackney_lib.hrl\").", ""] ++
  headingLines "API" ++
  m.entries.flatMap entryLines ++
  [""] ++ headingLines "Internal functions" ++ [""] ++
  clauseLines m.request

/-- The text of a module. -/
def text (m : Module) : String := Source.text m.lines

end Module

end ServiceClient.Erlang
