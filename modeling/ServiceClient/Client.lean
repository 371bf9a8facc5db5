import ServiceClient.Elixir.Module
import ServiceClient.Erlang.Module

/-!
# Client modules

There are four layouts of client modules, one for each language that clients are written in and each
transport. A layout has a name, by which it can be asked for, and a suffix for the files that are
written in it. A service can be rendered in any layout; what it was built for decides only which one
is meant.
-/

namespace ServiceClient.Client

/-- A language that clients are written in. -/
inductive Target
  /-- Elixir. -/
  | elixir
  /-- Erlang. -/
  | erlang
  deriving DecidableEq

/-- A layout of client modules. -/
structure Layout where
  /-- The language that the module is written in. -/
  target : Target
  /-- How the operations are carried. -/
  transport : Transport
  deriving DecidableEq

namespace Layout

/-- The layouts. -/
def all : List Layout :=
  [⟨.elixir, .rpc⟩, ⟨.elixir, .rest⟩, ⟨.erlang, .rpc⟩, ⟨.erlang, .rest⟩]

/-- The layout for a language and a transport. -/
def of (language : Language) (transport : Transport) : Outcome Layout :=
  match language with
  | .elixir => .ok ⟨.elixir, transport⟩
  | .erlang => .ok ⟨.erlang, transport⟩
  | .other name => .error (.rejected (.noClient name transport.name))

/-- The suffix of the files that are written in a layout. -/
def suffix (l : Layout) : String :=
  match l.target with
  | .elixir => ".ex"
  | .erlang => ".erl"

/-- The name of a layout. -/
def name (l : Layout) : String :=
  let folder :=
    match l.target with
    | .elixir => "elixir/"
    | .erlang => "erlang/"
  folder ++ l.transport.name ++ l.suffix ++ ".j2"

/-- The layout of a given name. -/
def ofName? (name : String) : Option Layout := all.find? fun l ↦ l.name = name

end Layout

/-- The text of the client module of a service. -/
def render (layout : Layout) (s : Service) : Outcome String :=
  match layout.target with
  | .elixir => do return (← Elixir.Module.ofService layout.transport s).text
  | .erlang => do return (← Erlang.Module.ofService layout.transport s).text

/-- The name of the file that a client module is written to. Hyphens are no part of it. -/
def fileName (layout : Layout) (s : Service) : String :=
  String.ofList (s.endpointPrefix.toList.map fun c ↦ if c = '-' then '_' else c) ++ layout.suffix

end ServiceClient.Client
