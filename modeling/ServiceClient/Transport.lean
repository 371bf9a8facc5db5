import ServiceClient.Json.Lookup

/-!
# Transports

The protocol of a service decides how its operations are carried: as remote procedure calls, all of
them posted in one form, or as requests whose path, headers and status each operation describes
itself.
-/

namespace ServiceClient

/-- A family of protocols that carry operations in the same way. -/
inductive Transport
  /-- Every operation is posted in the same form. -/
  | rpc
  /-- Every operation describes its own request. -/
  | rest
  deriving DecidableEq

namespace Transport

/-- The name of a transport. -/
def name : Transport → String
  | .rpc => "post"
  | .rest => "rest"

/-- The transport of a given name. -/
def ofName (name : Json) : Outcome Transport :=
  match name with
  | .str "post" => .ok .rpc
  | .str "rest" => .ok .rest
  | _ => .error (.rejected (.unknownTransport name))

/-- The protocols, each with its transport. -/
def ofProtocol? : String → Option Transport
  | "json" => some .rpc
  | "query" => some .rpc
  | "ec2" => some .rpc
  | "rest-json" => some .rest
  | "rest-xml" => some .rest
  | _ => none

/-- The transport for the protocol that the metadata of a service name. -/
def ofProtocol (protocol : Json) : Outcome Transport := do
  match (← protocol.key?).bind ofProtocol? with
  | some transport => return transport
  | none => throw (.rejected (.unsupportedProtocol protocol))

/-- The transport of the service that an API spec describes. -/
def ofSpec (api : Json) : Outcome Transport := do
  ofProtocol (← (← api.fieldOrEmpty "metadata").field "protocol")

end Transport

end ServiceClient
