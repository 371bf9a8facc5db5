import ServiceClient.Action
import ServiceClient.Options

/-!
# Services

A service is everything that the client module of one API is made from: its metadata, its actions in
the order of their names, and options of the caller's. A service is a record that does not change
once it has been built. In particular its options are those that it was built with, whatever becomes
of the table that they were taken from; `Service/Session` follows that table and the service side by
side.
-/

namespace ServiceClient

/-- One API, ready to be written as a client module. -/
structure Service where
  /-- The name of the client module. -/
  moduleName : String
  /-- The name under which the endpoint catalog knows the service. -/
  endpointPrefix : String
  /-- The name that requests are signed for. -/
  signingName : Json
  /-- The protocol that the metadata name. -/
  protocol : Json
  /-- What the client offers. -/
  actions : List Action
  /-- The short name of the service, or null. -/
  abbreviation : Json
  /-- The version of the API, or null. -/
  apiVersion : Json
  /-- The region that requests to a global service are signed for, or null. -/
  credentialScope : Json
  /-- The documentation block of the module. -/
  docstring : String
  /-- Whether the service has one endpoint for all regions. -/
  isGlobal : Bool
  /-- The version of the JSON protocol, or null. -/
  jsonVersion : Json
  /-- What the names of the operations are prefixed with in requests, or null. -/
  targetPrefix : Json
  /-- The language that the service was built for. -/
  language : Language
  /-- The options of the caller. -/
  options : Options

end ServiceClient
