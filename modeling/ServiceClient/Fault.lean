import ServiceClient.Files.Tree
import ServiceClient.Json.Display
import ServiceClient.Json.Reader
import ServiceClient.Text.Half
import ServiceClient.Uri.Template

/-!
# Faults

Everything that can go wrong between a spec and its client, by cause. A defect of the spec itself is
a `SpecError`, which also says which service and which operation it concerns as far as they are
known. An input that is refused for another reason, before or beside the compilation, is a
`Rejection`. The rest are values of the wrong shape and failures of the file system.

The wording of a fault is a function of its cause, so the constructors are what is compared and
proved about.
-/

namespace ServiceClient

/-- The categories of defect that a spec can have. -/
inductive SpecError.Category
  /-- A defect of no particular category. -/
  | general
  /-- The service has no endpoint prefix. -/
  | missingEndpointPrefix
  /-- The endpoint prefix is not in the catalog. -/
  | unknownEndpoint
  /-- A global endpoint without a region to sign for. -/
  | inconsistentGlobalEndpoint
  /-- A request URI that cannot be compiled. -/
  | malformedUriTemplate
  /-- Two operations with one function name. -/
  | duplicateFunctionName
  deriving DecidableEq

/-- What is wrong with a spec. -/
inductive SpecError.Defect
  /-- The metadata have no endpoint prefix. -/
  | noEndpointPrefix
  /-- The endpoint prefix is not in the catalog. -/
  | notInCatalog
  /-- The catalog entry is global and names no region in the scope of its credentials. -/
  | noGlobalRegion
  /-- An operation has no request URI. -/
  | noRequestUri
  /-- A request URI, shown as a literal, is refused. -/
  | template (defect : Uri.TemplateDefect) (shown : String)
  /-- Two operations have the same function name. -/
  | sharedFunctionName (first second functionName : String)
  /-- A defect that somebody else reports, in their words. -/
  | reported (category : SpecError.Category) (text : String)
  deriving DecidableEq

/-- The key under which the catalog keeps the endpoint of a global service. -/
def globalEndpoint : String := "aws-global"

/-- The category that a defect belongs to. -/
def SpecError.Defect.category : SpecError.Defect → SpecError.Category
  | .noEndpointPrefix => .missingEndpointPrefix
  | .notInCatalog => .unknownEndpoint
  | .noGlobalRegion => .inconsistentGlobalEndpoint
  | .noRequestUri => .malformedUriTemplate
  | .template .. => .malformedUriTemplate
  | .sharedFunctionName .. => .duplicateFunctionName
  | .reported category _ => category

/-- The wording of a defect. -/
def SpecError.Defect.message : SpecError.Defect → String
  | .noEndpointPrefix => "API spec has no metadata.endpointPrefix"
  | .notInCatalog => "endpoint prefix not in endpoint catalog"
  | .noGlobalRegion => "global endpoint has no " ++ globalEndpoint ++ " credentialScope region"
  | .noRequestUri => "operation has no http.requestUri"
  | .template defect shown => defect.message shown
  | .sharedFunctionName first second functionName =>
    first ++ " and " ++ second ++ " both map to " ++ functionName
  | .reported _ text => text

/-- A defect of a spec, and where it lies. -/
structure SpecError where
  /-- What is wrong. -/
  defect : SpecError.Defect
  /-- The endpoint prefix of the service, or null. -/
  service : Json := .null
  /-- The name of the operation, or null. -/
  operation : Json := .null

/-- The parts of the location that are known, as they are written. -/
def SpecError.location (e : SpecError) : List String :=
  (if e.service.given then ["service=" ++ e.service.display] else []) ++
    (if e.operation.given then ["operation=" ++ e.operation.display] else [])

/-- The wording of a spec error: the defect, and the location in parentheses. -/
def SpecError.message (e : SpecError) : String :=
  match e.location with
  | [] => e.defect.message
  | parts => e.defect.message ++ " (" ++ String.intercalate ", " parts ++ ")"

/-- Why an input is refused that is not a defect of the spec. -/
inductive Rejection
  /-- The protocol of the service is not supported. -/
  | unsupportedProtocol (protocol : Json)
  /-- There is no location of this kind. -/
  | unknownLocationKind (kind : Json)
  /-- There is no transport of this name. -/
  | unknownTransport (name : Json)
  /-- There is no client module for the language and the transport. -/
  | noClient (language transport : String)
  /-- A pair was wanted, and there were fewer parts. -/
  | tooFewParts (parts : Nat)
  /-- A pair was wanted, and there were more parts. -/
  | tooManyParts
  /-- The item at an index should be a pair, and has some other length. -/
  | notPair (index length : Nat)
  /-- A number has too many digits. -/
  | tooManyDigits (digits : Nat)
  /-- The path of a file holds the null character. -/
  | nullCharacter
  /-- A text is no JSON. -/
  | json (defect : Json.Defect) (offset line column : Nat)
  /-- Some bytes are no UTF-8. -/
  | encoding (e : Text.Utf8.Error)
  /-- A text holds halves of surrogate pairs, which have no bytes. -/
  | unencodable (halves : Text.Halves)

/-- The wording of a defect of an encoding. -/
def encodingMessage (e : Text.Utf8.Error) : String :=
  let cause :=
    match e.defect with
    | .invalidStart => "invalid start byte"
    | .invalidContinuation => "invalid continuation byte"
    | .unexpectedEnd => "unexpected end of data"
  if e.first = e.last then
    "'utf-8' codec can't decode byte 0x" ++ String.ofList (Text.Hex.fixed 2 e.lead.toNat) ++
      " in position " ++ toString e.first ++ ": " ++ cause
  else
    "'utf-8' codec can't decode bytes in position " ++ toString e.first ++ "-" ++ toString e.last ++
      ": " ++ cause

/-- The wording about halves that have no bytes. -/
def halvesMessage (halves : Text.Halves) : String :=
  if halves.first = halves.last then
    "'utf-8' codec can't encode character '\\u" ++ String.ofList (Text.Hex.fixed 4 halves.half) ++
      "' in position " ++ toString halves.first ++ ": surrogates not allowed"
  else
    "'utf-8' codec can't encode characters in position " ++ toString halves.first ++ "-" ++
      toString halves.last ++ ": surrogates not allowed"

/-- The wording of a rejection. -/
def Rejection.message : Rejection → String
  | .unsupportedProtocol protocol => "unsupported protocol: " ++ protocol.literal
  | .unknownLocationKind kind => "unknown location kind: " ++ kind.literal
  | .unknownTransport name => name.literal ++ " is not a valid ProtocolKind"
  | .noClient language transport => "no template for " ++ language ++ "/" ++ transport
  | .tooFewParts parts => "not enough values to unpack (expected 2, got " ++ toString parts ++ ")"
  | .tooManyParts => "too many values to unpack (expected 2)"
  | .notPair index length =>
    "dictionary update sequence element #" ++ toString index ++ " has length " ++ toString length ++
      "; 2 is required"
  | .tooManyDigits digits =>
    "Exceeds the limit (" ++ toString Text.digitLimit ++
      " digits) for integer string conversion: value has " ++ toString digits ++
      " digits; use sys.set_int_max_str_digits() to increase the limit"
  | .nullCharacter => "embedded null byte"
  | .json defect offset line column =>
    defect.message ++ ": line " ++ toString line ++ " column " ++ toString column ++ " (char " ++
      toString offset ++ ")"
  | .encoding e => encodingMessage e
  | .unencodable halves => halvesMessage halves

/-- Why something could not be done. -/
inductive Fault
  /-- The spec has a defect. -/
  | spec (e : SpecError)
  /-- The input is refused. -/
  | rejected (r : Rejection)
  /-- A value was asked for one of its fields, its items or its small letters, and has none. -/
  | wanting
  /-- A value is of a type that cannot be used in this place. -/
  | unfit
  /-- Something is looked up under a key, shown as a literal, where there is no such key. -/
  | missingKey (shown : String)
  /-- A module is written, and a part of it is not defined. -/
  | undefined
  /-- A field of a finished record was to be changed. -/
  | fixed
  /-- An option of the command line is malformed. -/
  | badOption (text : String)
  /-- The file system reports an error. -/
  | file (e : Files.Error)

/-- The wording of a fault, where it has one. -/
def Fault.message? : Fault → Option String
  | .spec e => some e.message
  | .rejected r => some r.message
  | .missingKey shown => some shown
  | .badOption text => some ("expected key=value, got " ++ Text.quoted text)
  | .file e => some e.message
  | .wanting | .unfit | .undefined | .fixed => none

/-- What a computation gives that can fail. -/
abbrev Outcome := Except Fault

end ServiceClient
