import ServiceClient.Action.Compile
import ServiceClient.Service

/-!
# Building a service

A service is built from three documents: the API spec, the documentation spec and the endpoint
catalog. The steps come in a fixed order, and the first that fails decides the fault: the endpoint
prefix, its entry in the catalog, the region of a global endpoint, the signing name, the actions,
the documentation of the service, and the options.
-/

namespace ServiceClient.Service

/-- The name that requests are signed for: the endpoint prefix unless the metadata give another. -/
def signingNameOf (metadata endpointPrefix : Json) : Outcome Json := do
  return (← metadata.field "signingName").orElse endpointPrefix

/-- Whether a catalog entry describes a global endpoint. An entry is regional unless it says
otherwise. -/
def isGlobalEntry (entry : Json) : Outcome Bool := do
  return !((← entry.field? "isRegionalized").getD (.bool true)).given

/-- The region in the credential scope of the global endpoint, or null. -/
def globalRegion (entry : Json) : Outcome Json := do
  let endpoints ← entry.fieldOrEmpty "endpoints"
  let endpoint ← endpoints.fieldOrEmpty globalEndpoint
  let scope ← endpoint.fieldOrEmpty "credentialScope"
  scope.field "region"

/-- Whether a catalog entry is global, and the region to sign for if it is. -/
def credentialScopeOf (entry endpointPrefix : Json) : Outcome (Bool × Json) := do
  if ← isGlobalEntry entry then
    let region ← globalRegion entry
    if region.given then return (true, region)
    else throw (.spec { defect := .noGlobalRegion, service := endpointPrefix })
  else return (false, .null)

/-- What a service is called and where it is reached. -/
structure Identity where
  /-- The endpoint prefix. -/
  endpointPrefix : String
  /-- The name that requests are signed for. -/
  signingName : Json
  /-- Whether the service has one endpoint for all regions. -/
  isGlobal : Bool
  /-- The region that requests to a global service are signed for, or null. -/
  credentialScope : Json

/-- The identity of the service that some metadata describe, by the endpoint catalog. -/
def identify (metadata endpoints : Json) : Outcome Identity := do
  let endpointPrefix ← metadata.field "endpointPrefix"
  if !endpointPrefix.given then throw (.spec { defect := .noEndpointPrefix })
  let entry ← (← endpoints.fieldOrEmpty "services").find endpointPrefix
  if entry.isNull then throw (.spec { defect := .notInCatalog, service := endpointPrefix })
  let (isGlobal, credentialScope) ← credentialScopeOf entry endpointPrefix
  let signingName ← signingNameOf metadata endpointPrefix
  return { endpointPrefix := endpointPrefix.display, signingName, isGlobal, credentialScope }

/-- The service that three documents describe. -/
def build (transport : Transport) (moduleName : String) (endpoints api docs options : Json)
    (language : Language) : Outcome Service := do
  let metadata ← Spec.metadata api
  let identity ← identify metadata endpoints
  let actions ← Action.compileAll transport language api docs
  return {
    moduleName
    endpointPrefix := identity.endpointPrefix
    signingName := identity.signingName
    protocol := ← metadata.field "protocol"
    actions
    abbreviation := ← metadata.field "serviceAbbreviation"
    apiVersion := ← metadata.field "apiVersion"
    credentialScope := identity.credentialScope
    docstring := ← Doc.blockOf language (← docs.field "service")
    isGlobal := identity.isGlobal
    jsonVersion := ← metadata.field "jsonVersion"
    targetPrefix := ← metadata.field "targetPrefix"
    language
    options := ← Options.ofJson options }

end ServiceClient.Service
