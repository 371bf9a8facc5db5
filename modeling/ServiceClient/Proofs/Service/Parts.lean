import ServiceClient.Proofs.Outcome
import ServiceClient.Service.Build

/-!
# The parts of a service

Where a service that was built has its parts from. `IsBuilt` says it with one field for each part,
over the metadata and the identity that were found on the way.
-/

namespace ServiceClient.Service

variable {transport : Transport} {language : Language} {moduleName : String}
  {endpoints api docs options : Json} {s : Service}

/-- A service has the parts that its documents give it. -/
structure IsBuilt (transport : Transport) (moduleName : String)
    (endpoints api docs options : Json) (language : Language) (metadata : Json)
    (identity : Identity) (s : Service) : Prop where
  /-- The metadata are those of the API spec. -/
  metadata_eq : Spec.metadata api = .ok metadata
  /-- The service is identified by its metadata and the catalog. -/
  identity_eq : identify metadata endpoints = .ok identity
  /-- The module is named by the caller. -/
  moduleName_eq : s.moduleName = moduleName
  /-- The endpoint prefix belongs to the identity. -/
  endpointPrefix_eq : s.endpointPrefix = identity.endpointPrefix
  /-- The signing name belongs to the identity. -/
  signingName_eq : s.signingName = identity.signingName
  /-- Whether there is one endpoint belongs to the identity. -/
  isGlobal_eq : s.isGlobal = identity.isGlobal
  /-- The region to sign for belongs to the identity. -/
  credentialScope_eq : s.credentialScope = identity.credentialScope
  /-- The actions are those of the operations. -/
  actions_eq : Action.compileAll transport language api docs = .ok s.actions
  /-- The protocol is that of the metadata. -/
  protocol_eq : metadata.field "protocol" = .ok s.protocol
  /-- The short name is that of the metadata. -/
  abbreviation_eq : metadata.field "serviceAbbreviation" = .ok s.abbreviation
  /-- The version of the API is that of the metadata. -/
  apiVersion_eq : metadata.field "apiVersion" = .ok s.apiVersion
  /-- The version of the JSON protocol is that of the metadata. -/
  jsonVersion_eq : metadata.field "jsonVersion" = .ok s.jsonVersion
  /-- The prefix of the operations' names is that of the metadata. -/
  targetPrefix_eq : metadata.field "targetPrefix" = .ok s.targetPrefix
  /-- The documentation is the block of the service's entry. -/
  exists_docstring : ∃ entry, docs.field "service" = .ok entry ∧
    Doc.blockOf language entry = .ok s.docstring
  /-- The language is the one that is built for. -/
  language_eq : s.language = language
  /-- The options are those of the caller. -/
  options_eq : Options.ofJson options = .ok s.options

/-- A service that was built has its parts from the documents. -/
theorem exists_isBuilt
    (h : build transport moduleName endpoints api docs options language = .ok s) :
    ∃ metadata identity,
      IsBuilt transport moduleName endpoints api docs options language metadata identity s := by
  simp only [build, bind_eq_ok_iff] at h
  obtain ⟨metadata, hmetadata, identity, hidentity, actions, hactions, protocol, hprotocol,
    abbreviation, habbreviation, apiVersion, hapiVersion, entry, hentry, docstring, hdocstring,
    jsonVersion, hjsonVersion, targetPrefix, htargetPrefix, table, htable, h⟩ := h
  obtain rfl := Except.ok.inj h
  exact ⟨metadata, identity, {
    metadata_eq := hmetadata
    identity_eq := hidentity
    moduleName_eq := rfl
    endpointPrefix_eq := rfl
    signingName_eq := rfl
    isGlobal_eq := rfl
    credentialScope_eq := rfl
    actions_eq := hactions
    protocol_eq := hprotocol
    abbreviation_eq := habbreviation
    apiVersion_eq := hapiVersion
    jsonVersion_eq := hjsonVersion
    targetPrefix_eq := htargetPrefix
    exists_docstring := ⟨entry, hentry, hdocstring⟩
    language_eq := rfl
    options_eq := htable }⟩

end ServiceClient.Service
