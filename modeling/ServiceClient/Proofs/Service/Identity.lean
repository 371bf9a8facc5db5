import ServiceClient.Proofs.Spec.Typed
import ServiceClient.Service.Build

/-!
# When a service is identified

A service is identified by its endpoint prefix, which the metadata must give and the catalog must
list; and if the entry there is global, it must name a region to sign for. `identify` looks at these
one after another, so that each of its errors says that the ones before are right.
-/

namespace ServiceClient.Service

/-- The credential scope in the global endpoint of a catalog entry. -/
def globalScope (entry : Json) : Json :=
  ((entry.part "endpoints").part globalEndpoint).part "credentialScope"

/-- A catalog entry whose parts are typed. -/
structure IsTypedEntry (entry : Json) : Prop where
  /-- The entry is an object. -/
  isObj : entry.IsObj
  /-- The endpoints are the fields of an object. -/
  endpoints_isObj : (entry.part "endpoints").IsObj
  /-- The global endpoint is an object. -/
  endpoint_isObj : ((entry.part "endpoints").part globalEndpoint).IsObj
  /-- The credential scope is an object. -/
  scope_isObj : (globalScope entry).IsObj
  /-- The region is text. -/
  region : ((globalScope entry).valueAt "region").IsText

/-- The entry of the catalog for an endpoint prefix. -/
def listed? (endpoints : Json) (name : String) : Option Json :=
  (endpoints.part "services").entries.lookup name

/-- An endpoint catalog whose entries are typed. -/
structure IsTypedCatalog (endpoints : Json) : Prop where
  /-- The catalog is an object. -/
  isObj : endpoints.IsObj
  /-- The entries are the fields of an object. -/
  services_isObj : (endpoints.part "services").IsObj
  /-- The entries are typed. -/
  entries : ∀ field ∈ (endpoints.part "services").entries, IsTypedEntry field.2

theorem IsTypedCatalog.isTypedEntry {endpoints entry : Json} {name : String}
    (h : IsTypedCatalog endpoints) (hentry : listed? endpoints name = some entry) :
    IsTypedEntry entry := by
  obtain ⟨before, after, heq, -⟩ := List.lookup_eq_some_iff.1 hentry
  exact h.entries (name, entry) (by simp [heq])

/-- A catalog entry is regional: it does not say otherwise. -/
def IsRegional (entry : Json) : Prop :=
  ∀ v, entry.entries.lookup "isRegionalized" = some v → v.given = true

/-- A catalog entry names a region in the credential scope of its global endpoint. -/
def HasRegion (entry : Json) : Prop :=
  ∃ region, (globalScope entry).valueAt "region" = .str region ∧ region ≠ ""

/-- The metadata give an endpoint prefix. -/
def HasEndpointPrefix (metadata : Json) (name : String) : Prop :=
  metadata.valueAt "endpointPrefix" = .str name ∧ name ≠ ""

/-- The metadata and the catalog identify a service by its endpoint prefix. -/
def IsIdentified (metadata endpoints : Json) (name : String) : Prop :=
  HasEndpointPrefix metadata name ∧
    ∃ entry, listed? endpoints name = some entry ∧ (IsRegional entry ∨ HasRegion entry)

theorem HasEndpointPrefix.unique {metadata : Json} {first second : String}
    (hfirst : HasEndpointPrefix metadata first) (hsecond : HasEndpointPrefix metadata second) :
    first = second :=
  Json.str.inj (hfirst.1.symm.trans hsecond.1)

/-! ### Global entries -/

variable {entry : Json}

/-- An entry is global unless it is regional. -/
theorem isGlobalEntry_eq (h : entry.IsObj) [Decidable (IsRegional entry)] :
    isGlobalEntry entry = .ok (!decide (IsRegional entry)) := by
  rw [isGlobalEntry, h.field?_eq, ok_bind, pure_eq_ok, Except.ok.injEq, Bool.not_inj_iff]
  cases hv : entry.entries.lookup "isRegionalized" with
  | none => simp [IsRegional, hv, Json.given]
  | some v => simp [IsRegional, hv]

theorem globalRegion_eq (h : IsTypedEntry entry) :
    globalRegion entry = .ok ((globalScope entry).valueAt "region") := by
  rw [globalRegion, h.isObj.fieldOrEmpty_eq, ok_bind, h.endpoints_isObj.fieldOrEmpty_eq, ok_bind,
    h.endpoint_isObj.fieldOrEmpty_eq, ok_bind]
  exact h.scope_isObj.field_eq "region"

/-- A regional entry has a scope, which is null, and a global one with a region has that. -/
theorem exists_credentialScopeOf (h : IsTypedEntry entry)
    (hscope : IsRegional entry ∨ HasRegion entry) (endpointPrefix : Json) :
    ∃ scope, credentialScopeOf entry endpointPrefix = .ok scope := by
  classical
  rw [credentialScopeOf, isGlobalEntry_eq h.isObj, ok_bind]
  by_cases hregional : IsRegional entry
  · rw [decide_eq_true hregional]
    exact ⟨_, rfl⟩
  · have hgiven := h.region.given_iff.2 (hscope.resolve_left hregional)
    rw [decide_eq_false hregional, globalRegion_eq h, Bool.not_false, if_pos rfl, ok_bind,
      if_pos hgiven]
    exact ⟨_, rfl⟩

/-- A global entry without a region is refused. -/
theorem credentialScopeOf_of_not (h : IsTypedEntry entry)
    (hscope : ¬(IsRegional entry ∨ HasRegion entry)) (endpointPrefix : Json) :
    credentialScopeOf entry endpointPrefix =
      .error (.spec { defect := .noGlobalRegion, service := endpointPrefix }) := by
  classical
  obtain ⟨hregional, hregion⟩ := not_or.1 hscope
  have hgiven := mt h.region.given_iff.1 hregion
  rw [credentialScopeOf, isGlobalEntry_eq h.isObj, ok_bind, decide_eq_false hregional,
    globalRegion_eq h, Bool.not_false, if_pos rfl, ok_bind, if_neg hgiven]
  rfl

/-! ### Identities -/

variable {metadata endpoints : Json} {name : String}

/-- Without an endpoint prefix nothing else is looked at. -/
theorem identify_of_no_endpointPrefix (hmetadata : metadata.IsObj)
    (htext : (metadata.valueAt "endpointPrefix").IsText)
    (h : ∀ name, ¬HasEndpointPrefix metadata name) :
    identify metadata endpoints = .error (.spec { defect := .noEndpointPrefix }) := by
  have hgiven : (metadata.valueAt "endpointPrefix").given = false := by
    rw [Bool.eq_false_iff, Ne, htext.given_iff]
    rintro ⟨name, hname⟩
    exact h name hname
  rw [identify, hmetadata.field_eq, ok_bind, hgiven]
  rfl

/-- With an endpoint prefix the catalog is asked for its entry. -/
theorem identify_of_endpointPrefix (hmetadata : metadata.IsObj)
    (hcatalog : IsTypedCatalog endpoints) (h : HasEndpointPrefix metadata name) :
    identify metadata endpoints = (do
      let entry := (listed? endpoints name).getD .null
      if entry.isNull then throw (.spec { defect := .notInCatalog, service := .str name })
      let (isGlobal, credentialScope) ← credentialScopeOf entry (.str name)
      let signingName ← signingNameOf metadata (.str name)
      return { endpointPrefix := name, signingName, isGlobal, credentialScope }) := by
  have hgiven : (Json.str name).given = true := by simpa [Json.given] using h.2
  rw [identify, hmetadata.field_eq, ok_bind, h.1, hgiven, hcatalog.isObj.fieldOrEmpty_eq]
  simp only [Bool.not_true, Bool.false_eq_true, if_false, pure_eq_ok, ok_bind,
    hcatalog.services_isObj.find_str_eq]
  rfl

/-- An endpoint prefix that the catalog does not list is refused. -/
theorem identify_of_unlisted (hmetadata : metadata.IsObj) (hcatalog : IsTypedCatalog endpoints)
    (h : HasEndpointPrefix metadata name) (hentry : listed? endpoints name = none) :
    identify metadata endpoints =
      .error (.spec { defect := .notInCatalog, service := .str name }) := by
  rw [identify_of_endpointPrefix hmetadata hcatalog h, hentry]
  rfl

/-- A global service without a region to sign for is refused. -/
theorem identify_of_unsigned (hmetadata : metadata.IsObj) (hcatalog : IsTypedCatalog endpoints)
    (h : HasEndpointPrefix metadata name) (hentry : listed? endpoints name = some entry)
    (hscope : ¬(IsRegional entry ∨ HasRegion entry)) :
    identify metadata endpoints =
      .error (.spec { defect := .noGlobalRegion, service := .str name }) := by
  have htyped := hcatalog.isTypedEntry hentry
  rw [identify_of_endpointPrefix hmetadata hcatalog h, hentry]
  simp only [Option.getD_some, htyped.isObj.isNull_eq, credentialScopeOf_of_not htyped hscope]
  rfl

/-- An identified service has an identity. -/
theorem exists_identify (hmetadata : metadata.IsObj) (hcatalog : IsTypedCatalog endpoints)
    (h : IsIdentified metadata endpoints name) :
    ∃ identity, identify metadata endpoints = .ok identity := by
  obtain ⟨hname, entry, hentry, hscope⟩ := h
  have htyped := hcatalog.isTypedEntry hentry
  obtain ⟨⟨isGlobal, scope⟩, hcredential⟩ := exists_credentialScopeOf htyped hscope (.str name)
  rw [identify_of_endpointPrefix hmetadata hcatalog hname, hentry]
  simp only [Option.getD_some, htyped.isObj.isNull_eq, hcredential, signingNameOf,
    hmetadata.field_eq]
  exact ⟨_, rfl⟩

end ServiceClient.Service
