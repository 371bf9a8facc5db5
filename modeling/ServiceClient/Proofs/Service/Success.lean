import ServiceClient.Proofs.Action.Success
import ServiceClient.Proofs.Service.Identity

/-!
# When a service is built

For typed documents a service is built exactly when five conditions hold: the metadata give an
endpoint prefix, the catalog lists it, its entry is regional or names a region to sign for, all
operations are compilable, and their function names differ. `Accepts` is the conjunction.

`Refuses` says which error belongs to which failing condition. Each of its constructors asks for the
conditions before its own, so the first condition that fails decides the category of the error,
which is `Refuses.category_eq`.
-/

namespace ServiceClient.Service

variable {transport : Transport} {endpoints api docs options : Json}

/-- A service can be built from a catalog and a spec. -/
def Accepts (transport : Transport) (endpoints api : Json) : Prop :=
  (∃ name, IsIdentified (api.part "metadata") endpoints name) ∧
    Action.AllCompilable transport api ∧ Action.DistinctNames api

/-- The errors that a service can be refused with. -/
inductive Refuses (transport : Transport) (endpoints api : Json) : SpecError → Prop
  /-- The metadata give no endpoint prefix. -/
  | noEndpointPrefix (hname : ∀ name, ¬HasEndpointPrefix (api.part "metadata") name) :
      Refuses transport endpoints api { defect := .noEndpointPrefix }
  /-- The catalog does not list the endpoint prefix. -/
  | notInCatalog {name : String} (hname : HasEndpointPrefix (api.part "metadata") name)
      (hentry : listed? endpoints name = none) :
      Refuses transport endpoints api { defect := .notInCatalog, service := .str name }
  /-- The entry is global, and names no region to sign for. -/
  | noGlobalRegion {name : String} {entry : Json}
      (hname : HasEndpointPrefix (api.part "metadata") name)
      (hentry : listed? endpoints name = some entry)
      (hscope : ¬(IsRegional entry ∨ HasRegion entry)) :
      Refuses transport endpoints api { defect := .noGlobalRegion, service := .str name }
  /-- An operation is not compilable, and those before it are. -/
  | requestUri {service name : String} {operation : Json} {before after : Fields}
      {defect : SpecError.Defect}
      (hservice : IsIdentified (api.part "metadata") endpoints service)
      (hoperations : (api.part "operations").entries = before ++ (name, operation) :: after)
      (hbefore : ∀ field ∈ before, Action.IsCompilable transport api field.2)
      (hoperation : ¬Action.IsCompilable transport api operation)
      (hdefect : Action.RouteDefect operation defect) :
      Refuses transport endpoints api { defect, service := .str service, operation := .str name }
  /-- All operations are compilable, and two of them have the same function name. -/
  | functionName {service first second : String}
      (hservice : IsIdentified (api.part "metadata") endpoints service)
      (hcompilable : Action.AllCompilable transport api)
      (hnames : [first, second].Subperm (Action.operationNames api))
      (hshared : Identifier.snakeCase first = Identifier.snakeCase second) :
      Refuses transport endpoints api {
        defect := .sharedFunctionName first second (Identifier.snakeCase second)
        service := .str service
        operation := .str second }

/-! ### The conditions exclude each other -/

/-- Two operations with one function name keep the function names from differing. -/
theorem not_distinctNames {first second : String}
    (hnames : [first, second].Subperm (Action.operationNames api))
    (hshared : Identifier.snakeCase first = Identifier.snakeCase second) :
    ¬Action.DistinctNames api := by
  intro hdistinct
  obtain ⟨pair, hperm, hsublist⟩ := hnames
  have hnodup : (pair.map Identifier.snakeCase).Nodup :=
    (hsublist.map Identifier.snakeCase).nodup hdistinct
  have htwo := (hperm.map Identifier.snakeCase).nodup_iff.1 hnodup
  simp [hshared] at htwo

/-- The conditions before the one with a given number hold, counted from zero. -/
def Passes (transport : Transport) (endpoints api : Json) : ℕ → Prop
  | 0 => True
  | 1 => ∃ name, HasEndpointPrefix (api.part "metadata") name
  | 2 => ∃ name entry, HasEndpointPrefix (api.part "metadata") name ∧
      listed? endpoints name = some entry
  | 3 => ∃ name, IsIdentified (api.part "metadata") endpoints name
  | 4 => (∃ name, IsIdentified (api.part "metadata") endpoints name) ∧
      Action.AllCompilable transport api
  | _ => Accepts transport endpoints api

/-- The category of the error for the condition with a given number. -/
def categoryAt : ℕ → SpecError.Category
  | 0 => .missingEndpointPrefix
  | 1 => .unknownEndpoint
  | 2 => .inconsistentGlobalEndpoint
  | 3 => .malformedUriTemplate
  | _ => .duplicateFunctionName

theorem Passes.of_succ {n : ℕ} (h : Passes transport endpoints api (n + 1)) :
    Passes transport endpoints api n := by
  match n, h with
  | 0, _ => trivial
  | 1, ⟨name, _, hname, _⟩ => exact ⟨name, hname⟩
  | 2, ⟨name, hname, entry, hentry, _⟩ => exact ⟨name, entry, hname, hentry⟩
  | 3, ⟨hidentified, _⟩ => exact hidentified
  | 4, ⟨hidentified, hcompilable, _⟩ => exact ⟨hidentified, hcompilable⟩
  | _ + 5, h => exact h

theorem Passes.of_le {m n : ℕ} (h : Passes transport endpoints api n) (hle : m ≤ n) :
    Passes transport endpoints api m := by
  induction hle with
  | refl => exact h
  | step _ ih => exact ih h.of_succ

/-- A service is refused for a condition that fails while those before it hold. -/
theorem Refuses.exists_passes {e : SpecError} (h : Refuses transport endpoints api e) :
    ∃ n < 5, e.defect.category = categoryAt n ∧ Passes transport endpoints api n ∧
      ¬Passes transport endpoints api (n + 1) := by
  cases h with
  | noEndpointPrefix hno =>
    exact ⟨0, by omega, rfl, trivial, fun ⟨name, hname⟩ ↦ hno name hname⟩
  | @notInCatalog name hname hnone =>
    refine ⟨1, by omega, rfl, ⟨name, hname⟩, ?_⟩
    rintro ⟨name', entry, hname', hentry⟩
    obtain rfl := hname.unique hname'
    simp [hnone] at hentry
  | @noGlobalRegion name entry hname hentry hnot =>
    refine ⟨2, by omega, rfl, ⟨name, entry, hname, hentry⟩, ?_⟩
    rintro ⟨name', hname', entry', hentry', hscope⟩
    obtain rfl := hname.unique hname'
    obtain rfl := Option.some.inj (hentry.symm.trans hentry')
    exact hnot hscope
  | @requestUri service name operation before after defect hservice hoperations _ hnot hdefect =>
    refine ⟨3, by omega, hdefect.category_eq, ⟨service, hservice⟩, ?_⟩
    rintro ⟨_, hcompilable⟩
    exact hnot (hcompilable (name, operation) (by simp [hoperations]))
  | @functionName service _ _ hservice hcompilable hnames hshared =>
    refine ⟨4, by omega, rfl, ⟨⟨service, hservice⟩, hcompilable⟩, ?_⟩
    rintro ⟨_, _, hdistinct⟩
    exact not_distinctNames hnames hshared hdistinct

/-- A service that can be built is not refused. -/
theorem Refuses.not_accepts {e : SpecError} (h : Refuses transport endpoints api e) :
    ¬Accepts transport endpoints api := by
  intro haccepts
  obtain ⟨n, hn, -, -, hfails⟩ := h.exists_passes
  exact hfails (Passes.of_le (n := 5) haccepts hn)

/-- The first condition that fails decides the category of the error. -/
theorem Refuses.category_eq {e e' : SpecError} (h : Refuses transport endpoints api e)
    (h' : Refuses transport endpoints api e') : e.defect.category = e'.defect.category := by
  obtain ⟨n, -, hcategory, hpasses, hfails⟩ := h.exists_passes
  obtain ⟨n', -, hcategory', hpasses', hfails'⟩ := h'.exists_passes
  have hn : n' ≤ n := Nat.not_lt.1 fun hlt ↦ hfails (hpasses'.of_le hlt)
  have hn' : n ≤ n' := Nat.not_lt.1 fun hlt ↦ hfails' (hpasses.of_le hlt)
  rw [hcategory, hcategory', Nat.le_antisymm hn' hn]

/-! ### Building -/

/-- No options, or a table of them, can be read. -/
theorem exists_options (h : options = .null ∨ options.IsObj) :
    ∃ table, Options.ofJson options = .ok table := by
  obtain rfl | h := h
  · exact ⟨[], rfl⟩
  · cases options with
    | obj fields => cases fields <;> exact ⟨_, rfl⟩
    | _ => cases h

/-- Beside its identity and its actions, nothing about a service can fail. -/
theorem exists_build_eq (hapi : Spec.IsTyped api) (hdocs : Doc.IsReadableSpec docs)
    (hoptions : options = .null ∨ options.IsObj) (transport : Transport) (moduleName : String)
    (endpoints : Json) (language : Language) :
    ∃ service : Identity → List Action → Service,
      build transport moduleName endpoints api docs options language = (do
        let identity ← identify (api.part "metadata") endpoints
        let actions ← Action.compileAll transport language api docs
        return service identity actions) := by
  obtain ⟨entry, docstring, hentry, hblock⟩ := hdocs.exists_serviceBlock language
  obtain ⟨table, htable⟩ := exists_options hoptions
  let metadata := api.part "metadata"
  refine ⟨fun identity actions ↦ {
    moduleName
    endpointPrefix := identity.endpointPrefix
    signingName := identity.signingName
    protocol := metadata.valueAt "protocol"
    actions
    abbreviation := metadata.valueAt "serviceAbbreviation"
    apiVersion := metadata.valueAt "apiVersion"
    credentialScope := identity.credentialScope
    docstring
    isGlobal := identity.isGlobal
    jsonVersion := metadata.valueAt "jsonVersion"
    targetPrefix := metadata.valueAt "targetPrefix"
    language
    options := table }, ?_⟩
  rw [build, Spec.metadata, hapi.isObj.fieldOrEmpty_eq, ok_bind]
  simp only [hapi.metadata_isObj.field_eq, hentry, hblock, htable, ok_bind]
  rfl

theorem endpointPrefix_eq {name : String} (hapi : Spec.IsTyped api)
    (hname : HasEndpointPrefix (api.part "metadata") name) :
    Spec.endpointPrefix api = .ok (.str name) := by
  rw [Spec.endpointPrefix_eq_valueAt hapi.isObj hapi.metadata_isObj, hname.1]

/-- A service that can be built is built. -/
theorem exists_build (hapi : Spec.IsTyped api) (hdocs : Doc.IsReadableSpec docs)
    (hcatalog : IsTypedCatalog endpoints) (hoptions : options = .null ∨ options.IsObj)
    (h : Accepts transport endpoints api) (moduleName : String) (language : Language) :
    ∃ service, build transport moduleName endpoints api docs options language = .ok service := by
  obtain ⟨⟨name, hidentified⟩, hcompilable, hdistinct⟩ := h
  obtain ⟨service, hbuild⟩ :=
    exists_build_eq hapi hdocs hoptions transport moduleName endpoints language
  obtain ⟨identity, hidentity⟩ := exists_identify hapi.metadata_isObj hcatalog hidentified
  obtain ⟨actions, hactions⟩ := Action.exists_compileAll hapi hdocs hcompilable hdistinct language
  exact ⟨service identity actions, by rw [hbuild, hidentity, ok_bind, hactions]; rfl⟩

/-- A service that cannot be identified is refused before its operations are read. -/
theorem exists_refuses_of_not_identified (hapi : Spec.IsTyped api)
    (hcatalog : IsTypedCatalog endpoints)
    (h : ¬∃ name, IsIdentified (api.part "metadata") endpoints name) :
    ∃ e, Refuses transport endpoints api e ∧
      identify (api.part "metadata") endpoints = .error (.spec e) := by
  have hobj := hapi.metadata_isObj
  by_cases hprefix : ∃ name, HasEndpointPrefix (api.part "metadata") name
  · obtain ⟨name, hname⟩ := hprefix
    cases hentry : listed? endpoints name with
    | none => exact ⟨_, .notInCatalog hname hentry, identify_of_unlisted hobj hcatalog hname hentry⟩
    | some entry =>
      have hscope : ¬(IsRegional entry ∨ HasRegion entry) := fun hscope ↦
        h ⟨name, hname, entry, hentry, hscope⟩
      exact ⟨_, .noGlobalRegion hname hentry hscope,
        identify_of_unsigned hobj hcatalog hname hentry hscope⟩
  · rw [not_exists] at hprefix
    exact ⟨_, .noEndpointPrefix hprefix,
      identify_of_no_endpointPrefix hobj hapi.endpointPrefix hprefix⟩

/-- The operations of an identified service are refused for the first condition that fails. -/
theorem exists_refuses_of_identified (hapi : Spec.IsTyped api) (hdocs : Doc.IsReadableSpec docs)
    {service : String} (hservice : IsIdentified (api.part "metadata") endpoints service)
    (h : ¬(Action.AllCompilable transport api ∧ Action.DistinctNames api)) (language : Language) :
    ∃ e, Refuses transport endpoints api e ∧
      Action.compileAll transport language api docs = .error (.spec e) := by
  have hprefix := endpointPrefix_eq hapi hservice.1
  by_cases hcompilable : Action.AllCompilable transport api
  · have hdistinct : ¬Action.DistinctNames api := fun hdistinct ↦ h ⟨hcompilable, hdistinct⟩
    obtain ⟨first, second, hnames, hshared, hcompile⟩ :=
      Action.compileAll_of_not_distinctNames hapi hdocs hcompilable hdistinct hprefix language
    exact ⟨_, .functionName hservice hcompilable hnames hshared, hcompile⟩
  · obtain ⟨before, name, operation, after, defect, hoperations, hbefore, hnot, hdefect,
      hcompile⟩ := Action.compileAll_of_not_allCompilable hapi hdocs hcompilable hprefix language
    exact ⟨_, .requestUri hservice hoperations hbefore hnot hdefect, hcompile⟩

/-- A service that cannot be built is refused for the first condition that fails. -/
theorem exists_refuses (hapi : Spec.IsTyped api) (hdocs : Doc.IsReadableSpec docs)
    (hcatalog : IsTypedCatalog endpoints) (hoptions : options = .null ∨ options.IsObj)
    (h : ¬Accepts transport endpoints api) (moduleName : String) (language : Language) :
    ∃ e, Refuses transport endpoints api e ∧
      build transport moduleName endpoints api docs options language = .error (.spec e) := by
  obtain ⟨service, hbuild⟩ :=
    exists_build_eq hapi hdocs hoptions transport moduleName endpoints language
  by_cases hidentified : ∃ name, IsIdentified (api.part "metadata") endpoints name
  · have hactions : ¬(Action.AllCompilable transport api ∧ Action.DistinctNames api) :=
      fun hactions ↦ h ⟨hidentified, hactions⟩
    obtain ⟨name, hname⟩ := hidentified
    obtain ⟨identity, hidentity⟩ := exists_identify hapi.metadata_isObj hcatalog hname
    obtain ⟨e, he, hcompile⟩ := exists_refuses_of_identified hapi hdocs hname hactions language
    exact ⟨e, he, by rw [hbuild, hidentity, ok_bind, hcompile, error_bind]⟩
  · obtain ⟨e, he, hidentity⟩ := exists_refuses_of_not_identified hapi hcatalog hidentified
    exact ⟨e, he, by rw [hbuild, hidentity, error_bind]⟩

/-- For typed documents a service is built exactly when every condition holds, and otherwise the
first condition that fails decides the error: its category is that of every error that the service
can be refused with. -/
theorem build_eq_ok_or_refused (hapi : Spec.IsTyped api) (hdocs : Doc.IsReadableSpec docs)
    (hcatalog : IsTypedCatalog endpoints) (hoptions : options = .null ∨ options.IsObj)
    (transport : Transport) (moduleName : String) (language : Language) :
    ((∃ service, build transport moduleName endpoints api docs options language = .ok service) ↔
        Accepts transport endpoints api) ∧
      (¬Accepts transport endpoints api →
        ∃ e, build transport moduleName endpoints api docs options language = .error (.spec e) ∧
          Refuses transport endpoints api e ∧
          ∀ e', Refuses transport endpoints api e' → e'.defect.category = e.defect.category) := by
  refine ⟨⟨?_, fun h ↦ exists_build hapi hdocs hcatalog hoptions h moduleName language⟩, ?_⟩
  · rintro ⟨service, hservice⟩
    by_contra h
    obtain ⟨e, -, hrefused⟩ :=
      exists_refuses hapi hdocs hcatalog hoptions h moduleName language
    simp [hservice] at hrefused
  · intro h
    obtain ⟨e, he, hrefused⟩ :=
      exists_refuses hapi hdocs hcatalog hoptions h moduleName language
    exact ⟨e, hrefused, he, fun e' he' ↦ he'.category_eq he⟩

/-- A path with one placeholder, with and without an entry in the catalog. -/
theorem build_eq_ok_or_refused_tag : ∃ api endpoints,
    (∃ service, build .rest "demo" endpoints api .empty .null .elixir = .ok service) ∧
    ∃ e, build .rest "demo" .empty api .empty .null .elixir = .error (.spec e) ∧
      e.defect.category = .unknownEndpoint := by
  let operation : Json := .obj [
    ("http", .obj [("requestUri", .str "/\x7bArn\x7d")]),
    ("input", .obj [("shape", .str "Tag")])]
  let member : Json := .obj [("location", .str "uri")]
  let api : Json := .obj [
    ("metadata", .obj [("endpointPrefix", .str "tags")]),
    ("operations", .obj [("GetTag", operation)]),
    ("shapes", .obj [("Tag", .obj [("members", .obj [("Arn", member)])])])]
  let endpoints : Json := .obj [("services", .obj [("tags", .obj [])])]
  have hapi : Spec.IsTyped api := by
    refine ⟨trivial, trivial, trivial, trivial, fun field hfield ↦ ?_, trivial,
      fun field hfield ↦ ?_⟩
    · obtain rfl := List.mem_singleton.1 hfield
      exact ⟨trivial, trivial, trivial, trivial, trivial, trivial⟩
    · obtain rfl := List.mem_singleton.1 hfield
      refine ⟨trivial, trivial, fun field hfield ↦ ?_⟩
      obtain rfl := List.mem_singleton.1 hfield
      exact ⟨trivial, trivial, trivial⟩
  have hdocs : Doc.IsReadableSpec .empty := ⟨trivial, trivial, trivial, by decide⟩
  have hcatalog : IsTypedCatalog endpoints := by
    refine ⟨trivial, trivial, fun field hfield ↦ ?_⟩
    obtain rfl := List.mem_singleton.1 hfield
    exact ⟨trivial, trivial, trivial, trivial, trivial⟩
  have hprefix : HasEndpointPrefix (api.part "metadata") "tags" := ⟨rfl, by decide⟩
  have hroutable : Action.IsRoutable api operation := by
    refine ⟨"/\x7bArn\x7d", ["Arn"], rfl, ?_, ?_⟩
    · have hchars : "Arn".toList.all Uri.isNameChar = true := by decide
      have hname : Uri.IsName "Arn".toList := ⟨by decide, List.all_eq_true.1 hchars⟩
      exact .text (by decide) (.placeholder false hname .nil)
    · simp only [List.mem_singleton, forall_eq]
      exact ⟨("Arn", member), List.mem_singleton.2 rfl, rfl, rfl⟩
  have haccepts : Accepts .rest endpoints api := by
    have hregional : IsRegional (.obj []) := fun v hv ↦ by cases hv
    refine ⟨⟨"tags", hprefix, .obj [], rfl, .inl hregional⟩, fun field hfield _ ↦ ?_, ?_⟩
    · obtain rfl := List.mem_singleton.1 hfield
      exact hroutable
    · exact List.pairwise_singleton _ _
  have hrefuses : Refuses .rest .empty api { defect := .notInCatalog, service := .str "tags" } :=
    .notInCatalog hprefix rfl
  have hempty : IsTypedCatalog .empty := ⟨trivial, trivial, fun _ hfield ↦ by cases hfield⟩
  obtain ⟨e, hbuild, -, hcategory⟩ := (build_eq_ok_or_refused hapi hdocs hempty (.inl rfl) .rest
    "demo" .elixir).2 hrefuses.not_accepts
  exact ⟨api, endpoints,
    (build_eq_ok_or_refused hapi hdocs hcatalog (.inl rfl) .rest "demo" .elixir).1.2 haccepts,
    e, hbuild, (hcategory _ hrefuses).symm⟩

end ServiceClient.Service
