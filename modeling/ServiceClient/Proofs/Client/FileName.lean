import ServiceClient.Client
import ServiceClient.Proofs.Files.Directory

/-!
# Names of module files

The file of a client module is named after the endpoint prefix of the service, where a hyphen
becomes an underscore, and ends in the suffix of the layout. The suffix depends on the language
alone, so two modules in one language have different files exactly if the prefixes differ in more
than that. Whether the name is one part of a path depends on the slashes of the prefix.
-/

namespace ServiceClient.Client

open Files (IsName)

variable {layout : Layout} {service : Service}

/-- What the file of a module is named after: an endpoint prefix with underscores for hyphens. -/
def fileStem (endpointPrefix : String) : String :=
  String.ofList (endpointPrefix.toList.map fun c ↦ if c = '-' then '_' else c)

theorem fileName_eq (layout : Layout) (service : Service) :
    fileName layout service = fileStem service.endpointPrefix ++ layout.suffix := rfl

theorem two_lt_length_suffix (layout : Layout) : 2 < layout.suffix.toList.length := by
  rw [Layout.suffix]
  split <;> decide

theorem slash_notMem_suffix (layout : Layout) : '/' ∉ layout.suffix.toList := by
  rw [Layout.suffix]
  split <;> decide

/-- The file of a module is named by one part of a path if the endpoint prefix has no slash. -/
theorem isName_fileName (h : '/' ∉ service.endpointPrefix.toList) (layout : Layout) :
    IsName (fileName layout service) where
  slash_notMem := by
    rw [fileName_eq, String.toList_append, List.mem_append, not_or]
    refine ⟨?_, slash_notMem_suffix layout⟩
    rw [fileStem, String.toList_ofList, List.mem_map]
    rintro ⟨c, hc, heq⟩
    split at heq
    · cases heq
    · exact h (heq ▸ hc)
  two_lt_length := by
    have hsuffix := two_lt_length_suffix layout
    rw [fileName_eq, String.toList_append, List.length_append]
    omega

/-- All layouts for a language have the same suffix. -/
theorem suffix_eq_of_language {language : Language} {transport transport' : Transport}
    {layout' : Layout} (h : Layout.of language transport = .ok layout)
    (h' : Layout.of language transport' = .ok layout') : layout.suffix = layout'.suffix := by
  cases language with
  | elixir =>
    obtain rfl := Except.ok.inj h
    obtain rfl := Except.ok.inj h'
    rfl
  | erlang =>
    obtain rfl := Except.ok.inj h
    obtain rfl := Except.ok.inj h'
    rfl
  | other name => cases h

/-- For one language, the files have the same name exactly if they are named after the same. -/
theorem fileName_eq_iff {language : Language} {transport transport' : Transport}
    {layout' : Layout} {service' : Service} (h : Layout.of language transport = .ok layout)
    (h' : Layout.of language transport' = .ok layout') :
    fileName layout service = fileName layout' service' ↔
      fileStem service.endpointPrefix = fileStem service'.endpointPrefix := by
  rw [fileName_eq, fileName_eq, suffix_eq_of_language h h', String.append_left_inj]

end ServiceClient.Client
