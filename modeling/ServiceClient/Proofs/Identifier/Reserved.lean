import ServiceClient.Proofs.Identifier.Clash
import ServiceClient.Proofs.Identifier.Snake
import ServiceClient.Proofs.Text.CaseMap

/-!
# Identifiers that are settled

An identifier is no reserved name, and it is its own identifier: neither of the two ways in which
names become identifiers changes what it has given, and a reserved name with its suffix is in the
style of its language and not reserved itself.
-/

namespace ServiceClient.Identifier

variable {language : Language}

/-- Both styles leave what they have given alone. -/
theorem base_base (language : Language) (name : String) :
    base language (base language name) = base language name := by
  have hupcase : upcaseFirst (upcaseFirst name) = upcaseFirst name := by
    rw [upcaseFirst, upcaseFirst, String.toList_ofList, Text.upcaseFirst_upcaseFirst]
  rcases language with - | - | other
  · exact snakeCase_snakeCase name
  · exact hupcase
  · exact snakeCase_snakeCase name

/-- A reserved name with its suffix is in the style of its language. -/
theorem base_suffixed {r : String} (h : r ∈ reserved language) :
    base language (r ++ suffix language) = r ++ suffix language := by
  have helixir : ∀ r ∈ reservedInElixir, snakeCase (r ++ "_param") = r ++ "_param" := by
    decide +kernel
  have herlang : ∀ r ∈ reservedInErlang, upcaseFirst (r ++ "Param") = r ++ "Param" := by
    decide +kernel
  rcases language with - | - | other
  · exact helixir r h
  · exact herlang r h
  · exact helixir r h

/-- No identifier is a reserved name. -/
theorem ofName_notMem_reserved (language : Language) (name : String) :
    ofName language name ∉ reserved language := by
  by_cases h : base language name ∈ reserved language
  · rw [ofName_of_mem h]
    exact suffixed_not_mem_reserved h
  · rwa [ofName_of_not_mem h]

/-- An identifier is its own base. -/
theorem base_ofName (language : Language) (name : String) :
    base language (ofName language name) = ofName language name := by
  by_cases h : base language name ∈ reserved language
  · rw [ofName_of_mem h, base_suffixed h]
  · rw [ofName_of_not_mem h, base_base]

/-- An identifier is its own identifier. -/
theorem ofName_ofName (language : Language) (name : String) :
    ofName language (ofName language name) = ofName language name := by
  have hbase := base_ofName language name
  have hfree := ofName_notMem_reserved language name
  rw [ofName_of_not_mem (by rwa [hbase]), hbase]

end ServiceClient.Identifier
