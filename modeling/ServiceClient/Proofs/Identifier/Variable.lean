import ServiceClient.Proofs.Identifier.Snake
import ServiceClient.Text.Upper

/-!
# Identifiers as variables

An identifier is put into source where a variable has to stand. In Elixir and in Erlang a variable
is a word of ASCII letters, digits and underscores, in Erlang also at signs; it begins with a small
letter in the one and with a capital in the other.

For a name that begins with a letter, snake case always gives such a word. In Erlang the first
character alone is looked at, so the identifier is a variable exactly when the rest of the name was
fit for one: `isVariable_ofName_iff`. A name with a hyphen in it, as headers have, is not.
-/

namespace ServiceClient.Identifier

open Text (isCapital isSmall isDigit toSmall)

/-- Whether a character is an ASCII letter. -/
def isLetter (c : Char) : Bool := isCapital c || isSmall c

/-- Whether a variable may begin with a character. -/
def beginsVariable : Language → Char → Bool
  | .erlang, c => isCapital c
  | _, c => isSmall c

/-- Whether a variable may go on with a character. -/
def continuesVariable : Language → Char → Bool
  | .erlang, c => isCapital c || isSmall c || isDigit c || c = '_' || c = '@'
  | _, c => isSmall c || isDigit c || c = '_'

/-- Whether some characters are a variable. -/
def isVariableText (language : Language) : List Char → Bool
  | [] => false
  | c :: rest => beginsVariable language c && rest.all (continuesVariable language)

/-- Whether an identifier is a variable. -/
def isVariable (language : Language) (ident : String) : Bool :=
  isVariableText language ident.toList

theorem isVariable_ofList (language : Language) (cs : List Char) :
    isVariable language (String.ofList cs) = isVariableText language cs := by
  rw [isVariable, String.toList_ofList]

/-! ### Snake case -/

/-- The first character of a variable in snake case is a small letter. -/
theorem isSmall_toSmall {c : Char} (h : isLetter c = true) : isSmall (toSmall c) = true := by
  rw [toSmall]
  split
  · next hcapital =>
    obtain ⟨hlow, hhigh⟩ := isCapital_iff.1 hcapital
    have hsmall : ∀ n ∈ List.range' 65 26, isSmall (Char.ofNat (n + 32)) = true := by
      decide
    exact hsmall c.toNat (List.mem_range'_1.2 (by omega))
  · next hcapital => simpa [isLetter, hcapital] using h

/-- Text that begins with a letter is a variable in snake case. -/
theorem isVariableText_snakeChars {c : Char} (h : isLetter c = true) (rest : List Char) :
    isVariableText .elixir (snakeChars (c :: rest)) = true := by
  have hword : isWordChar c = true := Bool.or_eq_true_iff.2 (.inl h)
  obtain ⟨later, hsnake⟩ := List.head?_eq_some_iff.1 (head?_snakeChars hword rest)
  have hlater : ∀ d ∈ later, continuesVariable .elixir d = true := by
    intro d hd
    by_cases hunderscore : d = '_'
    · rw [hunderscore]
      rfl
    · have hmem : d ∈ snakeChars (c :: rest) := hsnake ▸ List.mem_cons_of_mem _ hd
      exact Bool.or_eq_true_iff.2 (.inl (isSnakeChar_of_mem_snakeChars hmem hunderscore))
  rw [hsnake, isVariableText, List.all_eq_true.2 hlater, Bool.and_true]
  exact isSmall_toSmall h

/-! ### Capitals in front -/

/-- The upper case of a letter is a capital. -/
theorem exists_upcase_eq {c : Char} (h : isLetter c = true) :
    ∃ d, isCapital d = true ∧ ∀ rest, Text.upcaseFirst (c :: rest) = d :: rest := by
  have hletters : ∀ n ∈ List.range' 65 26 ++ List.range' 97 26,
      (Text.upperCase.apply (Char.ofNat n)).length = 1 ∧
        (Text.upperCase.apply (Char.ofNat n)).all isCapital = true := by
    decide +kernel
  have hbounds : 65 ≤ c.toNat ∧ c.toNat ≤ 90 ∨ 97 ≤ c.toNat ∧ c.toNat ≤ 122 := by
    rwa [isLetter, Bool.or_eq_true, isCapital_iff, isSmall_iff] at h
  obtain ⟨hlength, hcapital⟩ := hletters c.toNat (by
    rw [List.mem_append, List.mem_range'_1, List.mem_range'_1]
    omega)
  obtain ⟨d, happly⟩ := List.length_eq_one_iff.1 hlength
  rw [happly] at hcapital
  rw [Char.ofNat_toNat] at happly
  refine ⟨d, List.all_eq_true.1 hcapital d List.mem_cons_self, fun rest ↦ ?_⟩
  rw [Text.upcaseFirst, happly]
  rfl

/-- Text that begins with a letter is a variable with a capital in front exactly when its other
characters may stand in one. -/
theorem isVariableText_upcaseFirst {c : Char} (h : isLetter c = true) (rest : List Char) :
    isVariableText .erlang (Text.upcaseFirst (c :: rest)) =
      rest.all (continuesVariable .erlang) := by
  obtain ⟨d, hcapital, hupcase⟩ := exists_upcase_eq h
  rw [hupcase, isVariableText]
  show (isCapital d && _) = _
  rw [hcapital, Bool.true_and]

/-! ### Identifiers -/

/-- Reserved names are variables, with and without their suffix. -/
theorem isVariable_of_mem_reserved {language : Language} {r : String} (h : r ∈ reserved language) :
    isVariable language r = true ∧ isVariable language (r ++ suffix language) = true := by
  have helixir : ∀ r ∈ reservedInElixir,
      isVariable .elixir r = true ∧ isVariable .elixir (r ++ "_param") = true := by
    decide +kernel
  have herlang : ∀ r ∈ reservedInErlang,
      isVariable .erlang r = true ∧ isVariable .erlang (r ++ "Param") = true := by
    decide +kernel
  rcases language with - | - | name
  · exact helixir r h
  · exact herlang r h
  · exact helixir r h

/-- The suffix of reserved names makes no difference to whether an identifier is a variable. -/
theorem isVariable_ofName (language : Language) (name : String) :
    isVariable language (ofName language name) = isVariable language (base language name) := by
  rw [ofName]
  split
  · next hmem =>
    obtain ⟨hreserved, hsuffixed⟩ := isVariable_of_mem_reserved hmem
    rw [hreserved, hsuffixed]
  · rfl

/-- The identifier of a name that begins with a letter is a variable in Elixir, whatever else the
name holds. In Erlang it is one exactly when every other character of the name is a letter, a digit,
an underscore or an at sign. -/
theorem isVariable_ofName_iff {name : String} (h : name.toList.head?.any isLetter = true) :
    isVariable .elixir (ofName .elixir name) = true ∧
    (isVariable .erlang (ofName .erlang name) = true ↔
      ∀ c ∈ name.toList.tail, continuesVariable .erlang c = true) := by
  rw [isVariable_ofName, isVariable_ofName]
  show isVariable .elixir (snakeCase name) = true ∧
    (isVariable .erlang (upcaseFirst name) = true ↔ _)
  rw [snakeCase, upcaseFirst, isVariable_ofList, isVariable_ofList]
  rcases hchars : name.toList with - | ⟨c, rest⟩
  · rw [hchars] at h
    cases h
  · rw [hchars] at h
    refine ⟨isVariableText_snakeChars h rest, ?_⟩
    rw [isVariableText_upcaseFirst h, List.all_eq_true, List.tail_cons]

/-- A name of letters alone has identifiers that are variables in both languages. -/
theorem isVariable_ofName_iff_version :
    "versionId".toList.head?.any isLetter = true ∧
    isVariable .elixir (ofName .elixir "versionId") = true ∧
    isVariable .erlang (ofName .erlang "versionId") = true := by
  have hletter : "versionId".toList.head?.any isLetter = true := by decide
  obtain ⟨helixir, herlang⟩ := isVariable_ofName_iff hletter
  have hrest : "versionId".toList.tail.all (continuesVariable .erlang) = true := by decide
  exact ⟨hletter, helixir, herlang.2 (List.all_eq_true.1 hrest)⟩

/-- A name that begins with a letter can have an identifier that is no variable: the hyphens in the
name of a header stay in Erlang. -/
theorem identifier_can_be_no_variable :
    "x-amz-request-payer".toList.head?.any isLetter = true ∧
    ofName .erlang "x-amz-request-payer" = "X-amz-request-payer" ∧
    isVariable .erlang (ofName .erlang "x-amz-request-payer") = false := by
  decide +kernel

end ServiceClient.Identifier
