import ServiceClient.Proofs.Action.Parts
import ServiceClient.Proofs.Identifier.Words

/-!
# Names in snake case

A text is in snake case when it is nothing, or words of small letters and digits with single
underscores between them. Those are the texts that `snakeCase` gives, and the texts that it leaves
alone, so it is a retraction onto them: `snakeCase_retracts`.

Both halves are read off the words of a name. What is left of the pieces are words in snake case
(`isSnake_snakeChars`), and a text in snake case has its own words for pieces, since no small letter
and no digit in it stands before a capital (`snakeWords_intercalate`).
-/

namespace ServiceClient.Identifier

open Text (isCapital isSmall isDigit isBlank toSmall)

/-- Whether a character may stand in a word in snake case. -/
def isSnakeChar (c : Char) : Bool := isSmall c || isDigit c

/-- A word in snake case: one small letter or digit, or more of them. -/
def IsSnakeWord (word : List Char) : Prop := word ≠ [] ∧ ∀ c ∈ word, isSnakeChar c = true

/-- Text in snake case: words with an underscore between neighbours. There need not be any. -/
def IsSnake (cs : List Char) : Prop :=
  ∃ words, (∀ word ∈ words, IsSnakeWord word) ∧ cs = ['_'].intercalate words

/-- The words of a text, in small letters. -/
def snakeWords (cs : List Char) : List (List Char) :=
  (((pieces cs).map (List.filter isWordChar)).filter (· ≠ [])).map (List.map toSmall)

/-! ### Classes of characters -/

theorem isDigit_iff {c : Char} : isDigit c = true ↔ 48 ≤ c.toNat ∧ c.toNat ≤ 57 := by
  simp [isDigit, Char.le_def, UInt32.le_iff_toNat_le]

theorem isSnakeChar_iff {c : Char} :
    isSnakeChar c = true ↔ 97 ≤ c.toNat ∧ c.toNat ≤ 122 ∨ 48 ≤ c.toNat ∧ c.toNat ≤ 57 := by
  rw [isSnakeChar, Bool.or_eq_true, isSmall_iff, isDigit_iff]

/-- The small letter of a character of a word may stand in snake case. -/
theorem isSnakeChar_toSmall {c : Char} (h : isWordChar c = true) :
    isSnakeChar (toSmall c) = true := by
  rw [toSmall]
  split
  · next hcapital =>
    obtain ⟨hlow, hhigh⟩ := isCapital_iff.1 hcapital
    have hsmall : ∀ n ∈ List.range' 65 26, isSnakeChar (Char.ofNat (n + 32)) = true := by
      decide
    exact hsmall c.toNat (List.mem_range'_1.2 (by omega))
  · next hcapital =>
    simpa [isWordChar, isSnakeChar, hcapital] using h

section Classes

variable {c : Char} (h : isSnakeChar c = true)

include h

theorem isCapital_of_isSnakeChar : isCapital c = false := by
  rw [isSnakeChar_iff] at h
  rw [← Bool.not_eq_true, isCapital_iff]
  omega

theorem isWordChar_of_isSnakeChar : isWordChar c = true := by
  rw [isWordChar, Bool.or_assoc]
  exact Bool.or_eq_true_iff.2 (.inr h)

theorem toSmall_of_isSnakeChar : toSmall c = c := by
  rw [toSmall, isCapital_of_isSnakeChar h]
  rfl

end Classes

/-- The digits of ASCII are decimal digits. -/
theorem isDecimalDigit_of_isDigit {c : Char} (h : isDigit c = true) :
    Text.isDecimalDigit c = true := by
  obtain ⟨hlow, hhigh⟩ := isDigit_iff.1 h
  simp only [Text.isDecimalDigit, Text.CharSet.mem, Text.decimalDigits, Text.CharSet.covers]
  rw [if_neg (by omega), decide_eq_true hhigh, Bool.true_or]

/-- What separates words stands in none. -/
theorem isWordChar_of_isSeparator {c : Char} (h : isSeparator c = true) : isWordChar c = false := by
  obtain ⟨hcapital, hsmall, hdecimal⟩ := classes_of_isSeparator h
  have hdigit : isDigit c = false := by
    rw [← Bool.not_eq_true]
    intro hdigit
    rw [isDecimalDigit_of_isDigit hdigit] at hdecimal
    cases hdecimal
  rw [isWordChar, hcapital, hsmall, hdigit]
  rfl

/-! ### The words of a text -/

/-- Snake case joins the words of the text. -/
theorem snakeChars_eq_intercalate (cs : List Char) :
    snakeChars cs = ['_'].intercalate (snakeWords cs) := by
  have hkept : ∀ p ∈ (pieces cs).map (List.filter isWordChar), '_' ∉ p := by
    intro p hp hmem
    obtain ⟨piece, -, rfl⟩ := List.mem_map.1 hp
    exact absurd (List.of_mem_filter hmem) (by decide)
  rw [snakeChars, intercalate_pieces, keepNameChars_intercalate fun p ↦ underscore_notMem_pieces,
    trimUnderscores_mergeUnderscores hkept]
  exact Text.apply_intercalate (fun _ _ ↦ List.map_append) (by decide) _

theorem isSnakeWord_of_mem_snakeWords {cs word : List Char} (h : word ∈ snakeWords cs) :
    IsSnakeWord word := by
  obtain ⟨kept, hkept, rfl⟩ := List.mem_map.1 h
  obtain ⟨hpiece, hne⟩ := List.mem_filter.1 hkept
  obtain ⟨piece, -, rfl⟩ := List.mem_map.1 hpiece
  refine ⟨by simpa using hne, fun c hc ↦ ?_⟩
  obtain ⟨d, hd, rfl⟩ := List.mem_map.1 hc
  exact isSnakeChar_toSmall (List.of_mem_filter hd)

/-- Whatever the text is, snake case gives text in snake case. -/
theorem isSnake_snakeChars (cs : List Char) : IsSnake (snakeChars cs) :=
  ⟨snakeWords cs, fun _ ↦ isSnakeWord_of_mem_snakeWords, snakeChars_eq_intercalate cs⟩

/-! ### What is kept -/

/-- The pieces hold everything but the separators, in order. -/
theorem filter_flatten_pieces (cs : List Char) :
    (pieces cs).flatten.filter isWordChar = cs.filter isWordChar := by
  induction cs with
  | nil => rfl
  | cons c rest ih =>
    rw [pieces]
    split
    · next hseparator =>
      rw [List.flatten_cons, List.nil_append, ih,
        List.filter_cons_of_neg (by simp [isWordChar_of_isSeparator hseparator])]
    · obtain ⟨first, later, hpieces⟩ := List.exists_cons_of_ne_nil (pieces_ne_nil rest)
      have hflatten : (if cutsBefore c rest then [c] :: pieces rest
          else Text.consFirst c (pieces rest)).flatten = c :: (pieces rest).flatten := by
        rw [hpieces]
        split <;> rfl
      rw [hflatten, List.filter_cons, List.filter_cons, ih]

/-- The words hold the letters and the digits of the text, in order. -/
theorem flatten_snakeWords (cs : List Char) :
    (snakeWords cs).flatten = (cs.filter isWordChar).map toSmall := by
  rw [snakeWords, ← List.map_flatten, List.flatten_filter_ne_nil, ← List.filter_flatten,
    filter_flatten_pieces]

/-- Words without underscores are what the underscores between them leave. -/
theorem filter_intercalate {words : List (List Char)} (h : ∀ word ∈ words, '_' ∉ word) :
    (['_'].intercalate words).filter (· ≠ '_') = words.flatten := by
  induction words with
  | nil => rfl
  | cons word later ih =>
    have hword : word.filter (· ≠ '_') = word :=
      List.filter_eq_self.2 fun c hc ↦ by
        simpa using fun heq : c = '_' ↦ h word List.mem_cons_self (heq ▸ hc)
    have hlater := ih fun w hw ↦ h w (List.mem_cons_of_mem word hw)
    cases later with
    | nil => simpa using hword
    | cons next later =>
      rw [List.intercalate_cons_cons, List.filter_append, List.filter_append, hword, hlater]
      simp

theorem IsSnakeWord.underscore_notMem {word : List Char} (h : IsSnakeWord word) : '_' ∉ word :=
  fun hmem ↦ absurd (h.2 '_' hmem) (by decide)

/-- Snake case keeps the letters and the digits, and adds nothing but underscores. -/
theorem filter_snakeChars (cs : List Char) :
    (snakeChars cs).filter (· ≠ '_') = (cs.filter isWordChar).map toSmall := by
  rw [snakeChars_eq_intercalate, filter_intercalate fun word hword ↦
    (isSnakeWord_of_mem_snakeWords hword).underscore_notMem, flatten_snakeWords]

/-- Nothing is left of a text exactly when it has no letters and no digits. -/
theorem snakeChars_eq_nil_iff {cs : List Char} :
    snakeChars cs = [] ↔ ∀ c ∈ cs, isWordChar c = false := by
  have hwords : snakeChars cs = [] ↔ (snakeWords cs).flatten = [] := by
    constructor
    · intro h
      rw [flatten_snakeWords, ← filter_snakeChars, h]
      rfl
    · intro h
      have hnone : snakeWords cs = [] := List.eq_nil_iff_forall_not_mem.2 fun word hword ↦
        (isSnakeWord_of_mem_snakeWords hword).1 (List.flatten_eq_nil_iff.1 h word hword)
      rw [snakeChars_eq_intercalate, hnone]
      rfl
  rw [hwords, flatten_snakeWords, List.map_eq_nil_iff, List.filter_eq_nil_iff]
  simp only [Bool.not_eq_true]

/-- Snake case has no characters but those of words, and underscores. -/
theorem isSnakeChar_of_mem_snakeChars {cs : List Char} {c : Char} (h : c ∈ snakeChars cs)
    (hc : c ≠ '_') : isSnakeChar c = true := by
  have hmem : c ∈ (snakeChars cs).filter (· ≠ '_') := List.mem_filter.2 ⟨h, by simpa using hc⟩
  rw [filter_snakeChars] at hmem
  obtain ⟨d, hd, rfl⟩ := List.mem_map.1 hmem
  exact isSnakeChar_toSmall (List.of_mem_filter hd)

/-- No underscore comes first. -/
theorem IsSnake.head?_ne {cs : List Char} (h : IsSnake cs) : cs.head? ≠ some '_' := by
  obtain ⟨words, hwords, rfl⟩ := h
  match words with
  | [] => simp
  | word :: later =>
    obtain ⟨hne, hchars⟩ := hwords word List.mem_cons_self
    obtain ⟨c, rest, rfl⟩ := List.exists_cons_of_ne_nil hne
    have hc : c ≠ '_' := fun heq ↦ absurd (heq ▸ hchars c List.mem_cons_self) (by decide)
    cases later <;> simpa [List.intercalate_cons_cons] using hc

/-- A letter or a digit at the front stays there. -/
theorem head?_snakeChars {c : Char} (hc : isWordChar c = true) (rest : List Char) :
    (snakeChars (c :: rest)).head? = some (toSmall c) := by
  have hfilter := filter_snakeChars (c :: rest)
  have hhead := (isSnake_snakeChars (c :: rest)).head?_ne
  rw [List.filter_cons_of_pos hc, List.map_cons] at hfilter
  cases hsnake : snakeChars (c :: rest) with
  | nil =>
    rw [hsnake] at hfilter
    cases hfilter
  | cons d later =>
    rw [hsnake] at hfilter hhead
    have hd : d ≠ '_' := by simpa using hhead
    rw [List.filter_cons_of_pos (by simpa using hd)] at hfilter
    rw [List.head?_cons, (List.cons.inj hfilter).1]

/-! ### Texts in snake case -/

/-- Nothing is cut off before a character that is no capital. -/
theorem cutsBefore_eq_false (c : Char) {rest : List Char} (h : rest.head?.any isCapital = false) :
    cutsBefore c rest = false := by
  simp [cutsBefore, endsWord, endsAcronym, h]

/-- A character of a word goes to the first piece of what follows, unless that begins with a
capital. -/
theorem pieces_cons {c : Char} (hc : isSnakeChar c = true) {rest : List Char}
    (h : rest.head?.any isCapital = false) :
    pieces (c :: rest) = Text.consFirst c (pieces rest) := by
  have hseparator : isSeparator c = false := by
    rw [← Bool.not_eq_true]
    intro hseparator
    have hword := isWordChar_of_isSnakeChar hc
    rw [isWordChar_of_isSeparator hseparator] at hword
    cases hword
  rw [pieces, hseparator, cutsBefore_eq_false c h]
  rfl

/-- A word in snake case is a piece, up to the underscore or to the end. -/
theorem pieces_append {word : List Char} (hword : ∀ c ∈ word, isSnakeChar c = true)
    {rest later : List Char} {ps : List (List Char)} (hrest : pieces rest = later :: ps)
    (hhead : rest.head?.any isCapital = false) :
    pieces (word ++ rest) = (word ++ later) :: ps := by
  induction word with
  | nil => exact hrest
  | cons c word ih =>
    have hc := hword c List.mem_cons_self
    have htail : ∀ d ∈ word, isSnakeChar d = true := fun d hd ↦ hword d (List.mem_cons_of_mem c hd)
    have hnext : (word ++ rest).head?.any isCapital = false := by
      cases word with
      | nil => exact hhead
      | cons d word => simpa using isCapital_of_isSnakeChar (htail d List.mem_cons_self)
    rw [List.cons_append, pieces_cons hc hnext, ih htail]
    rfl

/-- Joined words are cut into the same words again. -/
theorem pieces_intercalate {words : List (List Char)} (hne : words ≠ [])
    (h : ∀ word ∈ words, IsSnakeWord word) : pieces (['_'].intercalate words) = words := by
  induction words with
  | nil => exact absurd rfl hne
  | cons word later ih =>
    have hword := (h word List.mem_cons_self).2
    cases later with
    | nil =>
      have hend : pieces [] = [[]] := rfl
      simpa using pieces_append hword hend rfl
    | cons next later =>
      have htail := ih (List.cons_ne_nil next later) fun w hw ↦ h w (List.mem_cons_of_mem word hw)
      have hunderscore :
          pieces ('_' :: ['_'].intercalate (next :: later)) = [] :: next :: later := by
        rw [pieces, if_pos (by decide), htail]
      rw [List.intercalate_cons_cons, List.append_assoc, List.singleton_append,
        pieces_append hword hunderscore (show isCapital '_' = false by decide), List.append_nil]

section Words

variable {words : List (List Char)} (h : ∀ word ∈ words, IsSnakeWord word)

include h

theorem map_filter_isWordChar : words.map (List.filter isWordChar) = words :=
  (List.map_congr_left fun word hword ↦ List.filter_eq_self.2 fun c hc ↦
    isWordChar_of_isSnakeChar ((h word hword).2 c hc)).trans (List.map_id' words)

theorem map_map_toSmall : words.map (List.map toSmall) = words := by
  have hsmall : ∀ word ∈ words, word.map toSmall = word := fun word hword ↦
    (List.map_congr_left fun c hc ↦ toSmall_of_isSnakeChar ((h word hword).2 c hc)).trans
      (List.map_id' word)
  exact (List.map_congr_left hsmall).trans (List.map_id' words)

/-- The words of a text in snake case are those that it is joined from. -/
theorem snakeWords_intercalate : snakeWords (['_'].intercalate words) = words := by
  by_cases hne : words = []
  · rw [hne]
    rfl
  · have hkept : words.filter (· ≠ []) = words :=
      List.filter_eq_self.2 fun word hword ↦ by simpa using (h word hword).1
    rw [snakeWords, pieces_intercalate hne h, map_filter_isWordChar h, hkept, map_map_toSmall h]

end Words

/-- Snake case leaves text in snake case alone. -/
theorem IsSnake.snakeChars_eq {cs : List Char} (h : IsSnake cs) : snakeChars cs = cs := by
  obtain ⟨words, hwords, rfl⟩ := h
  rw [snakeChars_eq_intercalate, snakeWords_intercalate hwords]

/-- Text that snake case leaves alone is in snake case, and no other text is. -/
theorem snakeChars_eq_self_iff {cs : List Char} : snakeChars cs = cs ↔ IsSnake cs :=
  ⟨fun h ↦ h ▸ isSnake_snakeChars cs, IsSnake.snakeChars_eq⟩

instance : DecidablePred IsSnake := fun cs ↦
  decidable_of_iff (snakeChars cs = cs) snakeChars_eq_self_iff

theorem toList_snakeCase (name : String) : (snakeCase name).toList = snakeChars name.toList :=
  String.toList_ofList

theorem snakeCase_eq_self_iff {name : String} : snakeCase name = name ↔ IsSnake name.toList := by
  rw [← String.toList_inj, toList_snakeCase, snakeChars_eq_self_iff]

theorem snakeCase_snakeCase (name : String) : snakeCase (snakeCase name) = snakeCase name := by
  rw [snakeCase_eq_self_iff, toList_snakeCase]
  exact isSnake_snakeChars name.toList

/-- A name in snake case is the name of the function for an operation: the one that has this name
itself. -/
theorem exists_functionName_iff {name : String} : IsSnake name.toList ↔
    ∃ transport language api docs operation definition action,
      Action.compile transport language api docs operation definition = .ok action ∧
        action.functionName = name := by
  constructor
  · intro h
    exact ⟨.rpc, .elixir, .empty, .empty, name, .empty, _, rfl, snakeCase_eq_self_iff.2 h⟩
  · rintro ⟨_, _, _, _, operation, _, action, hcompile, rfl⟩
    rw [(Action.names_of_compile hcompile).2, toList_snakeCase]
    exact isSnake_snakeChars operation.toList

/-- Snake case is a retraction onto the names in snake case. What it gives is such a name, which is
empty just when there was no letter and no digit; the names that it leaves alone are all of them, so
a second time changes nothing; each is the name of the function for some operation; and apart from
underscores the result has the letters and the digits of the name, in small letters and in order. -/
theorem snakeCase_retracts (name : String) :
    IsSnake (snakeCase name).toList ∧
    (snakeCase name = "" ↔ ∀ c ∈ name.toList, isWordChar c = false) ∧
    (snakeCase name = name ↔ IsSnake name.toList) ∧
    snakeCase (snakeCase name) = snakeCase name ∧
    (IsSnake name.toList ↔ ∃ transport language api docs operation definition action,
      Action.compile transport language api docs operation definition = .ok action ∧
        action.functionName = name) ∧
    (snakeCase name).toList.filter (· ≠ '_') = (name.toList.filter isWordChar).map toSmall := by
  refine ⟨?_, ?_, snakeCase_eq_self_iff, snakeCase_snakeCase name, exists_functionName_iff, ?_⟩
  · rw [toList_snakeCase]
    exact isSnake_snakeChars name.toList
  · rw [← String.toList_inj, toList_snakeCase]
    exact snakeChars_eq_nil_iff
  · rw [toList_snakeCase, filter_snakeChars]

example : IsSnake "list_objects_v2".toList ∧ ¬IsSnake "list__objects".toList := by decide

end ServiceClient.Identifier
