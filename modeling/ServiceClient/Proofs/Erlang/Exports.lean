import ServiceClient.Proofs.Client.Heads
import ServiceClient.Proofs.Erlang.CodeLines

/-!
# Export attributes

What an Erlang module exports is read off the lines of code in its text. A line exports functions if
an attribute that begins with `-export(` stands in it, wherever in the line that is, and the line
after it does too where it ends with a comma; the words in such a line that are a name and an arity
are the exports. The lines of the attribute that the layout writes list its exports and nothing else
(`readExports_exportLines`): names in snake case hold none of the characters that separate words.
-/

namespace ServiceClient

/-! ### Names in snake case -/

namespace Identifier

theorem mem_of_mem_mergeUnderscores {c : Char} {cs : List Char} (h : c ∈ mergeUnderscores cs) :
    c ∈ cs := by
  induction cs with
  | nil => exact h
  | cons d rest ih =>
    rw [mergeUnderscores] at h
    split at h
    · exact List.mem_cons_of_mem d (ih h)
    · rcases List.mem_cons.1 h with rfl | h
      · exact List.mem_cons_self
      · exact List.mem_cons_of_mem d (ih h)

theorem mem_of_mem_trimUnderscores {c : Char} {cs : List Char} (h : c ∈ trimUnderscores cs) :
    c ∈ cs := by
  rw [trimUnderscores, List.mem_reverse] at h
  have hfront := (List.dropWhile_sublist _).subset h
  rw [List.mem_reverse] at hfront
  exact (List.dropWhile_sublist _).subset hfront

/-- The small letter of a character that may stand in an identifier may stand there too. -/
theorem isNameChar_toSmall {c : Char} (h : isNameChar c = true) :
    isNameChar (Text.toSmall c) = true := by
  rw [Text.toSmall]
  split
  · next hcapital =>
    have hbounds : 65 ≤ c.toNat ∧ c.toNat ≤ 90 := by
      simpa [Text.isCapital, Char.le_def, UInt32.le_iff_toNat_le] using hcapital
    have hsmall : ∀ n ∈ List.range' 65 26, isNameChar (Char.ofNat (n + 32)) = true := by
      decide +kernel
    exact hsmall c.toNat (List.mem_range'_1.2 (by omega))
  · exact h

/-- A character that may stand in an identifier is not blank. -/
theorem isBlank_eq_false_of_isNameChar {c : Char} (h : isNameChar c = true) :
    Text.isBlank c = false := by
  have hsmall : c.toNat < 128 := by
    simp only [isNameChar, Text.isCapital, Text.isSmall, Text.isDigit, Char.le_def,
      UInt32.le_iff_toNat_le, Bool.or_eq_true, Bool.and_eq_true, decide_eq_true_eq] at h
    rcases h with ((⟨-, h⟩ | ⟨-, h⟩) | ⟨-, h⟩) | rfl
    · exact lt_of_le_of_lt h (by decide)
    · exact lt_of_le_of_lt h (by decide)
    · exact lt_of_le_of_lt h (by decide)
    · decide
  have htable : ∀ n < 128, isNameChar (Char.ofNat n) = true →
      Text.isBlank (Char.ofNat n) = false := by decide +kernel
  simpa using htable c.toNat hsmall (by simpa using h)

/-- A name in snake case consists of characters that may stand in an identifier. -/
theorem isNameChar_of_mem_snakeCase {c : Char} {name : String} (h : c ∈ (snakeCase name).toList) :
    isNameChar c = true := by
  rw [snakeCase, String.toList_ofList, snakeChars, List.mem_map] at h
  obtain ⟨d, hd, rfl⟩ := h
  have hkept := mem_of_mem_mergeUnderscores (mem_of_mem_trimUnderscores hd)
  exact isNameChar_toSmall (List.mem_filter.1 hkept).2

end Identifier

namespace Erlang

/-! ### Reading exports -/

/-- Whether a character separates the words of an attribute. -/
def separatesWords (c : Char) : Bool := c ∈ ['(', ')', '[', ']', ',', '.', ' ']

/-- The export that a word is, which is a name and an arity. -/
def readExport (word : List Char) : Option Export :=
  match word.splitOn '/' with
  | [name, arity] =>
    if arity.all Text.isDigit then some ⟨String.ofList name, Text.natOfDigits arity⟩ else none
  | _ => none

/-- The exports among the words of a line. -/
def exportsOfLine (line : List Char) : List Export :=
  (line.splitOnP separatesWords).filterMap readExport

/-- What an attribute begins with that exports functions. -/
def exportSign : List Char := "-export(".toList

/-- Whether an attribute that exports functions begins somewhere in a line. -/
def holdsExports (line : List Char) : Bool := exportSign <:+: line

/-- The exports in the attributes among some lines. The flag tells that an attribute goes on from
the line before, which it does after a comma. -/
def readExports : Bool → List (List Char) → List Export
  | _, [] => []
  | goesOn, line :: rest =>
    if goesOn || holdsExports line then
      exportsOfLine line ++ readExports (line.getLast? = some ',') rest
    else readExports false rest

/-- The exports in the lines of code in a text. -/
def exportsIn (isBreak : Char → Bool) (text : String) : List Export :=
  readExports false (codeLines isBreak text.toList)

/-- An export as it is written in an attribute. -/
def Export.write (e : Export) : String := e.name ++ "/" ++ toString e.arity

/-- An export whose name is made of characters that may stand in an identifier. -/
def Export.IsNamed (e : Export) : Prop := ∀ c ∈ e.name.toList, Identifier.isNameChar c = true

/-! ### Words -/

theorem separatesWords_of_isNameChar {c : Char} (h : Identifier.isNameChar c = true) :
    separatesWords c = false := by
  have hnone : (['(', ')', '[', ']', ',', '.', ' '].all fun c ↦ !Identifier.isNameChar c) =
      true := by
    decide
  refine decide_eq_false fun hmem ↦ ?_
  have hc := List.all_eq_true.1 hnone c hmem
  rw [h] at hc
  exact Bool.false_ne_true hc

theorem isDigit_of_mem_toString {c : Char} {n : Nat} (h : c ∈ (toString n).toList) :
    Text.isDigit c = true := by
  rw [Nat.toString_eq_repr, Nat.toList_repr] at h
  exact Nat.isDigit_of_mem_toDigits (by decide) (by decide) h

/-- The digits of an arity may stand in an identifier. -/
theorem isNameChar_of_mem_toString {c : Char} {n : Nat} (h : c ∈ (toString n).toList) :
    Identifier.isNameChar c = true := by
  rw [Identifier.isNameChar, isDigit_of_mem_toString h, Bool.or_true, Bool.true_or]

/-- The digits of a number write that number. -/
theorem natOfDigits_toString (n : Nat) : Text.natOfDigits (toString n).toList = n := by
  have hfold : Text.natOfDigits (toString n).toList =
      Nat.ofDigitChars 10 (Nat.toDigits 10 n) 0 := by
    rw [Nat.ofDigitChars_eq_foldl, Nat.toString_eq_repr, Nat.toList_repr, Text.natOfDigits]
    simp only [Nat.mul_comm]
    rfl
  rw [hfold, Nat.ofDigitChars_ten_toDigits]

theorem toList_write (e : Export) :
    e.write.toList = e.name.toList ++ '/' :: (toString e.arity).toList := by
  simp [Export.write]

/-- A written export is one word. -/
theorem Export.IsNamed.separatesWords_eq {e : Export} (h : e.IsNamed) :
    ∀ c ∈ e.write.toList, separatesWords c = false := by
  intro c hc
  rw [toList_write, List.mem_append, List.mem_cons] at hc
  obtain hc | rfl | hc := hc
  · exact separatesWords_of_isNameChar (h c hc)
  · decide
  · exact separatesWords_of_isNameChar (isNameChar_of_mem_toString hc)

/-- The word that an export is written as is read as that export. -/
theorem readExport_write {e : Export} (h : e.IsNamed) : readExport e.write.toList = some e := by
  have hslash {c : Char} (hc : Identifier.isNameChar c = true) : (c == '/') = false := by
    rw [beq_eq_false_iff_ne]
    rintro rfl
    exact absurd hc (by decide)
  have hname : e.name.toList.splitOnP (· == '/') = [e.name.toList] :=
    List.splitOnP_eq_singleton fun c hc ↦ hslash (h c hc)
  have harity : (toString e.arity).toList.splitOnP (· == '/') = [(toString e.arity).toList] :=
    List.splitOnP_eq_singleton fun c hc ↦ hslash (isNameChar_of_mem_toString hc)
  have hsplit : e.write.toList.splitOn '/' = [e.name.toList, (toString e.arity).toList] := by
    have hsep : (· == '/') '/' = true := beq_self_eq_true '/'
    have happend := List.splitOnP_append_cons (p := (· == '/')) e.name.toList
      (toString e.arity).toList hsep
    rw [toList_write, List.splitOn_eq_splitOnP, happend, hname, harity]
    rfl
  have hdigits : (toString e.arity).toList.all Text.isDigit = true :=
    List.all_eq_true.2 fun c hc ↦ isDigit_of_mem_toString hc
  rw [readExport, hsplit]
  simp only [hdigits, if_true, String.ofList_toList, natOfDigits_toString]

theorem exportsOfLine_append_cons {c : Char} (hc : separatesWords c = true)
    (before after : List Char) :
    exportsOfLine (before ++ c :: after) = exportsOfLine before ++ exportsOfLine after := by
  rw [exportsOfLine, List.splitOnP_append_cons before after hc, List.filterMap_append]
  rfl

/-- The exports of a line are not changed by a character in front that separates words. -/
theorem exportsOfLine_cons {c : Char} (hc : separatesWords c = true) (line : List Char) :
    exportsOfLine (c :: line) = exportsOfLine line :=
  exportsOfLine_append_cons hc [] line

theorem exportsOfLine_spaces (n : Nat) (line : List Char) :
    exportsOfLine ((Source.spaces n).toList ++ line) = exportsOfLine line := by
  rw [Source.toList_spaces]
  induction n with
  | zero => rfl
  | succ n ih => rw [List.replicate_succ, List.cons_append, exportsOfLine_cons (by decide), ih]

/-- A line that holds an export, which characters follow that separate words, holds no other. -/
theorem exportsOfLine_write {e : Export} (h : e.IsNamed) {after : List Char}
    (hafter : after.all separatesWords = true) :
    exportsOfLine (e.write.toList ++ after) = [e] := by
  induction after using List.reverseRecOn with
  | nil =>
    rw [List.append_nil, exportsOfLine, List.splitOnP_eq_singleton h.separatesWords_eq]
    simp [readExport_write h]
  | append_singleton after c ih =>
    rw [List.all_append, Bool.and_eq_true] at hafter
    have hc : separatesWords c = true := by simpa using hafter.2
    rw [← List.append_assoc, exportsOfLine_append_cons hc, ih hafter.1]
    rfl

/-! ### Attributes -/

/-- The lines of an attribute from an export on, the first of which begins with the given text. -/
def attributeLines (lead : String) (e : Export) : List Export → List String
  | [] => [lead ++ (e.write ++ "]).")]
  | next :: later => (lead ++ (e.write ++ ",")) :: attributeLines (Source.spaces 9) next later

theorem write_ne_empty (e : Export) : e.write ≠ "" := by
  intro h
  have hchars := congrArg String.toList h
  rw [toList_write] at hchars
  simp at hchars

/-- Written exports with commas between them are the lines of an attribute, once the last line is
closed. -/
theorem exists_closed_eq_attributeLines (lead : String) (e : Export) (es : List Export) :
    ∃ first rest, Source.commaSeparated ((e :: es).map Export.write) = first :: rest ∧
      first ≠ "" ∧
      let lines := (lead ++ first) :: Source.indent 9 rest
      lines.dropLast ++ (lines.getLast?.map (· ++ "]).")).toList = attributeLines lead e es := by
  induction es generalizing lead e with
  | nil =>
    refine ⟨e.write, [], rfl, write_ne_empty e, ?_⟩
    simp [Source.indent, attributeLines, String.append_assoc]
  | cons next later ih =>
    obtain ⟨first, rest, hlines, hne, hclosed⟩ := ih (Source.spaces 9) next
    have hcomma : Source.commaSeparated ((e :: next :: later).map Export.write) =
        (e.write ++ ",") :: first :: rest := by
      rw [← hlines]
      rfl
    refine ⟨e.write ++ ",", first :: rest, hcomma, by simp [String.append_eq_empty_iff], ?_⟩
    have hindent : Source.indent 9 (first :: rest) =
        (Source.spaces 9 ++ first) :: Source.indent 9 rest := by
      rw [Source.indent, List.map_cons, if_neg hne]
      rfl
    rw [attributeLines, ← hclosed, hindent]
    rfl

/-- The lines of an attribute with some exports. -/
theorem exportLines_cons (e : Export) (es : List Export) :
    Module.exportLines (e :: es) = attributeLines "-export([" e es := by
  obtain ⟨first, rest, hlines, -, hclosed⟩ := exists_closed_eq_attributeLines "-export([" e es
  have hwrite : (fun e : Export ↦ e.name ++ "/" ++ toString e.arity) = Export.write := rfl
  rw [Module.exportLines, hwrite, hlines]
  exact hclosed

/-- The lines of an attribute list its exports. The induction is on the exports that follow, each of
which stands in a line that the one before has announced with its comma. -/
theorem readExports_attributeLines {lead : String} {goesOn : Bool}
    (hlead : ∀ line, exportsOfLine (lead.toList ++ line) = exportsOfLine line)
    (hgoesOn : ∀ line, (goesOn || holdsExports (lead.toList ++ line)) = true) {e : Export}
    {es : List Export} (he : e.IsNamed) (hes : ∀ x ∈ es, x.IsNamed) (later : List (List Char)) :
    readExports goesOn ((attributeLines lead e es).map String.toList ++ later) =
      e :: es ++ readExports false later := by
  induction es generalizing lead goesOn e with
  | nil =>
    have hline : exportsOfLine (lead.toList ++ (e.write ++ "]).").toList) = [e] := by
      rw [hlead, String.toList_append]
      exact exportsOfLine_write he rfl
    have hlast : (lead.toList ++ (e.write ++ "]).").toList).getLast? ≠ some ',' := by simp
    rw [attributeLines, List.map_singleton, String.toList_append, List.singleton_append,
      readExports, if_pos (hgoesOn _), hline, decide_eq_false hlast]
  | cons next following ih =>
    have hline : exportsOfLine (lead.toList ++ (e.write ++ ",").toList) = [e] := by
      rw [hlead, String.toList_append]
      exact exportsOfLine_write he rfl
    have hlast : (lead.toList ++ (e.write ++ ",").toList).getLast? = some ',' := by simp
    obtain ⟨hnext, hfollowing⟩ := List.forall_mem_cons.1 hes
    rw [attributeLines, List.map_cons, String.toList_append, List.cons_append, readExports,
      if_pos (hgoesOn _), hline, decide_eq_true hlast,
      ih (exportsOfLine_spaces 9) (fun _ ↦ rfl) hnext hfollowing]
    rfl

/-- The attribute for some exports lists them, whatever stands before it. -/
theorem readExports_exportLines (goesOn : Bool) {e : Export} {es : List Export}
    (h : ∀ x ∈ e :: es, x.IsNamed) (later : List (List Char)) :
    readExports goesOn ((Module.exportLines (e :: es)).map String.toList ++ later) =
      e :: es ++ readExports false later := by
  obtain ⟨he, hes⟩ := List.forall_mem_cons.1 h
  have hlead : ∀ line, exportsOfLine ("-export([".toList ++ line) = exportsOfLine line := by
    intro line
    have hword := exportsOfLine_append_cons (c := '(') (by decide) "-export".toList ('[' :: line)
    rw [exportsOfLine_cons (by decide)] at hword
    exact hword
  have hholds : ∀ line, (goesOn || holdsExports ("-export([".toList ++ line)) = true := by
    intro line
    have hsign : exportSign <:+: "-export([".toList ++ line := ⟨[], '[' :: line, rfl⟩
    rw [holdsExports, decide_eq_true hsign, Bool.or_true]
  rw [exportLines_cons]
  exact readExports_attributeLines hlead hholds he hes later

/-- The attributes for some entries list what they export, in order. -/
theorem exists_readExports_flatMap {entries : List Entry}
    (h : ∀ e ∈ entries, ∀ x ∈ e.exports, x.IsNamed) (goesOn : Bool) (later : List (List Char)) :
    ∃ stillOn, (goesOn = false → stillOn = false) ∧
      readExports goesOn ((entries.flatMap fun e ↦ Module.exportLines e.exports).map
        String.toList ++ later) =
      entries.flatMap Entry.exports ++ readExports stillOn later := by
  induction entries generalizing goesOn with
  | nil => exact ⟨goesOn, id, rfl⟩
  | cons e entries ih =>
    obtain ⟨he, hentries⟩ := List.forall_mem_cons.1 h
    rw [List.flatMap_cons, List.flatMap_cons, List.map_append, List.append_assoc]
    cases hexports : e.exports with
    | nil => exact ih hentries goesOn
    | cons x xs =>
      rw [hexports] at he
      obtain ⟨stillOn, hstill, hread⟩ := ih hentries false
      rw [readExports_exportLines goesOn he, hread, ← List.append_assoc]
      exact ⟨stillOn, fun _ ↦ hstill rfl, rfl⟩

/-! ### Lines of code -/

/-- A character of a written export is not blank. -/
theorem Export.IsNamed.isBlank_eq_false {e : Export} (h : e.IsNamed) :
    ∀ c ∈ e.write.toList, Text.isBlank c = false := by
  intro c hc
  rw [toList_write, List.mem_append, List.mem_cons] at hc
  obtain hc | rfl | hc := hc
  · exact Identifier.isBlank_eq_false_of_isNameChar (h c hc)
  · decide
  · exact Identifier.isBlank_eq_false_of_isNameChar (isNameChar_of_mem_toString hc)

/-- The lines of an attribute are lines of code. -/
theorem codeLines_of_mem_attributeLines {isBreak : Char → Bool} (h : EndsLines isBreak)
    {lead : String} (hlead : ∀ c ∈ lead.toList, isBreak c = false)
    (hcode : ∀ line, isCodeless (lead.toList ++ line) = false) {e : Export} {es : List Export}
    (he : e.IsNamed) (hes : ∀ x ∈ es, x.IsNamed) :
    ∀ line ∈ attributeLines lead e es, codeLines isBreak line.toList = [line.toList] := by
  have hline {lead : String} (hlead : ∀ c ∈ lead.toList, isBreak c = false)
      (hcode : ∀ line, isCodeless (lead.toList ++ line) = false) {e : Export} (he : e.IsNamed)
      {ending : String} (hending : ending.toList.all (!Text.isBlank ·) = true) :
      codeLines isBreak (lead ++ (e.write ++ ending)).toList =
        [(lead ++ (e.write ++ ending)).toList] := by
    refine codeLines_singleton (fun c hc ↦ ?_) (by rw [String.toList_append]; exact hcode _)
    simp only [String.toList_append, List.mem_append] at hc
    obtain hc | hc | hc := hc
    · exact hlead c hc
    · exact h.isBreak_eq_false (.inr (he.isBlank_eq_false c hc))
    · exact h.isBreak_eq_false (.inr (by simpa using List.all_eq_true.1 hending c hc))
  induction es generalizing lead e with
  | nil => exact List.forall_mem_singleton.2 (hline hlead hcode he (by decide))
  | cons next following ih =>
    obtain ⟨hnext, hfollowing⟩ := List.forall_mem_cons.1 hes
    have hspaces : ∀ c ∈ (Source.spaces 9).toList, isBreak c = false := by
      intro c hc
      rw [Source.toList_spaces] at hc
      exact h.isBreak_eq_false (.inl (List.eq_of_mem_replicate hc))
    exact List.forall_mem_cons.2 ⟨hline hlead hcode he (by decide),
      ih hspaces (fun _ ↦ rfl) hnext hfollowing⟩

theorem codeLines_of_mem_exportLines {isBreak : Char → Bool} (h : EndsLines isBreak)
    {exports : List Export} (hexports : ∀ e ∈ exports, e.IsNamed) :
    ∀ line ∈ Module.exportLines exports, codeLines isBreak line.toList = [line.toList] := by
  cases exports with
  | nil => simp [Module.exportLines, Source.commaSeparated]
  | cons e es =>
    obtain ⟨he, hes⟩ := List.forall_mem_cons.1 hexports
    have hink : "-export([".toList.all (!Text.isBlank ·) = true := by decide
    have hbreak : ∀ c ∈ "-export([".toList, isBreak c = false := fun c hc ↦
      h.isBreak_eq_false (.inr (by simpa using List.all_eq_true.1 hink c hc))
    rw [exportLines_cons]
    exact codeLines_of_mem_attributeLines h hbreak (fun _ ↦ rfl) he hes

/-! ### Lines before an attribute -/

/-- Lines that hold no attribute have no exports. -/
theorem readExports_append {lines : List (List Char)}
    (h : ∀ line ∈ lines, holdsExports line = false) (later : List (List Char)) :
    readExports false (lines ++ later) = readExports false later := by
  induction lines with
  | nil => rfl
  | cons line lines ih =>
    obtain ⟨hline, hlines⟩ := List.forall_mem_cons.1 h
    rw [List.cons_append, readExports, hline, ih hlines]
    rfl

/-- Whatever lines stand before, the later ones are read. -/
theorem exists_readExports_sublist (goesOn : Bool) (lines later : List (List Char)) :
    ∃ stillOn, (readExports stillOn later).Sublist (readExports goesOn (lines ++ later)) := by
  induction lines generalizing goesOn with
  | nil => exact ⟨goesOn, List.Sublist.refl _⟩
  | cons line lines ih =>
    rw [List.cons_append, readExports]
    split
    · obtain ⟨stillOn, hsublist⟩ := ih (line.getLast? = some ',')
      exact ⟨stillOn, hsublist.trans (List.sublist_append_right _ _)⟩
    · exact ih false

/-- The exports of a line that holds an attribute are exports of the text. -/
theorem mem_exportsIn {isBreak : Char → Bool} {text : String} {line : List Char}
    (hline : line ∈ codeLines isBreak text.toList) (hholds : holdsExports line = true) {x : Export}
    (hx : x ∈ exportsOfLine line) : x ∈ exportsIn isBreak text := by
  obtain ⟨before, later, hlines⟩ := List.mem_iff_append.1 hline
  obtain ⟨stillOn, hsublist⟩ := exists_readExports_sublist false before (line :: later)
  rw [exportsIn, hlines]
  refine hsublist.subset ?_
  rw [readExports, hholds, Bool.or_true, if_pos rfl]
  exact List.mem_append_left _ hx

end Erlang

end ServiceClient
