import ServiceClient.Doc.Entry
import ServiceClient.Proofs.Doc.Lines
import ServiceClient.Proofs.Json.Typed
import ServiceClient.Proofs.Markup.Entity

/-!
# Entries and their blocks

The block for an entry is the lines of its markup, laid out. A documentation spec is readable when
every entry that it can be asked for is null or markup whose references fit; then every entry has a
block.
-/

namespace ServiceClient.Doc

/-- An entry is null, or markup whose references fit once the tags are gone. -/
def IsReadable : Json → Prop
  | .null => True
  | .str markup =>
    Markup.Entity.ReferencesFit (Markup.removeTags (Markup.breakParagraphs markup.toList))
  | _ => False

instance : DecidablePred IsReadable
  | .null => .isTrue trivial
  | .str _ => inferInstanceAs (Decidable (Markup.Entity.ReferencesFit _))
  | .bool _ => .isFalse id
  | .int _ => .isFalse id
  | .float _ => .isFalse id
  | .arr _ => .isFalse id
  | .obj _ => .isFalse id

/-- A documentation spec whose entries are readable. -/
structure IsReadableSpec (docs : Json) : Prop where
  /-- The spec is an object. -/
  isObj : docs.IsObj
  /-- The entry of the service is readable. -/
  service : IsReadable (docs.valueAt "service")
  /-- The entries of the operations are fields of an object. -/
  operations_isObj : (docs.part "operations").IsObj
  /-- The entries of the operations are readable. -/
  operations : ∀ field ∈ (docs.part "operations").entries, IsReadable field.2

variable {language : Language}

/-- The lines that the markup of an entry is filled into. -/
def filledLines : Json → Except Markup.Entity.TooManyDigits (List (List Char))
  | .str markup => (Markup.plainChars markup.toList).map lines
  | _ => .ok []

/-- No text fills no lines. -/
theorem lines_nil : lines [] = [] := by
  simp [lines, Text.splitParagraphs, Text.wrap, Text.chunks, Text.chunksAfter, Text.fill, Text.work]

/-- An entry that has no markup fills no lines. -/
theorem filledLines_of_not_given {entry : Json} (h : entry.given = false) :
    filledLines entry = .ok [] := by
  cases entry with
  | str markup =>
    obtain rfl : markup = "" := by simpa [Json.given] using h
    have hplain : Markup.plainChars "".toList = .ok [] := rfl
    rw [filledLines, hplain, except_map_ok, lines_nil]
  | _ => rfl

/-- A block is the lines of the entry, laid out, and the only blank in them is the space. -/
theorem exists_filledLines {entry : Json} {block : String}
    (h : blockOf language entry = .ok block) :
    ∃ ls, filledLines entry = .ok ls ∧ block = String.ofList (layOut language ls) ∧
      ∀ line ∈ ls, ∀ c ∈ line, Text.isBlank c = true → c = ' ' := by
  unfold blockOf at h
  split at h
  · next hgiven =>
    refine ⟨[], filledLines_of_not_given (by simpa using hgiven), ?_, by simp⟩
    rw [← Except.ok.inj h]
    cases language <;> rfl
  · split at h
    · next markup _ =>
      split at h
      · next text htext =>
        obtain ⟨plain, hplain, hblock⟩ := bind_eq_ok_iff.1 htext
        refine ⟨lines plain, ?_, ?_, fun line hline c hc ↦ eq_space_of_mem_lines hplain hline hc⟩
        · rw [filledLines, hplain, except_map_ok]
        · rw [← Except.ok.inj h, ← Except.ok.inj hblock]
      · cases h
    · cases h

/-- A readable entry has a block. -/
theorem exists_blockOf (language : Language) {entry : Json} (h : IsReadable entry) :
    ∃ text, blockOf language entry = .ok text := by
  unfold blockOf
  split
  · exact ⟨"", rfl⟩
  · cases entry with
    | str markup =>
      obtain ⟨decoded, hdecoded⟩ := Markup.Entity.exists_decode h
      refine ⟨String.ofList (layOut language
        (lines (Text.joinParagraphs (Markup.paragraphs decoded)))), ?_⟩
      simp only [block, Markup.plainChars, hdecoded, ok_bind, pure_eq_ok]
    | null => simp [Json.given] at *
    | _ => cases h

namespace IsReadableSpec

variable {docs : Json}

/-- Every operation has an entry, which has a block. -/
theorem exists_operationBlock (h : IsReadableSpec docs) (language : Language) (name : String) :
    ∃ entry text, operationEntry docs name = .ok entry ∧ blockOf language entry = .ok text := by
  have hreadable : IsReadable ((docs.part "operations").valueAt name) := by
    obtain hnull | ⟨field, hfield, heq⟩ :=
      Json.lookup_getD_cases (docs.part "operations").entries name .null
    · rw [Json.valueAt, hnull]
      trivial
    · rw [Json.valueAt, heq]
      exact h.operations field hfield
  obtain ⟨text, htext⟩ := exists_blockOf language hreadable
  refine ⟨_, text, ?_, htext⟩
  rw [operationEntry, h.isObj.fieldOrEmpty_eq, ok_bind, h.operations_isObj.field_eq]

/-- The service has an entry, which has a block. -/
theorem exists_serviceBlock (h : IsReadableSpec docs) (language : Language) :
    ∃ entry text, docs.field "service" = .ok entry ∧ blockOf language entry = .ok text := by
  obtain ⟨text, htext⟩ := exists_blockOf language h.service
  exact ⟨_, text, h.isObj.field_eq "service", htext⟩

end IsReadableSpec

end ServiceClient.Doc
