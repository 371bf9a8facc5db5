import Mathlib.Data.List.TakeWhile
import ServiceClient.Markup.Plain
import ServiceClient.Proofs.Outcome
import ServiceClient.Proofs.Text.Split
import ServiceClient.Proofs.Text.Tidy

/-!
# Plain text

Tags are removed in one pass, and the pass leaves none: a `<` that is kept has a `>` right after it,
or none at all in what follows, and removing more cannot change that (`tagless_removeTagsFrom`). The
passes after it only drop and replace blanks, so no tag comes together in them either, as long as
there are no references that a tag could come out of.

What comes out are tidy paragraphs with a blank line between neighbours. Such a text is plain
already: when it has neither tags nor references, none of the passes finds anything in it, and it is
its own plain text (`plainChars_eq_self_iff`).
-/

namespace ServiceClient.Markup

open Text (isBlank IsTidyText Thinned joinParagraphs splitParagraphs)

/-- There is a tag in a text: some characters other than `>`, at least one, between a `<` and a
`>`. -/
def HasTag (cs : List Char) : Prop :=
  ∃ before name after, cs = before ++ '<' :: (name ++ '>' :: after) ∧ name ≠ [] ∧ '>' ∉ name

/-- Wherever a `<` stands in a text, a `>` that follows does so at once. -/
def Tagless (cs : List Char) : Prop :=
  ∀ rest, '<' :: rest <:+ cs → '>' ∈ rest → rest.head? = some '>'

/-- A text is tidy paragraphs, none of them empty, with a blank line between neighbours. There need
not be any. -/
def IsPlain (cs : List Char) : Prop :=
  ∃ paragraphs : List (List Char),
    (∀ p ∈ paragraphs, p ≠ [] ∧ IsTidyText p) ∧ cs = ['\n', '\n'].intercalate paragraphs

variable {cs ds : List Char} {c : Char}

/-! ### Tags -/

theorem tagless_cons_iff :
    Tagless (c :: cs) ↔ (c = '<' → '>' ∈ cs → cs.head? = some '>') ∧ Tagless cs := by
  constructor
  · intro h
    refine ⟨?_, fun rest hsuffix ↦ h rest (hsuffix.trans (List.suffix_cons c cs))⟩
    rintro rfl
    exact h cs List.suffix_rfl
  · rintro ⟨hfirst, hlater⟩ rest hsuffix
    rcases List.suffix_cons_iff.1 hsuffix with heq | hsuffix
    · obtain ⟨rfl, rfl⟩ := List.cons.inj heq
      exact hfirst rfl
    · exact hlater rest hsuffix

/-- No `<` has a `>` after it that is not right after it, exactly when there is no tag. -/
theorem tagless_iff : Tagless cs ↔ ¬HasTag cs := by
  constructor
  · rintro h ⟨before, name, after, rfl, hne, hname⟩
    have hnext := h (name ++ '>' :: after) (List.suffix_append before _) (by simp)
    obtain ⟨c, name, rfl⟩ := List.exists_cons_of_ne_nil hne
    rw [List.cons_append, List.head?_cons] at hnext
    exact hname (Option.some.inj hnext ▸ List.mem_cons_self)
  · rintro h rest ⟨before, rfl⟩ hmem
    obtain ⟨name, after, rfl, hname⟩ := List.eq_append_cons_of_mem hmem
    by_cases hne : name = []
    · rw [hne]
      rfl
    · exact absurd ⟨before, name, after, rfl, hne, hname⟩ h

theorem tag?_of_ne (h : c ≠ '<') (cs : List Char) : tag? (c :: cs) = none := by
  rw [tag?]
  exact fun rest heq ↦ h (List.cons.inj heq).1

/-- No tag starts with a `<` that a `>` follows at once or not at all. -/
theorem tag?_lt_eq_none_iff : tag? ('<' :: cs) = none ↔ ('>' ∈ cs → cs.head? = some '>') := by
  rw [tag?, ite_eq_left_iff, imp_iff_not (by simp), not_not]
  constructor
  · rintro (hempty | hlength) hmem
    · cases cs with
      | nil => cases hmem
      | cons d cs => simpa using hempty
    · have hall := (List.takeWhile_prefix (· ≠ '>')).eq_of_length hlength
      exact absurd (List.takeWhile_eq_self_iff.1 hall _ hmem) (by decide)
  · intro h
    by_cases hmem : '>' ∈ cs
    · obtain ⟨rest, rfl⟩ := List.head?_eq_some_iff.1 (h hmem)
      exact .inl rfl
    · refine .inr (congrArg List.length (List.takeWhile_eq_self_iff.2 fun d hd ↦ ?_))
      simpa using fun heq : d = '>' ↦ hmem (heq ▸ hd)

theorem tag?_eq_none_iff :
    tag? (c :: cs) = none ↔ (c = '<' → '>' ∈ cs → cs.head? = some '>') := by
  by_cases hc : c = '<'
  · subst hc
    rw [tag?_lt_eq_none_iff]
    exact ⟨fun h _ ↦ h, fun h ↦ h rfl⟩
  · exact ⟨fun _ h ↦ absurd h hc, fun _ ↦ tag?_of_ne hc cs⟩

theorem mem_of_mem_removeTagsFrom {skip : Nat} (h : c ∈ removeTagsFrom skip cs) : c ∈ cs := by
  fun_induction removeTagsFrom skip cs with
  | case1 => cases h
  | case2 skip d rest ih => exact List.mem_cons_of_mem d (ih h)
  | case3 d rest length _ ih => exact List.mem_cons_of_mem d (ih h)
  | case4 d rest _ ih =>
    rcases List.mem_cons.1 h with rfl | h
    · exact List.mem_cons_self
    · exact List.mem_cons_of_mem d (ih h)

/-- Removing the tags leaves none. -/
theorem tagless_removeTagsFrom (skip : Nat) (cs : List Char) :
    Tagless (removeTagsFrom skip cs) := by
  fun_induction removeTagsFrom skip cs with
  | case1 => exact fun rest hsuffix ↦ absurd (List.suffix_nil.1 hsuffix) (List.cons_ne_nil _ _)
  | case2 skip d rest ih => exact ih
  | case3 d rest length _ ih => exact ih
  | case4 d rest htag ih =>
    refine tagless_cons_iff.2 ⟨fun hd hmem ↦ ?_, ih⟩
    have hnext := tag?_eq_none_iff.1 htag hd (mem_of_mem_removeTagsFrom hmem)
    obtain ⟨rest, rfl⟩ := List.head?_eq_some_iff.1 hnext
    rfl

/-- No tag comes together when blanks are dropped or replaced. -/
theorem Tagless.of_thinned (hcs : Tagless cs) (h : Thinned cs ds) : Tagless ds := by
  induction h with
  | nil => exact hcs
  | keep c h ih =>
    obtain ⟨hfirst, hlater⟩ := tagless_cons_iff.1 hcs
    refine tagless_cons_iff.2 ⟨fun hc hmem ↦ ?_, ih hlater⟩
    obtain ⟨rest, rfl⟩ := List.head?_eq_some_iff.1 (hfirst hc (h.mem (by decide) hmem))
    obtain ⟨rest', rfl, -⟩ := h.exists_cons (by decide)
    rfl
  | drop _ _ ih => exact ih (tagless_cons_iff.1 hcs).2
  | replace _ hd _ ih =>
    refine tagless_cons_iff.2 ⟨?_, ih (tagless_cons_iff.1 hcs).2⟩
    rintro rfl
    exact absurd hd (by decide)

/-! ### Texts in which there is nothing to do -/

/-- A boundary between paragraphs starts with a tag. -/
theorem boundary?_eq_none (h : tag? cs = none) : boundary? cs = none := by
  rw [boundary?.eq_def]
  split
  · next rest =>
    have hnext := tag?_lt_eq_none_iff.1 h (by simp)
    cases hnext
  · rfl

theorem Tagless.breakParagraphs_eq (h : Tagless cs) : breakParagraphs cs = cs := by
  rw [breakParagraphs]
  induction cs with
  | nil => rfl
  | cons c cs ih =>
    obtain ⟨hfirst, hlater⟩ := tagless_cons_iff.1 h
    rw [breakParagraphsFrom, boundary?_eq_none (tag?_eq_none_iff.2 hfirst), ih hlater]

theorem Tagless.removeTags_eq (h : Tagless cs) : removeTags cs = cs := by
  rw [removeTags]
  induction cs with
  | nil => rfl
  | cons c cs ih =>
    obtain ⟨hfirst, hlater⟩ := tagless_cons_iff.1 h
    rw [removeTagsFrom, tag?_eq_none_iff.2 hfirst, ih hlater]

/-- Without ampersands there are no references. -/
theorem decode_of_notMem (h : '&' ∉ cs) : Entity.decode cs = .ok cs := by
  rw [Entity.decode]
  induction cs with
  | nil => rfl
  | cons c cs ih =>
    rw [List.mem_cons, not_or] at h
    rw [Entity.decodeFrom, if_neg (Ne.symm h.1), ih h.2]
    rfl

theorem mem_of_mem_breakParagraphsFrom {skip : Nat} (h : c ∈ breakParagraphsFrom skip cs)
    (hc : c ≠ '\n') : c ∈ cs := by
  fun_induction breakParagraphsFrom skip cs with
  | case1 => cases h
  | case2 skip d rest ih => exact List.mem_cons_of_mem d (ih h)
  | case3 d rest length _ ih =>
    simp only [List.mem_cons, hc, false_or] at h
    exact List.mem_cons_of_mem d (ih h)
  | case4 d rest _ ih =>
    rcases List.mem_cons.1 h with rfl | h
    · exact List.mem_cons_self
    · exact List.mem_cons_of_mem d (ih h)

/-! ### Paragraphs -/

theorem isTidyText_of_mem_paragraphs {p : List Char} (h : p ∈ paragraphs cs) :
    p ≠ [] ∧ IsTidyText p := by
  refine ⟨by simpa using List.of_mem_filter h, ?_⟩
  obtain ⟨q, -, rfl⟩ := List.mem_map.1 (List.mem_of_mem_filter h)
  exact Text.isTidyText_trim_collapse q

theorem newline_notMem_of_isTidyText {p : List Char} (h : IsTidyText p) : '\n' ∉ p :=
  fun hmem ↦ absurd (h.space '\n' hmem (by decide)) (by decide)

theorem newline_notMem_of_mem_paragraphs {p : List Char} (h : p ∈ paragraphs cs) : '\n' ∉ p :=
  newline_notMem_of_isTidyText (isTidyText_of_mem_paragraphs h).2

/-- Paragraphs that are tidied, and left out when nothing stays of them, are thinned together with
the blank lines between them. -/
theorem thinned_joinParagraphs (ps : List (List Char)) :
    Thinned (joinParagraphs ps)
      (joinParagraphs ((ps.map fun p ↦ Text.trim (Text.collapse p)).filter (!·.isEmpty))) := by
  have hline : Thinned ['\n', '\n'] [] := .drop (by decide) (.drop (by decide) .nil)
  induction ps with
  | nil => exact .nil
  | cons p later ih =>
    have hp := Text.thinned_trim_collapse p
    rw [List.map_cons, List.filter_cons]
    generalize Text.trim (Text.collapse p) = q at hp
    cases later with
    | nil =>
      rcases q with - | ⟨c, q⟩ <;> simpa [joinParagraphs] using hp
    | cons next later =>
      generalize ((next :: later).map fun p ↦ Text.trim (Text.collapse p)).filter (!·.isEmpty) =
        kept at ih
      simp only [joinParagraphs, List.intercalate_cons_cons] at ih ⊢
      split
      · cases kept with
        | nil => simpa using (hp.append hline).append ih
        | cons first kept =>
          rw [List.intercalate_cons_cons]
          exact (hp.append (.refl _)).append ih
      · next hempty =>
        -- nothing stays of the paragraph, and the blank line after it is left out as well
        obtain rfl : q = [] := by simpa using hempty
        exact (hp.append hline).append ih

/-- Tidying the paragraphs of a text drops and replaces blanks only. -/
theorem thinned_paragraphs (cs : List Char) : Thinned cs (joinParagraphs (paragraphs cs)) := by
  have h := thinned_joinParagraphs (splitParagraphs cs)
  rwa [Text.joinParagraphs_splitParagraphs] at h

/-- Tidy paragraphs are what they are joined to. -/
theorem paragraphs_joinParagraphs {ps : List (List Char)} (h : ∀ p ∈ ps, p ≠ [] ∧ IsTidyText p) :
    paragraphs (joinParagraphs ps) = ps := by
  by_cases hnone : ps = []
  · rw [hnone]
    rfl
  · have htidy : ps.map (fun p ↦ Text.trim (Text.collapse p)) = ps :=
      (List.map_congr_left fun p hp ↦ (h p hp).2.trim_collapse).trans (List.map_id' ps)
    rw [paragraphs, Text.splitParagraphs_joinParagraphs hnone fun p hp ↦
      newline_notMem_of_isTidyText (h p hp).2, htidy]
    exact List.filter_eq_self.2 fun p hp ↦ by simpa using (h p hp).1

/-! ### Plain text -/

/-- What comes out are the paragraphs of the text in which the references are decoded. -/
theorem exists_paragraphs {text : List Char} (h : plainChars cs = .ok text) :
    ∃ decoded, text = joinParagraphs (paragraphs decoded) := by
  obtain ⟨decoded, -, h⟩ := bind_eq_ok_iff.1 h
  exact ⟨decoded, (Except.ok.inj h).symm⟩

/-- What comes out is plain. -/
theorem isPlain_of_plainChars {text : List Char} (h : plainChars cs = .ok text) : IsPlain text := by
  obtain ⟨decoded, htext⟩ := exists_paragraphs h
  exact ⟨paragraphs decoded, fun p ↦ isTidyText_of_mem_paragraphs, htext⟩

/-- Text without references has a plain text, in which no tags and no references are. -/
theorem exists_plainChars_of_notMem (h : '&' ∉ cs) :
    ∃ text, plainChars cs = .ok text ∧ Tagless text ∧ '&' ∉ text := by
  have hreferences : '&' ∉ removeTags (breakParagraphs cs) := fun hmem ↦
    h (mem_of_mem_breakParagraphsFrom (mem_of_mem_removeTagsFrom hmem) (by decide))
  have hthinned := thinned_paragraphs (removeTags (breakParagraphs cs))
  refine ⟨_, ?_, (tagless_removeTagsFrom 0 _).of_thinned hthinned,
    fun hmem ↦ hreferences (hthinned.mem (by decide) hmem)⟩
  rw [plainChars, decode_of_notMem hreferences]
  rfl

/-- Text without references is its own plain text exactly when it is plain and has no tags. -/
theorem plainChars_eq_self_iff (h : '&' ∉ cs) :
    plainChars cs = .ok cs ↔ IsPlain cs ∧ Tagless cs := by
  constructor
  · intro hself
    obtain ⟨text, htext, htags, -⟩ := exists_plainChars_of_notMem h
    obtain rfl := Except.ok.inj (htext.symm.trans hself)
    exact ⟨isPlain_of_plainChars hself, htags⟩
  · rintro ⟨⟨ps, hps, hjoin⟩, htags⟩
    rw [plainChars, htags.breakParagraphs_eq, htags.removeTags_eq, decode_of_notMem h, ok_bind,
      pure_eq_ok, hjoin]
    exact congrArg _ (congrArg joinParagraphs (paragraphs_joinParagraphs hps))

/-- A text has a plain text exactly when its characters have one. -/
theorem plain_eq_ok_iff {markup text : String} :
    plain markup = .ok text ↔ plainChars markup.toList = .ok text.toList := by
  rw [plain]
  rcases plainChars markup.toList with e | chars
  · simp
  · rw [except_map_ok, Except.ok.injEq, Except.ok.injEq, ← String.toList_inj, String.toList_ofList]

/-- In text without references one pass removes all tags, and what comes out is its own plain text;
the texts that are their own plain texts are those of tidy paragraphs without tags. Whatever the
text is, what comes out are tidy paragraphs with a blank line between neighbours. -/
theorem one_pass_strips_markup (markup : String) :
    ('&' ∉ markup.toList →
      (∃ text, plain markup = .ok text ∧ ¬HasTag text.toList ∧ plain text = .ok text) ∧
      (plain markup = .ok markup ↔ IsPlain markup.toList ∧ ¬HasTag markup.toList)) ∧
    ∀ text, plain markup = .ok text → IsPlain text.toList := by
  simp only [plain_eq_ok_iff, ← tagless_iff]
  refine ⟨fun h ↦ ⟨?_, plainChars_eq_self_iff h⟩, fun text ↦ isPlain_of_plainChars⟩
  obtain ⟨text, htext, htags, hreferences⟩ := exists_plainChars_of_notMem h
  have hself := (plainChars_eq_self_iff hreferences).2 ⟨isPlain_of_plainChars htext, htags⟩
  refine ⟨String.ofList text, ?_⟩
  rw [String.toList_ofList]
  exact ⟨htext, htags, hself⟩

/-- A tag begins with the first `<` that it can begin with, so one in another goes with it. A `<`
stays that a `>` follows at once, or that none follows. -/
theorem one_pass_strips_markup_nested :
    let markup := "<<a>b<></p>\n<p>c  <d"
    '&' ∉ markup.toList ∧
    (∃ text, plain markup = .ok text ∧ text = "b<>\n\nc <d" ∧ ¬HasTag text.toList ∧
      plain text = .ok text ∧ IsPlain text.toList) ∧
    ¬(IsPlain markup.toList ∧ ¬HasTag markup.toList) := by
  have hvalue : plain "<<a>b<></p>\n<p>c  <d" = .ok "b<>\n\nc <d" := by cbv
  intro markup
  have hreferences : '&' ∉ markup.toList := by decide
  obtain ⟨hstrip, hplain⟩ := one_pass_strips_markup markup
  obtain ⟨⟨text, htext, htags, hself⟩, hfixed⟩ := hstrip hreferences
  refine ⟨hreferences, ⟨text, htext, Except.ok.inj (htext.symm.trans hvalue), htags, hself,
    hplain text htext⟩, fun hdone ↦ ?_⟩
  have heq : markup = "b<>\n\nc <d" := Except.ok.inj ((hfixed.2 hdone).symm.trans hvalue)
  exact absurd heq (by decide)

/-- References can stand for a tag, which stays. -/
example : plain "&lt;b&gt;" = .ok "<b>" := by cbv

end ServiceClient.Markup
