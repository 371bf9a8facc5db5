import ServiceClient.Proofs.Uri.Grammar
import ServiceClient.Uri.Path

/-!
# The first defect of a template

Reading goes past text and complete placeholders up to the first brace that starts no placeholder,
and blames that brace: `IsFirstDefect` says where it is without a reader, and `Blames` what is said
of it, which depends on the next closing brace, however far away. A text that is no template has
exactly one such place.
-/

namespace ServiceClient.Uri

/-- A text begins with a placeholder. -/
def BeginsWithPlaceholder (cs : List Char) : Prop :=
  ∃ name multiSegment rest, IsName name ∧ cs = placeholderChars name multiSegment ++ rest

/-- At an offset of a text stands the first brace that starts no placeholder. -/
structure IsFirstDefect (cs : List Char) (offset : Nat) : Prop where
  /-- What stands before it is a template. -/
  before : ∃ names, Grammar names (cs.take offset)
  /-- It is a brace. -/
  brace : ∃ c, (cs.drop offset).head? = some c ∧ isText c = false
  /-- No placeholder starts there. -/
  not_placeholder : ¬BeginsWithPlaceholder (cs.drop offset)

/-- What is said of a brace that starts no placeholder, given its offset and the text from it on. -/
inductive Blames (offset : Nat) : List Char → TemplateDefect → Prop
  /-- It is a closing brace. -/
  | unmatched (rest : List Char) : Blames offset ('\x7d' :: rest) (.unmatched offset)
  /-- No closing brace follows. -/
  | unterminated {rest : List Char} (hclose : '\x7d' ∉ rest) :
      Blames offset ('\x7b' :: rest) (.unterminated offset)
  /-- Another opening brace stands before the next closing one. -/
  | nested {body : List Char} (hclose : '\x7d' ∉ body) (hopen : '\x7b' ∈ body)
      (rest : List Char) : Blames offset ('\x7b' :: (body ++ '\x7d' :: rest)) (.nested offset)
  /-- What stands before the next closing brace is no name, with or without a plus sign. -/
  | invalid {body : List Char} (hclose : '\x7d' ∉ body) (hopen : '\x7b' ∉ body)
      (hname : ∀ name multiSegment, IsName name → body ≠ name ++ flag multiSegment)
      (rest : List Char) :
      Blames offset ('\x7b' :: (body ++ '\x7d' :: rest)) (.invalid (String.ofList body))

variable {offset : Nat} {cs good rest : List Char} {names : List String} {defect : TemplateDefect}

/-! ### One brace -/

/-- Between the braces stands no name, and the defect says so. -/
theorem placeholder_eq_error {body : List Char}
    (hname : ∀ name multiSegment, IsName name → body ≠ name ++ flag multiSegment)
    (hclose : '\x7d' ∉ body) (offset : Nat) :
    placeholder offset body =
      .error (if '\x7b' ∈ body then .nested offset else .invalid (String.ofList body)) := by
  cases h : placeholder offset body with
  | ok token =>
    obtain ⟨name, multiSegment, hisName, hbody, -⟩ := eq_of_placeholder hclose h
    exact absurd hbody (hname name multiSegment hisName)
  | error e =>
    by_cases hopen : '\x7b' ∈ body
    · rw [placeholder, if_pos (List.contains_iff_mem.2 hopen)] at h
      rw [if_pos hopen, h]
    · rw [placeholder, if_neg (mt List.contains_iff_mem.1 hopen)] at h
      rw [if_neg hopen]
      -- whether the name is what is left of a plus sign or all of the body, it is refused alike
      dsimp only at h
      split at h
      all_goals
        split at h
        · exact h.symm
        · cases h

theorem open_notMem_name {name : List Char} (hname : IsName name) (multiSegment : Bool) :
    '\x7b' ∉ name ++ flag multiSegment := by
  intro hmem
  rcases List.mem_append.1 hmem with hmem | hmem
  · exact absurd (hname.2 _ hmem) (by decide)
  · cases multiSegment <;> simp [flag] at hmem

/-- Reading stops at a brace that starts no placeholder, with what is said of it. -/
theorem Blames.tokensFrom_eq (h : Blames offset cs defect) :
    tokensFrom offset cs = .error defect := by
  have hbody {body rest : List Char} (hclose : '\x7d' ∉ body)
      (hname : ∀ name multiSegment, IsName name → body ≠ name ++ flag multiSegment) :
      tokensFrom offset ('\x7b' :: (body ++ '\x7d' :: rest)) =
        .error (if '\x7b' ∈ body then .nested offset else .invalid (String.ofList body)) := by
    have hrun : (body ++ '\x7d' :: rest).takeWhile (· ≠ '\x7d') = body := by
      refine Text.takeWhile_run (fun c hc ↦ decide_eq_true ?_) (by simp)
      rintro rfl
      exact hclose hc
    rw [tokensFrom, if_neg (by decide), if_pos rfl]
    simp only [hrun, placeholder_eq_error hname hclose, error_bind, ite_eq_right_iff]
    intro hlength
    simp at hlength
  cases h with
  | unmatched rest => rw [tokensFrom, if_pos rfl]
  | @unterminated rest hclose =>
    have hrun : rest.takeWhile (· ≠ '\x7d') = rest := by
      refine List.takeWhile_eq_self_iff.2 fun c hc ↦ decide_eq_true ?_
      rintro rfl
      exact hclose hc
    rw [tokensFrom, if_neg (by decide), if_pos rfl]
    simp only [hrun, if_true]
  | @nested body hclose hopen rest =>
    rw [hbody hclose ?_, if_pos hopen]
    rintro name multiSegment hname rfl
    exact open_notMem_name hname multiSegment hopen
  | @invalid body hclose hopen hname rest => rw [hbody hclose hname, if_neg hopen]

/-- A brace that starts no placeholder can be blamed in one of the ways. -/
theorem exists_blames {c : Char} (hc : isText c = false)
    (h : ¬BeginsWithPlaceholder (c :: rest)) (offset : Nat) :
    ∃ defect, Blames offset (c :: rest) defect := by
  by_cases hbrace : c = '\x7d'
  · subst hbrace
    exact ⟨_, .unmatched rest⟩
  obtain rfl : c = '\x7b' := by simpa [isText, hbrace] using hc
  by_cases hclose : '\x7d' ∈ rest
  · obtain ⟨body, after, rfl, hbody⟩ := List.eq_append_cons_of_mem hclose
    by_cases hopen : '\x7b' ∈ body
    · exact ⟨_, .nested hbody hopen after⟩
    · refine ⟨_, .invalid hbody hopen (fun name multiSegment hname hflag ↦ h ?_) after⟩
      exact ⟨name, multiSegment, after, hname, by simp [placeholderChars, hflag]⟩
  · exact ⟨_, .unterminated hclose⟩

/-! ### The way to it -/

/-- Reading goes past a template to a brace that follows it. -/
theorem Grammar.exists_tokensFrom_append (hgood : Grammar names good)
    (hrest : ∀ d ∈ rest.head?, isText d = false) (offset : Nat) :
    ∃ tokens, tokensFrom offset (good ++ rest) =
      (tokensFrom (offset + good.length) rest).map (tokens ++ ·) := by
  obtain ⟨tokens, hcanonical, hunbound, rfl, -⟩ := hgood.exists_canonical
  exact ⟨tokens, tokensFrom_writeChars_append hcanonical hunbound hrest offset⟩

/-- What follows a template is one too, if it begins with a brace and both together are one. -/
theorem Grammar.of_append (h : Grammar names (good ++ rest)) {before : List String}
    (hgood : Grammar before good) (hrest : ∀ d ∈ rest.head?, isText d = false) :
    ∃ after, Grammar after rest := by
  obtain ⟨tokens, htokens, -⟩ := (exists_tokensFrom_iff 0).2 h
  obtain ⟨first, happend⟩ := hgood.exists_tokensFrom_append hrest 0
  rw [happend] at htokens
  cases hlater : tokensFrom (0 + good.length) rest with
  | error e => rw [hlater] at htokens; cases htokens
  | ok later => exact ⟨_, (exists_tokensFrom_iff _).1 ⟨later, hlater, rfl⟩⟩

/-- A template that begins with a brace begins with a placeholder. -/
theorem Grammar.beginsWithPlaceholder (h : Grammar names cs) {c : Char} (hc : cs.head? = some c)
    (hbrace : isText c = false) : BeginsWithPlaceholder cs := by
  cases h with
  | nil => cases hc
  | @text names d rest hd =>
    obtain rfl : d = c := by simpa using hc
    rw [hd] at hbrace
    cases hbrace
  | @placeholder names name rest multiSegment hname =>
    exact ⟨name, multiSegment, rest, hname, rfl⟩

/-- There is one first defect at most. -/
theorem IsFirstDefect.unique {p q : Nat} (hp : IsFirstDefect cs p) (hq : IsFirstDefect cs q) :
    p = q := by
  have hle {p q : Nat} (hp : IsFirstDefect cs p) (hq : IsFirstDefect cs q) : q ≤ p := by
    by_contra hlt
    obtain ⟨before, hbefore⟩ := hp.before
    obtain ⟨names, hnames⟩ := hq.before
    obtain ⟨c, hc, hbrace⟩ := hp.brace
    -- the text between the two begins with the first brace and is a template
    have hhead : ((cs.drop p).take (q - p)).head? = some c := by
      rw [List.head?_take, if_neg (by omega), hc]
    have hsplit : cs.take q = cs.take p ++ (cs.drop p).take (q - p) := by
      rw [← List.take_add, Nat.add_sub_cancel' (by omega)]
    rw [hsplit] at hnames
    obtain ⟨after, hafter⟩ := hnames.of_append hbefore fun d hd ↦ by
      obtain rfl : c = d := by simpa [hhead] using hd
      exact hbrace
    obtain ⟨name, multiSegment, rest, hname, heq⟩ := hafter.beginsWithPlaceholder hhead hbrace
    refine hp.not_placeholder ⟨name, multiSegment, rest ++ (cs.drop p).drop (q - p), hname, ?_⟩
    rw [← List.append_assoc, ← heq, List.take_append_drop]
  exact le_antisymm (hle hq hp) (hle hp hq)

/-- A text that has a first defect is refused with what is said of it. -/
theorem IsFirstDefect.tokensFrom_eq {p : Nat} (h : IsFirstDefect cs p)
    (hblames : Blames p (cs.drop p) defect) : tokensFrom 0 cs = .error defect := by
  obtain ⟨names, hbefore⟩ := h.before
  obtain ⟨c, hc, hbrace⟩ := h.brace
  have hlength : (cs.take p).length = p := by
    have hlt : p < cs.length := by
      by_contra hge
      rw [List.drop_of_length_le (by omega)] at hc
      cases hc
    rw [List.length_take, min_eq_left hlt.le]
  have hrest : ∀ d ∈ (cs.drop p).head?, isText d = false := by
    intro d hd
    obtain rfl : c = d := by simpa [hc] using hd
    exact hbrace
  obtain ⟨tokens, hread⟩ := hbefore.exists_tokensFrom_append hrest 0
  rw [List.take_append_drop, Nat.zero_add, hlength, hblames.tokensFrom_eq] at hread
  exact hread

/-- One template may follow another. -/
theorem Grammar.append {names names' : List String} {cs cs' : List Char} (h : Grammar names cs)
    (h' : Grammar names' cs') : Grammar (names ++ names') (cs ++ cs') := by
  induction h with
  | nil => exact h'
  | text hc _ ih => exact .text hc ih
  | placeholder multiSegment hname _ ih =>
    rw [List.append_assoc]
    exact .placeholder multiSegment hname ih

/-- A template may stand before the text that has the defect. -/
theorem IsFirstDefect.prepend {p : Nat} (h : IsFirstDefect rest p) (hgood : Grammar names good) :
    IsFirstDefect (good ++ rest) (good.length + p) where
  before := by
    obtain ⟨later, hlater⟩ := h.before
    rw [List.take_length_add_append]
    exact ⟨_, hgood.append hlater⟩
  brace := by
    rw [List.drop_length_add_append]
    exact h.brace
  not_placeholder := by
    rw [List.drop_length_add_append]
    exact h.not_placeholder

/-- A text that is no template has a first defect. The induction is on the text that is left after
a character of text or after a placeholder. -/
theorem exists_isFirstDefect {cs : List Char} (h : ∀ names, ¬Grammar names cs) :
    ∃ p, IsFirstDefect cs p := by
  induction hlength : cs.length using Nat.strong_induction_on generalizing cs with
  | h length ih =>
    -- a template that stands before the defect is passed over
    have hpass {names : List String} {good rest : List Char} (hcs : cs = good ++ rest)
        (hgood : Grammar names good) (hne : good ≠ []) : ∃ p, IsFirstDefect cs p := by
      have hlt : rest.length < length := by
        have hpos := List.length_pos_iff.2 hne
        rw [← hlength, hcs, List.length_append]
        omega
      have hrest : ∀ names, ¬Grammar names rest := fun names hrest ↦
        h _ (hcs ▸ hgood.append hrest)
      obtain ⟨p, hp⟩ := ih _ hlt hrest rfl
      exact ⟨good.length + p, hcs ▸ hp.prepend hgood⟩
    cases cs with
    | nil => exact absurd .nil (h [])
    | cons c rest =>
      cases hc : isText c with
      | true => exact hpass List.singleton_append.symm (.text hc .nil) (List.cons_ne_nil c [])
      | false =>
        by_cases hbegins : BeginsWithPlaceholder (c :: rest)
        · obtain ⟨name, multiSegment, later, hname, heq⟩ := hbegins
          have hgood := Grammar.placeholder multiSegment hname .nil
          rw [List.append_nil] at hgood
          exact hpass heq hgood (List.cons_ne_nil _ _)
        · exact ⟨0, ⟨[], .nil⟩, ⟨c, rfl, hc⟩, hbegins⟩

/-- A template is read exactly if it is in the grammar. -/
theorem exists_tokenize_iff {template : String} :
    (∃ tokens, tokenize template = .ok tokens) ↔ ∃ names, Grammar names template.toList := by
  constructor
  · rintro ⟨tokens, htokens⟩
    exact ⟨_, (exists_tokensFrom_iff 0).1 ⟨tokens, htokens, rfl⟩⟩
  · rintro ⟨names, hnames⟩
    obtain ⟨tokens, htokens, -⟩ := (exists_tokensFrom_iff 0).2 hnames
    exact ⟨tokens, htokens⟩

/-- A template that is refused is refused for its first defect. -/
theorem exists_blames_of_tokenize {template : String} {defect : TemplateDefect}
    (h : tokenize template = .error defect) :
    ∃ p, IsFirstDefect template.toList p ∧ Blames p (template.toList.drop p) defect := by
  have hrefused : ∀ names, ¬Grammar names template.toList := by
    intro names hnames
    obtain ⟨tokens, htokens⟩ := exists_tokenize_iff.2 ⟨names, hnames⟩
    rw [htokens] at h
    cases h
  obtain ⟨p, hp⟩ := exists_isFirstDefect hrefused
  obtain ⟨c, hc, hbrace⟩ := hp.brace
  obtain ⟨rest, hrest⟩ := List.head?_eq_some_iff.1 hc
  obtain ⟨blamed, hblamed⟩ := exists_blames hbrace (hrest ▸ hp.not_placeholder) p
  rw [← hrest] at hblamed
  obtain rfl : blamed = defect := Except.error.inj ((hp.tokensFrom_eq hblamed).symm.trans h)
  exact ⟨p, hp, hblamed⟩

/-- A template is read exactly if it is in the grammar. If it is not, it is refused for the first
brace that starts no placeholder: there is one such brace, and the error says of it what the text
after it calls for. -/
theorem tokenize_accepts_or_blames (template : String) :
    ((∃ tokens, tokenize template = .ok tokens) ↔ ∃ names, Grammar names template.toList) ∧
      ∀ defect, tokenize template = .error defect →
        (∃ p, (∀ q, IsFirstDefect template.toList q ↔ q = p) ∧
          Blames p (template.toList.drop p) defect) ∧
        ∃ e : SpecError, Path.readTokens (.str template) = .error (.spec e) ∧
          e.defect.category = .malformedUriTemplate ∧
          e.message = defect.message (Text.quoted template) := by
  refine ⟨exists_tokenize_iff, fun defect hdefect ↦ ⟨?_, ?_⟩⟩
  · obtain ⟨p, hp, hblamed⟩ := exists_blames_of_tokenize hdefect
    exact ⟨p, fun q ↦ ⟨fun hq ↦ hq.unique hp, fun hq ↦ hq ▸ hp⟩, hblamed⟩
  · refine ⟨{ defect := .template defect (Text.quoted template) }, ?_, rfl, rfl⟩
    rw [Path.readTokens, hdefect]
    rfl

/-- A complete placeholder is passed over, and the brace after it is blamed for another one that
stands before the next closing brace. -/
theorem tokenize_accepts_or_blames_nested :
    let template := "/\x7bId\x7d/\x7ba\x7bb\x7d\x7d"
    tokenize template = .error (.nested 6) ∧ IsFirstDefect template.toList 6 ∧
      ∃ e : SpecError, Path.readTokens (.str template) = .error (.spec e) ∧
        e.message = "nested '\x7b' at offset 6 in '" ++ template ++ "'" := by
  intro template
  have htokens : tokenize template = .error (.nested 6) := by decide +kernel
  obtain ⟨⟨p, hp, hblames⟩, e, he, -, hmessage⟩ :=
    (tokenize_accepts_or_blames template).2 _ htokens
  have hoffset : p = 6 := by
    generalize template.toList.drop p = rest at hblames
    cases hblames
    rfl
  refine ⟨htokens, (hp 6).2 hoffset.symm, e, he, hmessage.trans ?_⟩
  decide +kernel

end ServiceClient.Uri
