import Mathlib.Data.List.Chain
import ServiceClient.Proofs.Outcome
import ServiceClient.Proofs.Text.Run
import ServiceClient.Uri.Template

/-!
# The grammar of templates

A template is text without braces in which placeholders may stand: a name in braces, with a plus
sign after the name where the value may span several segments. `Grammar` says so without a reader,
and `tokensFrom_eq_ok_iff` says what the reader makes of it: the tokens that are read are exactly
the canonical ones that are written as the template.

Canonical tokens have no empty literal and no brace in a literal, and no two literals are
neighbours. Binding a placeholder keeps all of that, so being canonical is stated apart from being
unbound.
-/

namespace ServiceClient.Uri

/-- Whether a character may stand in the name of a placeholder. -/
def isNameChar (c : Char) : Bool := isText c && c ≠ '+'

/-- Some characters are the name of a placeholder. -/
def IsName (name : List Char) : Prop := name ≠ [] ∧ ∀ c ∈ name, isNameChar c = true

/-- What stands between the name of a placeholder and the closing brace. -/
def flag (multiSegment : Bool) : List Char := if multiSegment then ['+'] else []

/-- The characters of a placeholder. -/
def placeholderChars (name : List Char) (multiSegment : Bool) : List Char :=
  '\x7b' :: (name ++ flag multiSegment ++ ['\x7d'])

/-- The templates, each with the names of its placeholders in order. -/
inductive Grammar : List String → List Char → Prop
  /-- The empty template. -/
  | nil : Grammar [] []
  /-- A character that is no brace stands for itself. -/
  | text {names : List String} {c : Char} {rest : List Char} (hc : isText c = true)
      (hrest : Grammar names rest) : Grammar names (c :: rest)
  /-- A placeholder. -/
  | placeholder {names : List String} {name rest : List Char} (multiSegment : Bool)
      (hname : IsName name) (hrest : Grammar names rest) :
      Grammar (String.ofList name :: names) (placeholderChars name multiSegment ++ rest)

namespace Token

/-- The characters that a token is written as. -/
def chars : Token → List Char
  | .literal text => text.toList
  | .placeholder name multiSegment _ => placeholderChars name.toList multiSegment

/-- A token has the form that reading gives to tokens. -/
def IsWellFormed : Token → Prop
  | .literal text => text.toList ≠ [] ∧ ∀ c ∈ text.toList, isText c = true
  | .placeholder name _ _ => IsName name.toList

/-- A token holds the place of a value that nobody has named yet, or none. -/
def IsUnbound : Token → Prop
  | .literal _ => True
  | .placeholder _ _ codeName => codeName = ""

/-- The name that a placeholder gives, if the token is one. -/
def name? : Token → Option String
  | .literal _ => none
  | .placeholder name _ _ => some name

theorem toList_write (t : Token) : t.write.toList = t.chars := by
  cases t with
  | literal text => rfl
  | placeholder name multiSegment codeName =>
    cases multiSegment <;> simp [write, chars, placeholderChars, flag]

end Token

/-- The characters that tokens are written as. -/
def writeChars (tokens : List Token) : List Char := tokens.flatMap Token.chars

@[simp] theorem writeChars_nil : writeChars [] = [] := rfl

@[simp] theorem writeChars_cons (t : Token) (tokens : List Token) :
    writeChars (t :: tokens) = t.chars ++ writeChars tokens := rfl

theorem toList_write (tokens : List Token) : (write tokens).toList = writeChars tokens := by
  rw [write, String.toList_join, List.flatMap_map, writeChars]
  exact congrArg (tokens.flatMap ·) (funext Token.toList_write)

/-- Tokens have the form that reading gives to them. -/
structure Canonical (tokens : List Token) : Prop where
  /-- Literals are non-empty and free of braces, names are names. -/
  wellFormed : ∀ t ∈ tokens, t.IsWellFormed
  /-- No two literals are neighbours. -/
  separated : tokens.IsChain fun a b ↦ a.isPlaceholder = true ∨ b.isPlaceholder = true

theorem canonical_nil : Canonical [] := ⟨by simp, .nil⟩

theorem Canonical.tail {t : Token} {tokens : List Token} (h : Canonical (t :: tokens)) :
    Canonical tokens :=
  ⟨fun u hu ↦ h.wellFormed u (List.mem_cons_of_mem t hu), h.separated.of_cons⟩

/-- A placeholder may stand before any canonical tokens. -/
theorem Canonical.cons_placeholder {t : Token} {tokens : List Token} (h : Canonical tokens)
    (ht : t.IsWellFormed) (hp : t.isPlaceholder = true) : Canonical (t :: tokens) := by
  refine ⟨fun u hu ↦ ?_, ?_⟩
  · rcases List.mem_cons.1 hu with rfl | hu
    · exact ht
    · exact h.wellFormed u hu
  · cases tokens with
    | nil => exact .singleton t
    | cons u tokens => exact .cons_cons (.inl hp) h.separated

/-- A literal may stand before canonical tokens that do not begin with one. -/
theorem Canonical.cons_literal {text : String} {tokens : List Token} (h : Canonical tokens)
    (ht : (Token.literal text).IsWellFormed)
    (hp : ∀ u ∈ tokens.head?, u.isPlaceholder = true) : Canonical (.literal text :: tokens) := by
  refine ⟨fun u hu ↦ ?_, ?_⟩
  · rcases List.mem_cons.1 hu with rfl | hu
    · exact ht
    · exact h.wellFormed u hu
  · cases tokens with
    | nil => exact .singleton _
    | cons u tokens => exact .cons_cons (.inr (hp u rfl)) h.separated

/-- What follows a literal among canonical tokens is a placeholder. -/
theorem Canonical.isPlaceholder_of_head? {text : String} {tokens : List Token}
    (h : Canonical (.literal text :: tokens)) : ∀ u ∈ tokens.head?, u.isPlaceholder = true := by
  intro u hu
  cases tokens with
  | nil => simp at hu
  | cons v tokens =>
    obtain rfl : v = u := by simpa using hu
    rcases h.separated.rel with hl | hv
    · simp [Token.isPlaceholder] at hl
    · exact hv

/-! ### Single placeholders -/

/-- A name with its flag, but no other text, is a placeholder. -/
theorem placeholder_name {name : List Char} (hname : IsName name) (offset : Nat)
    (multiSegment : Bool) :
    placeholder offset (name ++ flag multiSegment) =
      .ok (.placeholder (String.ofList name) multiSegment "") := by
  have hopen : '\x7b' ∉ name := fun hmem ↦ absurd (hname.2 _ hmem) (by decide)
  have hplus : '+' ∉ name := fun hmem ↦ absurd (hname.2 _ hmem) (by decide)
  cases multiSegment with
  | false =>
    have hlast : name.getLast? ≠ some '+' := fun h ↦ hplus (List.mem_of_getLast? h)
    simp [placeholder, flag, hopen, hplus, hlast, hname.1]
  | true => simp [placeholder, flag, hopen, hplus, hname.1]

/-- Only a name with its flag is a placeholder. -/
theorem eq_of_placeholder {offset : Nat} {body : List Char} {token : Token}
    (hclose : '\x7d' ∉ body) (h : placeholder offset body = .ok token) :
    ∃ name multiSegment, IsName name ∧ body = name ++ flag multiSegment ∧
      token = .placeholder (String.ofList name) multiSegment "" := by
  have hopen : '\x7b' ∉ body := by
    intro hmem
    simp [placeholder, hmem] at h
  have hname : ∀ name : List Char, (∀ c ∈ name, c ∈ body) → name ≠ [] → '+' ∉ name →
      IsName name := by
    intro name hsub hne hplus
    refine ⟨hne, fun c hc ↦ ?_⟩
    have hco : c ≠ '\x7b' := fun e ↦ hopen (e ▸ hsub c hc)
    have hcc : c ≠ '\x7d' := fun e ↦ hclose (e ▸ hsub c hc)
    have hcp : c ≠ '+' := fun e ↦ hplus (e ▸ hc)
    simp [isNameChar, isText, hco, hcc, hcp]
  by_cases hlast : body.getLast? = some '+'
  · obtain ⟨init, rfl⟩ : ∃ init, body = init ++ ['+'] := List.getLast?_eq_some_iff.1 hlast
    by_cases hbad : init = [] ∨ '+' ∈ init
    · simp [placeholder, hopen, hbad] at h
    · rw [not_or] at hbad
      refine ⟨init, true, hname init (by simp_all) hbad.1 hbad.2, rfl, ?_⟩
      simp [placeholder, hopen, hbad] at h
      exact h.symm
  · by_cases hbad : body = [] ∨ '+' ∈ body
    · simp [placeholder, hopen, hlast, hbad] at h
    · rw [not_or] at hbad
      refine ⟨body, false, hname body (fun _ hc ↦ hc) hbad.1 hbad.2, by simp [flag], ?_⟩
      simp [placeholder, hopen, hlast, hbad] at h
      exact h.symm

/-! ### Reading tokens -/

/-- Reading splits a placeholder off the front of what is left. -/
theorem tokensFrom_placeholder {name rest : List Char} (hname : IsName name) (offset : Nat)
    (multiSegment : Bool) :
    tokensFrom offset (placeholderChars name multiSegment ++ rest) =
      (tokensFrom (offset + (name ++ flag multiSegment).length + 2) rest >>= fun tokens ↦
        .ok (.placeholder (String.ofList name) multiSegment "" :: tokens)) := by
  have hclose : ∀ c ∈ name ++ flag multiSegment, (decide (c ≠ '\x7d')) = true := by
    intro c hc
    rcases List.mem_append.1 hc with hc | hc
    · refine decide_eq_true ?_
      rintro rfl
      exact absurd (hname.2 _ hc) (by decide)
    · cases multiSegment <;> simp_all [flag]
  have hbody : (name ++ flag multiSegment ++ '\x7d' :: rest).takeWhile (· ≠ '\x7d') =
      name ++ flag multiSegment :=
    Text.takeWhile_run hclose (by simp)
  have hdrop : (name ++ flag multiSegment ++ '\x7d' :: rest).drop
      ((name ++ flag multiSegment).length + 1) = rest := by
    rw [← List.drop_drop, List.drop_left]
    rfl
  rw [placeholderChars, List.cons_append, List.append_assoc, List.singleton_append, tokensFrom]
  simp only [hbody, hdrop, placeholder_name hname]
  simp

/-- Reading splits a maximal run of text off the front of what is left. -/
theorem tokensFrom_literal {c : Char} {text rest : List Char} (hc : isText c = true)
    (htext : ∀ d ∈ text, isText d = true) (hrest : ∀ d ∈ rest.head?, isText d = false)
    (offset : Nat) :
    tokensFrom offset (c :: (text ++ rest)) =
      (tokensFrom (offset + text.length + 1) rest >>= fun tokens ↦
        .ok (.literal (String.ofList (c :: text)) :: tokens)) := by
  have hrun : (text ++ rest).takeWhile isText = text := Text.takeWhile_run htext hrest
  have hclose : c ≠ '\x7d' := by
    rintro rfl
    exact absurd hc (by decide)
  have hopen : c ≠ '\x7b' := by
    rintro rfl
    exact absurd hc (by decide)
  rw [tokensFrom, if_neg hclose, if_neg hopen]
  simp only [hrun, List.drop_left]
  rfl

/-- Canonical tokens that are written as something which does not begin with text begin with a
placeholder. -/
theorem Canonical.isPlaceholder_of_writeChars {tokens : List Token} (h : Canonical tokens)
    (hhead : ∀ d ∈ (writeChars tokens).head?, isText d = false) :
    ∀ u ∈ tokens.head?, u.isPlaceholder = true := by
  intro u hu
  cases tokens with
  | nil => simp at hu
  | cons v later =>
    obtain rfl : v = u := by simpa using hu
    cases v with
    | placeholder name multiSegment codeName => rfl
    | literal text =>
      obtain ⟨hne, htext⟩ := h.wellFormed _ List.mem_cons_self
      obtain ⟨d, ds, hd⟩ := List.exists_cons_of_ne_nil hne
      have hfalse := hhead d (by simp [Token.chars, hd])
      rw [htext d (by simp [hd])] at hfalse
      exact absurd hfalse (by decide)

/-- What is read is canonical and unbound, and written as what it was read from. -/
theorem canonical_of_tokensFrom {offset : Nat} {cs : List Char} {tokens : List Token}
    (h : tokensFrom offset cs = .ok tokens) :
    Canonical tokens ∧ (∀ t ∈ tokens, t.IsUnbound) ∧ writeChars tokens = cs := by
  induction offset, cs using tokensFrom.induct generalizing tokens with
  | case1 =>
    obtain rfl : [] = tokens := by simpa [tokensFrom] using h
    exact ⟨canonical_nil, by simp, rfl⟩
  | case2 => simp [tokensFrom] at h
  | case3 offset rest body hbody =>
    rw [tokensFrom, if_neg (by decide), if_pos rfl] at h
    exact absurd ((if_pos hbody).symm.trans h) (by simp)
  | case4 offset rest body hbody hne =>
    rename_i ih
    rw [tokensFrom, if_neg hne, if_pos rfl] at h
    obtain ⟨token, htoken, h⟩ := bind_eq_ok_iff.1 ((if_neg hbody).symm.trans h)
    obtain ⟨later, hlater, h⟩ := bind_eq_ok_iff.1 h
    obtain rfl := Except.ok.inj h
    obtain ⟨hcanonical, hunbound, hwrite⟩ := ih hlater
    have hclose : '\x7d' ∉ body := fun hmem ↦ by simpa using List.mem_takeWhile_imp hmem
    obtain ⟨name, multiSegment, hname, hflag, rfl⟩ := eq_of_placeholder hclose htoken
    -- what is left after the body begins with the closing brace
    have hsplit : body ++ rest.drop body.length = rest := Text.takeWhile_append_drop _ rest
    obtain ⟨d, after, hafter⟩ : ∃ d after, rest.drop body.length = d :: after := by
      refine List.exists_cons_of_ne_nil fun hnil ↦ hbody ?_
      rw [hnil, List.append_nil] at hsplit
      rw [hsplit]
    have hd : d = '\x7d' := by
      have hstop := Text.head?_drop_length_takeWhile (fun c ↦ decide (c ≠ '\x7d')) rest
      rw [hafter] at hstop
      simpa using hstop d rfl
    rw [← List.drop_drop, hafter, List.drop_one, List.tail_cons] at hwrite
    refine ⟨hcanonical.cons_placeholder (by simpa [Token.IsWellFormed] using hname) rfl, ?_, ?_⟩
    · simpa [Token.IsUnbound] using hunbound
    · rw [writeChars_cons, hwrite, Token.chars, String.toList_ofList, placeholderChars, ← hflag,
        ← hsplit, hafter, hd]
      simp
  | case5 offset c rest hclose hopen text =>
    rename_i ih
    rw [tokensFrom, if_neg hclose, if_neg hopen] at h
    obtain ⟨later, hlater, h⟩ := bind_eq_ok_iff.1 h
    obtain rfl := Except.ok.inj h
    obtain ⟨hcanonical, hunbound, hwrite⟩ := ih hlater
    have hstop : ∀ d ∈ (writeChars later).head?, isText d = false := by
      rw [hwrite]
      exact Text.head?_drop_length_takeWhile isText rest
    refine ⟨hcanonical.cons_literal ⟨?_, ?_⟩
      (hcanonical.isPlaceholder_of_writeChars hstop), ?_, ?_⟩
    · rw [String.toList_ofList]
      exact List.cons_ne_nil _ _
    · intro d hd
      rw [String.toList_ofList] at hd
      rcases List.mem_cons.1 hd with rfl | hd
      · simp [isText, hclose, hopen]
      · exact List.mem_takeWhile_imp hd
    · simpa [Token.IsUnbound] using hunbound
    · rw [writeChars_cons, hwrite, Token.chars, String.toList_ofList, List.cons_append]
      exact congrArg (c :: ·) (Text.takeWhile_append_drop isText rest)

/-- Canonical unbound tokens are read from the front of a text as what they are written as, where
the text does not go on with a character that would belong to their last literal. -/
theorem tokensFrom_writeChars_append {tokens : List Token} {rest : List Char}
    (h : Canonical tokens) (hunbound : ∀ t ∈ tokens, t.IsUnbound)
    (hrest : ∀ d ∈ rest.head?, isText d = false) (offset : Nat) :
    tokensFrom offset (writeChars tokens ++ rest) =
      (tokensFrom (offset + (writeChars tokens).length) rest).map (tokens ++ ·) := by
  induction tokens generalizing offset with
  | nil =>
    rw [writeChars_nil, List.nil_append, List.length_nil, Nat.add_zero]
    cases tokensFrom offset rest <;> rfl
  | cons t tokens ih =>
    have htail := ih h.tail fun u hu ↦ hunbound u (List.mem_cons_of_mem t hu)
    have hwell := h.wellFormed t List.mem_cons_self
    have hcons (inner : Nat) (hinner : inner = offset + (writeChars (t :: tokens)).length) :
        ((tokensFrom inner rest).map (tokens ++ ·) >>= fun later ↦ .ok (t :: later)) =
          (tokensFrom (offset + (writeChars (t :: tokens)).length) rest).map
            (t :: tokens ++ ·) := by
      rw [← hinner]
      cases tokensFrom inner rest <;> rfl
    cases t with
    | literal text =>
      obtain ⟨c, cs, hcs⟩ := List.exists_cons_of_ne_nil hwell.1
      have htext : ∀ d ∈ c :: cs, isText d = true := hcs ▸ hwell.2
      have hstop : ∀ d ∈ (writeChars tokens ++ rest).head?, isText d = false := by
        intro d hd
        cases tokens with
        | nil => exact hrest d hd
        | cons u tokens =>
          have hu := h.isPlaceholder_of_head? u rfl
          cases u with
          | literal text => simp [Token.isPlaceholder] at hu
          | placeholder name multiSegment codeName =>
            obtain rfl : '\x7b' = d := by simpa [Token.chars, placeholderChars] using hd
            decide
      rw [← hcons (offset + cs.length + 1 + (writeChars tokens).length), writeChars_cons,
        Token.chars, hcs, List.append_assoc, List.cons_append,
        tokensFrom_literal (htext c List.mem_cons_self)
          (fun d hd ↦ htext d (List.mem_cons_of_mem c hd)) hstop, htail, ← hcs,
        String.ofList_toList]
      simp only [writeChars_cons, Token.chars, hcs, List.length_append, List.length_cons]
      omega
    | placeholder name multiSegment codeName =>
      obtain rfl : codeName = "" := hunbound _ List.mem_cons_self
      rw [← hcons (offset + (name.toList ++ flag multiSegment).length + 2 +
          (writeChars tokens).length), writeChars_cons, Token.chars, List.append_assoc,
        tokensFrom_placeholder hwell, htail, String.ofList_toList]
      simp only [writeChars_cons, Token.chars, placeholderChars, List.length_append,
        List.length_cons, List.length_nil]
      omega

/-- Canonical unbound tokens are read from what they are written as. -/
theorem tokensFrom_writeChars {tokens : List Token} (h : Canonical tokens)
    (hunbound : ∀ t ∈ tokens, t.IsUnbound) (offset : Nat) :
    tokensFrom offset (writeChars tokens) = .ok tokens := by
  have hend : ∀ d ∈ ([] : List Char).head?, isText d = false := nofun
  have happend := tokensFrom_writeChars_append h hunbound hend offset
  rwa [List.append_nil, tokensFrom, except_map_ok, List.append_nil] at happend

/-- The tokens that are read are exactly the canonical unbound ones that are written as the
template. -/
theorem tokensFrom_eq_ok_iff {offset : Nat} {cs : List Char} {tokens : List Token} :
    tokensFrom offset cs = .ok tokens ↔
      Canonical tokens ∧ (∀ t ∈ tokens, t.IsUnbound) ∧ writeChars tokens = cs := by
  constructor
  · exact canonical_of_tokensFrom
  · rintro ⟨hcanonical, hunbound, rfl⟩
    exact tokensFrom_writeChars hcanonical hunbound offset

/-! ### The grammar -/

/-- The names that the placeholders among some tokens give, in order. -/
def placeholderNames (tokens : List Token) : List String := tokens.filterMap Token.name?

/-- Text may stand before a template. -/
theorem Grammar.text_append {names : List String} {text rest : List Char}
    (htext : ∀ c ∈ text, isText c = true) (h : Grammar names rest) :
    Grammar names (text ++ rest) := by
  induction text with
  | nil => exact h
  | cons c text ih =>
    exact .text (htext c List.mem_cons_self) (ih fun d hd ↦ htext d (List.mem_cons_of_mem c hd))

/-- Well-formed tokens are written as a template. -/
theorem grammar_writeChars {tokens : List Token} (h : ∀ t ∈ tokens, t.IsWellFormed) :
    Grammar (placeholderNames tokens) (writeChars tokens) := by
  induction tokens with
  | nil => exact .nil
  | cons t tokens ih =>
    have htail := ih fun u hu ↦ h u (List.mem_cons_of_mem t hu)
    have hwell := h t List.mem_cons_self
    cases t with
    | literal text => exact htail.text_append hwell.2
    | placeholder name multiSegment codeName =>
      have hgrammar := Grammar.placeholder multiSegment hwell htail
      rwa [String.ofList_toList] at hgrammar

/-- A character of text before canonical unbound tokens belongs to their first literal, or makes
one. -/
theorem exists_canonical_cons {c : Char} {tokens : List Token} (hc : isText c = true)
    (h : Canonical tokens) (hunbound : ∀ t ∈ tokens, t.IsUnbound) :
    ∃ tokens', Canonical tokens' ∧ (∀ t ∈ tokens', t.IsUnbound) ∧
      writeChars tokens' = c :: writeChars tokens ∧
      placeholderNames tokens' = placeholderNames tokens := by
  have hnew : (∀ u ∈ tokens.head?, u.isPlaceholder = true) →
      ∃ tokens', Canonical tokens' ∧ (∀ t ∈ tokens', t.IsUnbound) ∧
        writeChars tokens' = c :: writeChars tokens ∧
        placeholderNames tokens' = placeholderNames tokens := by
    intro hp
    refine ⟨.literal (String.ofList [c]) :: tokens, h.cons_literal ?_ hp, ?_, ?_, rfl⟩
    · simpa [Token.IsWellFormed] using hc
    · simpa [Token.IsUnbound] using hunbound
    · rw [writeChars_cons, Token.chars, String.toList_ofList, List.singleton_append]
  cases tokens with
  | nil => exact hnew (by simp)
  | cons t later =>
    cases t with
    | placeholder name multiSegment codeName => exact hnew (by simp [Token.isPlaceholder])
    | literal text =>
      have hwell := h.wellFormed _ List.mem_cons_self
      refine ⟨.literal (String.ofList (c :: text.toList)) :: later,
        h.tail.cons_literal ⟨?_, ?_⟩ h.isPlaceholder_of_head?, ?_, ?_, rfl⟩
      · rw [String.toList_ofList]
        exact List.cons_ne_nil _ _
      · rw [String.toList_ofList]
        exact List.forall_mem_cons.2 ⟨hc, hwell.2⟩
      · exact List.forall_mem_cons.2
          ⟨trivial, fun u hu ↦ hunbound u (List.mem_cons_of_mem _ hu)⟩
      · rw [writeChars_cons, Token.chars, String.toList_ofList]
        rfl

/-- Every template is what some canonical unbound tokens are written as. -/
theorem Grammar.exists_canonical {names : List String} {cs : List Char} (h : Grammar names cs) :
    ∃ tokens, Canonical tokens ∧ (∀ t ∈ tokens, t.IsUnbound) ∧ writeChars tokens = cs ∧
      placeholderNames tokens = names := by
  induction h with
  | nil => exact ⟨[], canonical_nil, by simp, rfl, rfl⟩
  | @text names c rest hc hrest ih =>
    obtain ⟨tokens, hcanonical, hunbound, rfl, rfl⟩ := ih
    exact exists_canonical_cons hc hcanonical hunbound
  | @placeholder names name rest multiSegment hname hrest ih =>
    obtain ⟨tokens, hcanonical, hunbound, rfl, rfl⟩ := ih
    refine ⟨.placeholder (String.ofList name) multiSegment "" :: tokens,
      hcanonical.cons_placeholder ?_ rfl, ?_, ?_, rfl⟩
    · rwa [Token.IsWellFormed, String.toList_ofList]
    · simpa [Token.IsUnbound] using hunbound
    · rw [writeChars_cons, Token.chars, String.toList_ofList]

/-- A template is read, and gives the names of its placeholders, exactly when it is in the
grammar. -/
theorem exists_tokensFrom_iff (offset : Nat) {cs : List Char} {names : List String} :
    (∃ tokens, tokensFrom offset cs = .ok tokens ∧ placeholderNames tokens = names) ↔
      Grammar names cs := by
  constructor
  · rintro ⟨tokens, h, rfl⟩
    obtain ⟨hcanonical, -, rfl⟩ := tokensFrom_eq_ok_iff.1 h
    exact grammar_writeChars hcanonical.wellFormed
  · intro h
    obtain ⟨tokens, hcanonical, hunbound, hwrite, hnames⟩ := h.exists_canonical
    exact ⟨tokens, tokensFrom_eq_ok_iff.2 ⟨hcanonical, hunbound, hwrite⟩, hnames⟩

end ServiceClient.Uri
