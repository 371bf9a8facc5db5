import ServiceClient.Proofs.Uri.Grammar
import ServiceClient.Uri.Path

/-!
# Binding placeholders

Binding gives every placeholder its variable and changes nothing else, so the tokens of a path are
canonical as the tokens of its template are. `compile_str_eq_ok_iff` takes the compilation of a
template apart, and `exists_compile_str_iff` says when it succeeds: the template is in the grammar,
and each of its names is the location name of a parameter.
-/

namespace ServiceClient.Uri.Path

variable {parameters : List Parameter}

/-! ### One placeholder -/

/-- A parameter is found under a name, and it goes by that name. -/
theorem exists_of_codeName? {name codeName : String}
    (h : codeName? parameters name = some codeName) :
    ∃ p ∈ parameters, p.locationName = .str name ∧ p.codeName = codeName := by
  obtain ⟨p, hp, rfl⟩ := Option.map_eq_some_iff.1 h
  have hnamed := List.find?_some hp
  refine ⟨p, List.mem_reverse.1 (List.mem_of_find?_eq_some hp), ?_, rfl⟩
  unfold isNamed at hnamed
  split at hnamed
  · next s hs => rw [hs, of_decide_eq_true hnamed]
  · simp at hnamed

/-- A parameter is found under every name that a parameter goes by. -/
theorem exists_codeName?_iff {name : String} :
    (∃ codeName, codeName? parameters name = some codeName) ↔
      ∃ p ∈ parameters, p.locationName = .str name := by
  constructor
  · rintro ⟨codeName, h⟩
    obtain ⟨p, hp, hname, -⟩ := exists_of_codeName? h
    exact ⟨p, hp, hname⟩
  · rintro ⟨p, hp, hname⟩
    have hsome : (parameters.reverse.find? (isNamed name)).isSome = true := by
      rw [List.find?_isSome]
      exact ⟨p, List.mem_reverse.2 hp, by simp [isNamed, hname]⟩
    obtain ⟨q, hq⟩ := Option.isSome_iff_exists.1 hsome
    exact ⟨q.codeName, by rw [codeName?, hq]; rfl⟩

/-- Binding leaves a literal alone, and gives a placeholder the variable found under its name. -/
theorem bindToken_cases {t u : Token} (h : bindToken parameters t = .ok u) :
    (∃ text, t = .literal text ∧ u = .literal text) ∨
      ∃ name multiSegment unbound codeName, t = .placeholder name multiSegment unbound ∧
        u = .placeholder name multiSegment codeName ∧
        codeName? parameters name = some codeName := by
  cases t with
  | literal text => exact .inl ⟨text, rfl, (Except.ok.inj h).symm⟩
  | placeholder name multiSegment unbound =>
    cases hcode : codeName? parameters name with
    | none => simp [bindToken, hcode] at h
    | some codeName =>
      refine .inr ⟨name, multiSegment, unbound, codeName, rfl, ?_, hcode⟩
      simpa [bindToken, hcode, eq_comm] using h

/-- A token can be bound unless it is a placeholder whose name is nobody's. -/
theorem exists_bindToken_iff {t : Token} :
    (∃ u, bindToken parameters t = .ok u) ↔
      ∀ name ∈ t.name?, ∃ p ∈ parameters, p.locationName = .str name := by
  cases t with
  | literal text => simp [bindToken, Token.name?]
  | placeholder name multiSegment unbound =>
    simp only [Token.name?, Option.mem_some_iff, forall_eq']
    rw [← exists_codeName?_iff]
    cases hcode : codeName? parameters name with
    | none => simp [bindToken, hcode]
    | some codeName => simp [bindToken, hcode]

theorem isPlaceholder_of_bindToken {t u : Token} (h : bindToken parameters t = .ok u) :
    u.isPlaceholder = t.isPlaceholder := by
  obtain ⟨text, rfl, rfl⟩ | ⟨name, multiSegment, unbound, codeName, rfl, rfl, -⟩ :=
    bindToken_cases h
  · rfl
  · rfl

theorem isWellFormed_of_bindToken {t u : Token} (h : bindToken parameters t = .ok u) :
    u.IsWellFormed ↔ t.IsWellFormed := by
  obtain ⟨text, rfl, rfl⟩ | ⟨name, multiSegment, unbound, codeName, rfl, rfl, -⟩ :=
    bindToken_cases h
  · rfl
  · rfl

/-! ### All placeholders -/

theorem bind_eq_ok_iff_forall₂ {tokens : List Token} {path : Path} :
    Path.bind tokens parameters = .ok path ↔
      List.Forall₂ (fun t u ↦ bindToken parameters t = .ok u) tokens path.tokens := by
  rw [Path.bind, bind_eq_ok_iff]
  constructor
  · rintro ⟨bound, hbound, h⟩
    obtain rfl := Except.ok.inj h
    exact mapM_eq_ok_iff.1 hbound
  · intro h
    exact ⟨path.tokens, mapM_eq_ok_iff.2 h, rfl⟩

/-- Binding keeps tokens canonical. -/
theorem canonical_of_forall₂_bindToken {tokens bound : List Token}
    (h : List.Forall₂ (fun t u ↦ bindToken parameters t = .ok u) tokens bound)
    (hcanonical : Canonical tokens) : Canonical bound := by
  induction h with
  | nil => exact canonical_nil
  | @cons t u tokens bound htu hlater ih =>
    have htail := ih hcanonical.tail
    have hwell := (isWellFormed_of_bindToken htu).2 (hcanonical.wellFormed t List.mem_cons_self)
    cases t with
    | placeholder name multiSegment unbound =>
      exact htail.cons_placeholder hwell (isPlaceholder_of_bindToken htu)
    | literal text =>
      obtain rfl : u = .literal text := (Except.ok.inj htu).symm
      refine htail.cons_literal hwell fun v hv ↦ ?_
      cases hlater with
      | nil => simp at hv
      | @cons w v' ts vs hwv hrest =>
        obtain rfl : v' = v := by simpa using hv
        rw [isPlaceholder_of_bindToken hwv]
        exact hcanonical.isPlaceholder_of_head? w rfl

/-- All placeholders can be bound when each of their names is a parameter's. -/
theorem exists_bind_iff {tokens : List Token} :
    (∃ path, Path.bind tokens parameters = .ok path) ↔
      ∀ name ∈ placeholderNames tokens, ∃ p ∈ parameters, p.locationName = .str name := by
  have hbind : (∃ path, Path.bind tokens parameters = .ok path) ↔
      ∃ bound, tokens.mapM (bindToken parameters) = .ok bound := by
    constructor
    · rintro ⟨path, h⟩
      exact ⟨path.tokens, mapM_eq_ok_iff.2 (bind_eq_ok_iff_forall₂.1 h)⟩
    · rintro ⟨bound, h⟩
      exact ⟨⟨bound⟩, bind_eq_ok_iff_forall₂.2 (mapM_eq_ok_iff.1 h)⟩
  rw [hbind, exists_mapM_iff]
  constructor
  · intro h name hname
    obtain ⟨t, ht, hname⟩ := List.mem_filterMap.1 hname
    exact exists_bindToken_iff.1 (h t ht) name hname
  · intro h t ht
    exact exists_bindToken_iff.2 fun name hname ↦ h name (List.mem_filterMap.2 ⟨t, ht, hname⟩)

/-! ### Templates -/

/-- The parameters can be looked up by their location names. -/
def Keyable (parameters : List Parameter) : Prop :=
  ∀ p ∈ parameters, ∃ key, p.locationName.key? = .ok key

/-- A template is compiled by reading it and binding what was read. -/
theorem compile_str (hkey : Keyable parameters) (template : String) :
    Path.compile (.str template) parameters =
      ((tokenize template).mapError (refuse (Text.quoted template)) >>= fun tokens ↦
        (Path.bind tokens parameters).mapError (refuse (Text.quoted template))) := by
  obtain ⟨keys, hkeys⟩ := exists_mapM_iff.2 hkey
  rw [Path.compile, hkeys]
  rfl

/-- A compiled template could be looked up, read and bound. -/
theorem tokens_of_compile_str {template : String} {path : Path}
    (h : Path.compile (.str template) parameters = .ok path) :
    Keyable parameters ∧ ∃ tokens, tokensFrom 0 template.toList = .ok tokens ∧
      List.Forall₂ (fun t u ↦ bindToken parameters t = .ok u) tokens path.tokens := by
  obtain ⟨keys, hkeys, -⟩ := bind_eq_ok_iff.1 h
  have hkey : Keyable parameters := exists_mapM_iff.1 ⟨keys, hkeys⟩
  rw [compile_str hkey, bind_eq_ok_iff] at h
  obtain ⟨tokens, htokens, hpath⟩ := h
  exact ⟨hkey, tokens, mapError_eq_ok_iff.1 htokens,
    bind_eq_ok_iff_forall₂.1 (mapError_eq_ok_iff.1 hpath)⟩

/-- A template is compiled when it is in the grammar and its names are the parameters'. -/
theorem exists_compile_str_iff (hkey : Keyable parameters) {template : String} :
    (∃ path, Path.compile (.str template) parameters = .ok path) ↔
      ∃ names, Grammar names template.toList ∧
        ∀ name ∈ names, ∃ p ∈ parameters, p.locationName = .str name := by
  rw [compile_str hkey]
  constructor
  · rintro ⟨path, h⟩
    obtain ⟨tokens, htokens, hpath⟩ := bind_eq_ok_iff.1 h
    exact ⟨_, (exists_tokensFrom_iff 0).1 ⟨tokens, mapError_eq_ok_iff.1 htokens, rfl⟩,
      exists_bind_iff.1 ⟨path, mapError_eq_ok_iff.1 hpath⟩⟩
  · rintro ⟨names, hgrammar, hnames⟩
    obtain ⟨tokens, htokens, rfl⟩ := (exists_tokensFrom_iff 0).2 hgrammar
    obtain ⟨path, hpath⟩ := exists_bind_iff.2 hnames
    exact ⟨path, by rw [tokenize, htokens, mapError_ok, ok_bind, hpath, mapError_ok]⟩

/-- Whatever is wrong with a template is told as a defect of it. -/
theorem exists_defect_of_compile_str (hkey : Keyable parameters) {template : String} {fault : Fault}
    (h : Path.compile (.str template) parameters = .error fault) :
    ∃ defect, fault = refuse (Text.quoted template) defect := by
  rw [compile_str hkey] at h
  cases htokens : tokenize template with
  | error defect =>
    rw [htokens] at h
    exact ⟨defect, (Except.error.inj h).symm⟩
  | ok tokens =>
    rw [htokens, mapError_ok, ok_bind] at h
    cases hpath : Path.bind tokens parameters with
    | error defect =>
      rw [hpath] at h
      exact ⟨defect, (Except.error.inj h).symm⟩
    | ok path =>
      rw [hpath] at h
      cases h

end ServiceClient.Uri.Path
