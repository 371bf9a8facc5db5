import ServiceClient.Proofs.Uri.Meaning

/-!
# The variables of a path

A path reads the variables of its placeholders and no others, and each of them is the identifier of
a parameter: the last one that goes by the name of the placeholder, if several do. So whatever gives
all parameters their values gives a path its text, and nothing but those values matters.

Renaming replaces variables without looking at what they are for. Two renamings that agree on the
variables of a path make the same of it, which is another way to say that it has no others.
-/

namespace ServiceClient.Uri

/-- The variables of a path, in the order of its placeholders. -/
def Path.codeNames (path : Path) : List String := path.tokens.filterMap Token.codeName?

/-- A token with another variable in place of its own. -/
def Token.rename (σ : String → String) : Token → Token
  | .literal text => .literal text
  | .placeholder name multiSegment codeName => .placeholder name multiSegment (σ codeName)

namespace Path

variable {path : Path} {parameters : List Parameter}

/-- A path with other variables in place of its own. -/
def rename (σ : String → String) (path : Path) : Path := ⟨path.tokens.map (Token.rename σ)⟩

theorem mem_codeNames {codeName : String} :
    codeName ∈ path.codeNames ↔
      ∃ name multiSegment, Token.placeholder name multiSegment codeName ∈ path.tokens := by
  rw [codeNames, List.mem_filterMap]
  constructor
  · rintro ⟨t, ht, hcode⟩
    cases t with
    | literal text => cases hcode
    | placeholder name multiSegment codeName' =>
      obtain rfl := Option.some.inj hcode
      exact ⟨name, multiSegment, ht⟩
  · rintro ⟨name, multiSegment, ht⟩
    exact ⟨_, ht, rfl⟩

/-- Renamings that agree on the variables of a path make the same of it. -/
theorem rename_congr {σ τ : String → String} (h : ∀ x ∈ path.codeNames, σ x = τ x) :
    path.rename σ = path.rename τ := by
  rw [rename, rename]
  refine congrArg Path.mk (List.map_congr_left fun t ht ↦ ?_)
  cases t with
  | literal text => rfl
  | placeholder name multiSegment codeName =>
    rw [Token.rename, Token.rename, h codeName (mem_codeNames.2 ⟨name, multiSegment, ht⟩)]

/-! ### Rendering -/

/-- Values that agree on the variables of a path give the same text. -/
theorem render_congr {values values' : String → Option String}
    (h : ∀ x ∈ path.codeNames, values x = values' x) :
    path.render values = path.render values' := by
  have htokens :
      path.tokens.mapM (renderToken values) = path.tokens.mapM (renderToken values') := by
    refine mapM_congr_left fun t ht ↦ ?_
    cases t with
    | literal text => rfl
    | placeholder name multiSegment codeName =>
      rw [renderToken, renderToken, h codeName (mem_codeNames.2 ⟨name, multiSegment, ht⟩)]
  rw [render, render, htokens]

/-- A path has a text when all of its variables have values. -/
theorem exists_render_eq_ok {values : String → Option String}
    (h : ∀ x ∈ path.codeNames, (values x).isSome = true) :
    ∃ text, path.render values = .ok text := by
  have htokens : ∀ t ∈ path.tokens, ∃ text, renderToken values t = .ok text := by
    intro t ht
    cases t with
    | literal text => exact ⟨text, rfl⟩
    | placeholder name multiSegment codeName =>
      obtain ⟨value, hvalue⟩ :=
        Option.isSome_iff_exists.1 (h codeName (mem_codeNames.2 ⟨name, multiSegment, ht⟩))
      exact ⟨Percent.encode multiSegment value, by rw [renderToken, hvalue]⟩
  obtain ⟨texts, htexts⟩ := exists_mapM_iff.2 htokens
  exact ⟨String.join texts, by rw [render, htexts]; rfl⟩

/-! ### What variables are bound to -/

/-- Of the parameters, one goes by a name and none of those after it does. -/
def IsLastNamed (parameters : List Parameter) (name : String) (p : Parameter) : Prop :=
  ∃ before after, parameters = before ++ p :: after ∧ p.locationName = .str name ∧
    ∀ q ∈ after, q.locationName ≠ .str name

theorem IsLastNamed.mem {name : String} {p : Parameter} (h : IsLastNamed parameters name p) :
    p ∈ parameters := by
  obtain ⟨before, after, rfl, -, -⟩ := h
  simp

theorem isNamed_iff {name : String} {p : Parameter} :
    isNamed name p = true ↔ p.locationName = .str name := by
  rw [isNamed]
  split
  · next s hs => rw [hs, decide_eq_true_eq, Json.str.injEq]
  · next hother => simpa using hother name

/-- The variable found under a name is that of the last parameter that goes by it. -/
theorem exists_isLastNamed_of_codeName? {name codeName : String}
    (h : codeName? parameters name = some codeName) :
    ∃ p, IsLastNamed parameters name p ∧ p.codeName = codeName := by
  obtain ⟨p, hp, rfl⟩ := Option.map_eq_some_iff.1 h
  obtain ⟨hnamed, after, before, hsplit, hafter⟩ := List.find?_eq_some_iff_append.1 hp
  refine ⟨p, ⟨before.reverse, after.reverse, ?_, isNamed_iff.1 hnamed, fun q hq hname ↦ ?_⟩, rfl⟩
  · rw [← List.reverse_reverse parameters, hsplit]
    simp
  · have hother := hafter q (List.mem_reverse.1 hq)
    rw [isNamed_iff.2 hname] at hother
    cases hother

/-- The placeholders of a compiled path were bound one by one. -/
theorem exists_forall₂_bindToken {requestUri : Json}
    (h : Path.compile requestUri parameters = .ok path) :
    ∃ tokens, List.Forall₂ (fun t u ↦ bindToken parameters t = .ok u) tokens path.tokens := by
  obtain ⟨keys, -, h⟩ := bind_eq_ok_iff.1 h
  obtain ⟨tokens, -, h⟩ := bind_eq_ok_iff.1 h
  exact ⟨tokens, bind_eq_ok_iff_forall₂.1 (mapError_eq_ok_iff.1 h)⟩

/-- Every placeholder of a compiled path has the variable of the last parameter that goes by its
name. -/
theorem exists_isLastNamed_of_mem {requestUri : Json}
    (h : Path.compile requestUri parameters = .ok path) {name codeName : String}
    {multiSegment : Bool} (hmem : Token.placeholder name multiSegment codeName ∈ path.tokens) :
    ∃ p, IsLastNamed parameters name p ∧ p.codeName = codeName := by
  obtain ⟨tokens, hbound⟩ := exists_forall₂_bindToken h
  obtain ⟨t, -, ht⟩ := exists_mem_of_forall₂ hbound hmem
  obtain ⟨text, rfl, hliteral⟩ | ⟨name', multiSegment', unbound, codeName', rfl, hplace, hcode⟩ :=
    bindToken_cases ht
  · cases hliteral
  · cases hplace
    exact exists_isLastNamed_of_codeName? hcode

/-- Every variable of a compiled path is the identifier of a parameter. -/
theorem exists_mem_of_mem_codeNames {requestUri : Json}
    (h : Path.compile requestUri parameters = .ok path) {x : String} (hx : x ∈ path.codeNames) :
    ∃ p ∈ parameters, p.codeName = x := by
  obtain ⟨name, multiSegment, hmem⟩ := mem_codeNames.1 hx
  obtain ⟨p, hlast, hcode⟩ := exists_isLastNamed_of_mem h hmem
  exact ⟨p, hlast.mem, hcode⟩

end Path

end ServiceClient.Uri
