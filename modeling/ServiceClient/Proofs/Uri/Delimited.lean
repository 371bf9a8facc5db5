import ServiceClient.Proofs.Uri.Rendering

/-!
# Paths that tell their values

The encoded values of two variables next to each other run together, and so does an encoded value
with a literal that could continue it. A path is delimited if that never happens: after each
placeholder the path ends, or a literal begins with a character that no encoded value holds in that
place. Read from the left, the text of a delimited path gives the values back one by one, so it has
the same text for two sets of values exactly when they agree on its variables.
-/

namespace ServiceClient.Uri

/-- An encoded value ends before the token that follows: if the first token is a placeholder, the
second is a literal that begins with a character that cannot continue the value. -/
def Token.EndsBefore : Token → Token → Prop
  | .placeholder _ multiSegment _, .literal text =>
    ∃ c ∈ text.toList.head?, Percent.isEncodedChar multiSegment c = false
  | .placeholder .., .placeholder .. => False
  | .literal _, _ => True

/-- After every placeholder of a path, the path ends or a literal begins that cannot continue the
value. -/
def Path.IsDelimited (path : Path) : Prop := path.tokens.IsChain Token.EndsBefore

instance : DecidableRel Token.EndsBefore
  | .placeholder .., .literal text => Option.decidableExistsMem text.toList.head?
  | .placeholder .., .placeholder .. => inferInstanceAs (Decidable False)
  | .literal _, _ => inferInstanceAs (Decidable True)

instance (path : Path) : Decidable path.IsDelimited :=
  inferInstanceAs (Decidable (path.tokens.IsChain Token.EndsBefore))

variable {value value' : String → String}

/-- What follows a placeholder in a delimited path does not continue an encoded value. -/
theorem head?_rendered_of_isChain {name codeName : String} {multiSegment : Bool}
    {tokens : List Token}
    (h : (Token.placeholder name multiSegment codeName :: tokens).IsChain Token.EndsBefore)
    (value : String → String) :
    ∀ c ∈ (tokens.flatMap (Token.rendered value)).head?,
      Percent.isEncodedChar multiSegment c = false := by
  intro c hc
  cases tokens with
  | nil => cases hc
  | cons t tokens =>
    have hends := h.rel
    cases t with
    | placeholder => exact hends.elim
    | literal text =>
      obtain ⟨d, hd, hstop⟩ := hends
      obtain ⟨ds, htext⟩ := List.head?_eq_some_iff.1 hd
      rw [List.flatMap_cons, Token.rendered, htext] at hc
      obtain rfl : d = c := Option.some.inj hc
      exact hstop

/-- Delimited tokens that have the same characters for two sets of values have the same values. -/
theorem eq_of_flatMap_rendered_eq {tokens : List Token} (h : tokens.IsChain Token.EndsBefore)
    (heq : tokens.flatMap (Token.rendered value) = tokens.flatMap (Token.rendered value')) :
    ∀ x ∈ tokens.filterMap Token.codeName?, value x = value' x := by
  induction tokens with
  | nil => simp
  | cons t tokens ih =>
    rw [List.flatMap_cons, List.flatMap_cons] at heq
    cases t with
    | literal text => exact ih h.tail (List.append_cancel_left heq)
    | placeholder name multiSegment codeName =>
      obtain ⟨hvalue, hrest⟩ := Percent.eq_of_encodeChars_append_eq heq
        (head?_rendered_of_isChain h value) (head?_rendered_of_isChain h value')
      exact List.forall_mem_cons.2 ⟨String.toList_inj.1 hvalue, ih h.tail hrest⟩

/-- A delimited path has the same text for two sets of strings exactly when they agree on all of its
variables. -/
theorem text_determines_values {path : Path} {values values' : Fields}
    (hdelimited : path.IsDelimited) (hvalues : path.GivesStrings value values)
    (hvalues' : path.GivesStrings value' values') :
    path.renderFrom (.obj values) = path.renderFrom (.obj values') ↔
      ∀ x ∈ path.codeNames, values.lookup x = values'.lookup x := by
  rw [Path.renderFrom_eq_ok hvalues, Path.renderFrom_eq_ok hvalues', Except.ok.injEq,
    String.ofList_inj]
  constructor
  · intro heq x hx
    rw [hvalues x hx, hvalues' x hx, eq_of_flatMap_rendered_eq hdelimited heq x hx]
  · intro hagree
    refine congrArg List.flatten (List.map_congr_left fun t ht ↦ ?_)
    cases t with
    | literal text => rfl
    | placeholder name multiSegment codeName =>
      have hx := Path.mem_codeNames.2 ⟨name, multiSegment, ht⟩
      have hlookup := hagree codeName hx
      rw [hvalues codeName hx, hvalues' codeName hx, Option.some.injEq, Json.str.injEq] at hlookup
      rw [Token.rendered, Token.rendered, hlookup]

/-- A slash ends the value of the first variable, which comes again after the value of the second,
and the table that agrees with the other one holds more and holds it in another order. -/
theorem text_determines_values_repeated :
    let path : Path := ⟨[.placeholder "Id" false "id", .literal "/", .placeholder "Key" true "key",
      .literal "?id=", .placeholder "Id" false "id"]⟩
    Path.compile (.str "\x7bId\x7d/\x7bKey+\x7d?id=\x7bId\x7d")
        [⟨"key", "Key", .str "Key"⟩, ⟨"id", "Id", .str "Id"⟩] = .ok path ∧
      path.IsDelimited ∧
      path.renderFrom (.obj [("id", .str "a/b"), ("key", .str "c/d%")]) =
        path.renderFrom (.obj [("key", .str "c/d%"), ("body", .null), ("id", .str "a/b")]) ∧
      path.renderFrom (.obj [("id", .str "a/b"), ("key", .str "c/d%")]) ≠
        path.renderFrom (.obj [("id", .str "a"), ("key", .str "b/c/d%")]) := by
  intro path
  have hdelimited : path.IsDelimited := by decide
  have hcodeNames : ∀ x ∈ path.codeNames, "key" = x ∨ "id" = x := by
    simp [path, Path.codeNames, Token.codeName?]
  have hvalues : path.GivesStrings (fun x ↦ if x = "id" then "a/b" else "c/d%")
      [("id", .str "a/b"), ("key", .str "c/d%")] := by
    intro x hx
    obtain rfl | rfl := hcodeNames x hx <;> rfl
  have hmore : path.GivesStrings (fun x ↦ if x = "id" then "a/b" else "c/d%")
      [("key", .str "c/d%"), ("body", .null), ("id", .str "a/b")] := by
    intro x hx
    obtain rfl | rfl := hcodeNames x hx <;> rfl
  have hother : path.GivesStrings (fun x ↦ if x = "id" then "a" else "b/c/d%")
      [("id", .str "a"), ("key", .str "b/c/d%")] := by
    intro x hx
    obtain rfl | rfl := hcodeNames x hx <;> rfl
  refine ⟨by cbv, hdelimited, (text_determines_values hdelimited hvalues hmore).2 fun x hx ↦ ?_,
    fun heq ↦ ?_⟩
  · obtain rfl | rfl := hcodeNames x hx <;> rfl
  · have hid : some (Json.str "a/b") = some (.str "a") :=
      (text_determines_values hdelimited hvalues hother).1 heq "id" (by decide)
    simp at hid

/-- Where two placeholders touch, the text does not tell where one value ends. -/
example :
    let path : Path := ⟨[.placeholder "Id" false "id", .placeholder "Key" false "key"]⟩
    path.renderFrom (.obj [("id", .str "a"), ("key", .str "bc")]) =
      path.renderFrom (.obj [("id", .str "ab"), ("key", .str "c")]) := rfl

end ServiceClient.Uri
