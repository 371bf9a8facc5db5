import ServiceClient.Proofs.Uri.Binding
import ServiceClient.Proofs.Uri.Neutral

/-!
# Templates come back verbatim

Reading a template and writing tokens undo each other: what is read is written as the template, and
the tokens that can be read are the canonical ones. Binding only puts variables into placeholders,
which are not written, so a compiled path still holds its template to the letter.
-/

namespace ServiceClient.Uri

variable {template : String} {tokens bound : List Token} {parameters : List Parameter}

/-! ### Variables are not written -/

theorem Token.write_unbound (t : Token) : t.unbound.write = t.write := by
  cases t with
  | literal text => rfl
  | placeholder name multiSegment codeName => rfl

/-- Tokens are written alike with and without their variables. -/
theorem write_map_unbound (tokens : List Token) :
    write (tokens.map Token.unbound) = write tokens := by
  rw [write, write, List.map_map]
  exact congrArg String.join (List.map_congr_left fun t _ ↦ t.write_unbound)

/-- Forgetting the variable of a token undoes binding it. -/
theorem Path.unbound_of_bindToken {t u : Token} (h : bindToken parameters t = .ok u)
    (ht : t.IsUnbound) : u.unbound = t := by
  obtain ⟨text, rfl, rfl⟩ | ⟨name, multiSegment, unbound, codeName, rfl, rfl, -⟩ :=
    bindToken_cases h
  · rfl
  · obtain rfl : unbound = "" := ht
    rfl

/-- Forgetting the variables undoes binding. -/
theorem Path.map_unbound_of_forall₂
    (h : List.Forall₂ (fun t u ↦ bindToken parameters t = .ok u) tokens bound)
    (htokens : ∀ t ∈ tokens, t.IsUnbound) : bound.map Token.unbound = tokens := by
  induction h with
  | nil => rfl
  | @cons t u tokens bound htu _ ih =>
    rw [List.map_cons, unbound_of_bindToken htu (htokens t List.mem_cons_self),
      ih fun t' ht' ↦ htokens t' (List.mem_cons_of_mem t ht')]

/-! ### Reading and writing -/

/-- The tokens of a template are the canonical unbound ones that are written as it. -/
theorem tokenize_eq_ok_iff :
    tokenize template = .ok tokens ↔
      Canonical tokens ∧ (∀ t ∈ tokens, t.IsUnbound) ∧ write tokens = template := by
  rw [tokenize, tokensFrom_eq_ok_iff, ← toList_write, String.toList_inj]

/-- Reading and writing undo each other: the tokens of a template are canonical and written as the
template, and canonical unbound tokens are read from what they are written as. A compiled path is
canonical too, has the tokens of its template apart from their variables, and is written as the
template. -/
theorem template_read_back :
    (∀ template tokens, tokenize template = .ok tokens →
      write tokens = template ∧ Canonical tokens ∧ ∀ t ∈ tokens, t.IsUnbound) ∧
    (∀ tokens, Canonical tokens → (∀ t ∈ tokens, t.IsUnbound) →
      tokenize (write tokens) = .ok tokens) ∧
    ∀ template parameters path, Path.compile (.str template) parameters = .ok path →
      tokenize template = .ok (path.tokens.map Token.unbound) ∧ Canonical path.tokens ∧
        write path.tokens = template := by
  refine ⟨fun template tokens h ↦ ?_, fun tokens hcanonical hunbound ↦ ?_,
    fun template parameters path h ↦ ?_⟩
  · obtain ⟨hcanonical, hunbound, hwrite⟩ := tokenize_eq_ok_iff.1 h
    exact ⟨hwrite, hcanonical, hunbound⟩
  · exact tokenize_eq_ok_iff.2 ⟨hcanonical, hunbound, rfl⟩
  · obtain ⟨-, tokens, htokens, hbound⟩ := Path.tokens_of_compile_str h
    have hread : tokenize template = .ok tokens := htokens
    obtain ⟨hcanonical, hunbound, hwrite⟩ := tokenize_eq_ok_iff.1 hread
    have hforget := Path.map_unbound_of_forall₂ hbound hunbound
    refine ⟨by rw [hforget, hread], Path.canonical_of_forall₂_bindToken hbound hcanonical, ?_⟩
    rw [← write_map_unbound, hforget, hwrite]

/-- Two placeholders without text between them, one of them for several segments, before a query. -/
theorem template_read_back_adjacent :
    let template := "/\x7bId\x7d\x7bKey+\x7d?x"
    let tokens (id key : String) : List Token :=
      [.literal "/", .placeholder "Id" false id, .placeholder "Key" true key, .literal "?x"]
    let parameters : List Parameter := [⟨"id", "Id", .str "Id"⟩, ⟨"key", "Key", .str "Key"⟩]
    tokenize template = .ok (tokens "" "") ∧ write (tokens "" "") = template ∧
      Path.compile (.str template) parameters = .ok ⟨tokens "id" "key"⟩ ∧
      write (tokens "id" "key") = template := by
  intro template tokens parameters
  obtain ⟨hwrite, hread, hcompile⟩ := template_read_back
  have htokens : tokenize template = .ok (tokens "" "") := by decide +kernel
  obtain ⟨hwritten, hcanonical, hunbound⟩ := hwrite _ _ htokens
  have hpath : Path.compile (.str template) parameters = .ok ⟨tokens "id" "key"⟩ := by
    rw [Path.compile_str (by simp [Path.Keyable, parameters, Json.key?]), htokens]
    rfl
  refine ⟨?_, hwritten, hpath, (hcompile _ _ _ hpath).2.2⟩
  rw [← hwritten]
  exact hread _ hcanonical hunbound

end ServiceClient.Uri
