import ServiceClient.Proofs.Uri.Source

/-!
# What the source of a path means

The source of a path, read the way its language reads it, gives the tokens of the path back, so that
evaluating what was read is the same as rendering the path. The literals have to be free of quotes
and backslashes, and the variables have to be words.

In Elixir the texts between the interpolations come out as they were, because canonical tokens have
no two literals in a row, and because no literal holds a brace that would start an interpolation. In
Erlang every call stands between two literals, some of which may be empty.
-/

namespace ServiceClient.Uri

namespace Token

/-- What a token is as a part of a string expression. -/
def part : Token → Part
  | .literal text => .text text
  | .placeholder _ multiSegment codeName => .call codeName multiSegment

/-- A token can be read back: its text has no character that ends or escapes something inside a
string, and its variable is a word. -/
def IsReadable : Token → Prop
  | .literal text => '"' ∉ text.toList ∧ '\\' ∉ text.toList
  | .placeholder _ _ codeName => ∀ c ∈ codeName.toList, Identifier.isNameChar c = true

end Token

/-- The characters of the source of some tokens. -/
def sourceChars (language : Language) (tokens : List Token) : List Char :=
  tokens.flatMap fun t ↦ (Path.sourceToken language t).toList

theorem toList_source (path : Path) (language : Language) :
    (path.source language).toList = sourceChars language path.tokens := by
  rw [Path.source, String.toList_join, List.flatMap_map, sourceChars]

theorem sourceChars_literal (language : Language) (text : String) (tokens : List Token) :
    sourceChars language (.literal text :: tokens) =
      text.toList ++ sourceChars language tokens := rfl

theorem sourceToken_elixir (name codeName : String) (multiSegment : Bool) :
    Path.sourceToken .elixir (.placeholder name multiSegment codeName) =
      "#\x7bAWS.Util.encode_uri(" ++ Path.callArguments multiSegment codeName ++ ")\x7d" := rfl

theorem sourceToken_erlang (name codeName : String) (multiSegment : Bool) :
    Path.sourceToken .erlang (.placeholder name multiSegment codeName) =
      "\", aws_util:encode_uri(" ++ Path.callArguments multiSegment codeName ++ "), \"" := rfl

theorem toList_callArguments (multiSegment : Bool) (codeName : String) :
    (Path.callArguments multiSegment codeName).toList =
      codeName.toList ++ Part.flagChars multiSegment := by
  cases multiSegment <;> simp [Path.callArguments, Part.flagChars]

theorem sourceChars_placeholder_elixir (name codeName : String) (multiSegment : Bool)
    (tokens : List Token) :
    sourceChars .elixir (.placeholder name multiSegment codeName :: tokens) =
      '#' :: '\x7b' :: (Part.callChars elixirEncoder codeName.toList multiSegment ++
        '\x7d' :: sourceChars .elixir tokens) := by
  have hopen : "#\x7bAWS.Util.encode_uri(".toList = ['#', '\x7b'] ++ elixirEncoder ++ ['('] := by
    decide
  have hclose : ")\x7d".toList = [')', '\x7d'] := by decide
  rw [sourceChars, List.flatMap_cons, ← sourceChars, sourceToken_elixir, String.toList_append,
    String.toList_append, hopen, hclose, toList_callArguments, Part.callChars]
  simp only [List.append_assoc, List.cons_append, List.nil_append]

theorem sourceChars_placeholder_erlang (name codeName : String) (multiSegment : Bool)
    (tokens : List Token) :
    sourceChars .erlang (.placeholder name multiSegment codeName :: tokens) =
      '"' :: ',' :: ' ' :: (Part.callChars erlangEncoder codeName.toList multiSegment ++
        ',' :: ' ' :: '"' :: sourceChars .erlang tokens) := by
  have hopen : "\", aws_util:encode_uri(".toList = ['"', ',', ' '] ++ erlangEncoder ++ ['('] := by
    decide
  have hclose : "), \"".toList = [')', ',', ' ', '"'] := by decide
  rw [sourceChars, List.flatMap_cons, ← sourceChars, sourceToken_erlang, String.toList_append,
    String.toList_append, hopen, hclose, toList_callArguments, Part.callChars]
  simp only [List.append_assoc, List.cons_append, List.nil_append]

/-! ### Reading the source back -/

/-- In a string of Elixir the tokens are read back, after the text that was read before them. A
literal can only stand there if no text is waiting. -/
theorem readString_sourceChars {tokens : List Token} (hcanonical : Canonical tokens)
    (hreadable : ∀ t ∈ tokens, t.IsReadable) (text rest : List Char)
    (htext : text = [] ∨ ∀ u ∈ tokens.head?, u.isPlaceholder = true) :
    readString text (sourceChars .elixir tokens ++ '"' :: rest) =
      some (Part.consText text (tokens.map Token.part), rest) := by
  induction tokens generalizing text with
  | nil => simp [sourceChars, readString]
  | cons t tokens ih =>
    have htail := ih hcanonical.tail fun u hu ↦ hreadable u (List.mem_cons_of_mem t hu)
    have hread := hreadable t List.mem_cons_self
    cases t with
    | placeholder name multiSegment codeName =>
      rw [sourceChars_placeholder_elixir]
      simp only [List.cons_append, List.append_assoc]
      rw [readString_interpolation hread, htail [] (.inl rfl), String.ofList_toList]
      rfl
    | literal t =>
      obtain rfl : text = [] := htext.resolve_right fun h ↦ absurd (h _ rfl) Bool.false_ne_true
      obtain ⟨hne, hnobrace⟩ := hcanonical.wellFormed _ List.mem_cons_self
      have hopen : '\x7b' ∉ t.toList := fun hmem ↦ absurd (hnobrace _ hmem) (by decide)
      have hnext : ∀ d ∈ (sourceChars .elixir tokens ++ '"' :: rest).head?, d ≠ '\x7b' := by
        -- what follows a literal is an interpolation or the closing quote
        cases tokens with
        | nil => simp [sourceChars]
        | cons u tokens =>
          have hu := hcanonical.isPlaceholder_of_head? u rfl
          cases u with
          | literal text => simp [Token.isPlaceholder] at hu
          | placeholder name multiSegment codeName =>
            rw [sourceChars_placeholder_elixir]
            simp
      rw [sourceChars_literal, List.append_assoc, readString_run hread.1 hread.2 hopen hnext,
        List.nil_append, htail t.toList (.inr hcanonical.isPlaceholder_of_head?),
        Part.consText_of_ne_nil hne, String.ofList_toList]
      rfl

/-- Leaving out the empty texts of some parts leaves out a text before them if it is empty. -/
theorem Part.filter_cons_text (text : List Char) (parts : List Part) :
    (Part.text (String.ofList text) :: parts).filter (· ≠ .text "") =
      Part.consText text (parts.filter (· ≠ .text "")) := by
  cases text with
  | nil => rfl
  | cons c text =>
    rw [Part.consText_of_ne_nil (List.cons_ne_nil c text), List.filter_cons_of_pos]
    simp

/-- In a list of Erlang the tokens are read back, after the text that the current literal began
with. All that is read besides are empty literals. -/
theorem exists_readElements_sourceChars {tokens : List Token} (hcanonical : Canonical tokens)
    (hreadable : ∀ t ∈ tokens, t.IsReadable) (text : List Char) (hquote : '"' ∉ text)
    (hescape : '\\' ∉ text) (htext : text = [] ∨ ∀ u ∈ tokens.head?, u.isPlaceholder = true) :
    ∃ parts, (∀ rest, readElements ('"' :: (text ++ (sourceChars .erlang tokens ++
        '"' :: ']' :: rest))) = some (parts, rest)) ∧
      parts.filter (· ≠ .text "") = Part.consText text (tokens.map Token.part) := by
  induction tokens generalizing text with
  | nil =>
    refine ⟨[.text (String.ofList text)], fun rest ↦ ?_, Part.filter_cons_text text []⟩
    exact readElements_last (readElement_literal hquote hescape _)
  | cons t tokens ih =>
    have htail := ih hcanonical.tail fun u hu ↦ hreadable u (List.mem_cons_of_mem t hu)
    have hread := hreadable t List.mem_cons_self
    cases t with
    | placeholder name multiSegment codeName =>
      obtain ⟨parts, hparts, hfilter⟩ := htail [] (by simp) (by simp) (.inl rfl)
      refine ⟨.text (String.ofList text) :: .call codeName multiSegment :: parts, fun rest ↦ ?_, ?_⟩
      · have hcall := readElement_call hread
          (',' :: ' ' :: '"' :: (sourceChars .erlang tokens ++ '"' :: ']' :: rest)) multiSegment
        rw [String.ofList_toList] at hcall
        rw [sourceChars_placeholder_erlang]
        simp only [List.cons_append, List.append_assoc]
        rw [readElements_cons (readElement_literal hquote hescape _), readElements_cons hcall,
          ← List.nil_append (sourceChars .erlang tokens ++ _), hparts]
        rfl
      · rw [Part.filter_cons_text, List.filter_cons_of_pos (by simp), hfilter, Part.consText_nil]
        rfl
    | literal t =>
      obtain rfl : text = [] := htext.resolve_right fun h ↦ absurd (h _ rfl) Bool.false_ne_true
      have hne := (hcanonical.wellFormed _ List.mem_cons_self).1
      obtain ⟨parts, hparts, hfilter⟩ :=
        htail t.toList hread.1 hread.2 (.inr hcanonical.isPlaceholder_of_head?)
      refine ⟨parts, fun rest ↦ ?_, ?_⟩
      · rw [sourceChars_literal, List.nil_append, List.append_assoc]
        exact hparts rest
      · rw [hfilter, Part.consText_of_ne_nil hne, String.ofList_toList]
        rfl

/-! ### Evaluating what was read -/

/-- What the runtime gives for a call: the value as it is displayed, encoded. -/
def encodeUri (value : Json) (keepsSlashes : Bool) : String :=
  Percent.encode keepsSlashes value.display

/-- The variable of a token, if it has one. -/
def Token.codeName? : Token → Option String
  | .literal _ => none
  | .placeholder _ _ codeName => some codeName

/-- Empty texts add nothing. -/
theorem Part.evaluate_filter (encode : Json → Bool → String) (values : String → Option Json)
    (parts : List Part) :
    evaluate encode values (parts.filter (· ≠ .text "")) = evaluate encode values parts := by
  induction parts with
  | nil => rfl
  | cons part parts ih =>
    by_cases hempty : part = .text ""
    · subst hempty
      rw [List.filter_cons_of_neg (by simp), ih, evaluate]
      simp
    · rw [List.filter_cons_of_pos (by simpa using hempty)]
      cases part with
      | text t => rw [evaluate, evaluate, ih]
      | call name keepsSlashes => rw [evaluate, evaluate, ih]

/-- Rendering a path gives a text when every variable of it has a value, and the parts of the path
are evaluated to that text. -/
theorem exists_render {values : Fields} {tokens : List Token}
    (hvalues : ∀ t ∈ tokens, ∀ codeName ∈ t.codeName?, (values.lookup codeName).isSome = true) :
    ∃ text, (Path.mk tokens).renderFrom (.obj values) = .ok text ∧
      Part.evaluate encodeUri (values.lookup ·) (tokens.map Token.part) = some text := by
  suffices h : ∃ texts,
      tokens.mapM (Path.renderToken fun name ↦ (values.lookup name).map Json.display) = .ok texts ∧
        Part.evaluate encodeUri (values.lookup ·) (tokens.map Token.part) =
          some (String.join texts) by
    obtain ⟨texts, htexts, heval⟩ := h
    refine ⟨String.join texts, ?_, heval⟩
    rw [Path.renderFrom, Path.render, htexts]
    rfl
  induction tokens with
  | nil => exact ⟨[], rfl, rfl⟩
  | cons t tokens ih =>
    obtain ⟨texts, htexts, heval⟩ := ih fun u hu ↦ hvalues u (List.mem_cons_of_mem t hu)
    cases t with
    | literal t =>
      refine ⟨t :: texts, ?_, ?_⟩
      · rw [List.mapM_cons, htexts]
        rfl
      · rw [List.map_cons, Token.part, Part.evaluate, heval, String.join_cons]
        rfl
    | placeholder name multiSegment codeName =>
      obtain ⟨value, hvalue⟩ :=
        Option.isSome_iff_exists.1 (hvalues _ List.mem_cons_self codeName rfl)
      refine ⟨encodeUri value multiSegment :: texts, ?_, ?_⟩
      · rw [List.mapM_cons, htexts, Path.renderToken, hvalue]
        rfl
      · rw [List.map_cons, Token.part, Part.evaluate, heval, hvalue, String.join_cons]
        rfl

/-! ### Compiled templates -/

/-- A character of a literal is a character of what the tokens are written as. -/
theorem mem_writeChars {text : String} {tokens : List Token} (h : Token.literal text ∈ tokens)
    {c : Char} (hc : c ∈ text.toList) : c ∈ writeChars tokens :=
  List.mem_flatMap.2 ⟨_, h, hc⟩

/-- A path can be read back if it comes from a template without quotes and backslashes and from
parameters that are words. -/
theorem isReadable_of_compile_str {template : String} {parameters : List Parameter} {path : Path}
    (hquote : '"' ∉ template.toList) (hescape : '\\' ∉ template.toList)
    (hnames : ∀ p ∈ parameters, ∀ c ∈ p.codeName.toList, Identifier.isNameChar c = true)
    (hpath : Path.compile (.str template) parameters = .ok path) :
    ∀ t ∈ path.tokens, t.IsReadable := by
  obtain ⟨-, tokens, htokens, hbound⟩ := Path.tokens_of_compile_str hpath
  obtain ⟨-, -, hwrite⟩ := tokensFrom_eq_ok_iff.1 htokens
  intro u hu
  obtain ⟨t, ht, htu⟩ := exists_mem_of_forall₂ hbound hu
  obtain ⟨text, rfl, rfl⟩ | ⟨name, multiSegment, unbound, codeName, rfl, rfl, hcode⟩ :=
    Path.bindToken_cases htu
  · exact ⟨fun hmem ↦ hquote (hwrite ▸ mem_writeChars ht hmem),
      fun hmem ↦ hescape (hwrite ▸ mem_writeChars ht hmem)⟩
  · obtain ⟨p, hp, -, rfl⟩ := Path.exists_of_codeName? hcode
    exact hnames p hp

/-- The source of a compiled path means what rendering the path computes. Elixir reads the source as
the tokens of the path, Erlang as the tokens and empty literals, whatever follows the source; and
once every variable of the path has a value, evaluating what either language reads gives the text
that rendering gives. -/
theorem source_means_render {template : String} {parameters : List Parameter} {path : Path}
    (hquote : '"' ∉ template.toList) (hescape : '\\' ∉ template.toList)
    (hnames : ∀ p ∈ parameters, ∀ c ∈ p.codeName.toList, Identifier.isNameChar c = true)
    (hpath : Path.compile (.str template) parameters = .ok path) :
    (∀ rest, readString [] ((path.source .elixir).toList ++ '"' :: rest) =
      some (path.tokens.map Token.part, rest)) ∧
    ∃ parts,
      (∀ rest, readList ('[' :: '"' :: ((path.source .erlang).toList ++ '"' :: ']' :: rest)) =
        some (parts, rest)) ∧
      parts.filter (· ≠ .text "") = path.tokens.map Token.part ∧
      ∀ values : Fields,
        (∀ t ∈ path.tokens, ∀ codeName ∈ t.codeName?, (values.lookup codeName).isSome = true) →
        ∃ text, path.renderFrom (.obj values) = .ok text ∧
          Part.evaluate encodeUri (values.lookup ·) (path.tokens.map Token.part) = some text ∧
          Part.evaluate encodeUri (values.lookup ·) parts = some text := by
  have hreadable := isReadable_of_compile_str hquote hescape hnames hpath
  obtain ⟨-, tokens, htokens, hbound⟩ := Path.tokens_of_compile_str hpath
  have hcanonical : Canonical path.tokens :=
    Path.canonical_of_forall₂_bindToken hbound (tokensFrom_eq_ok_iff.1 htokens).1
  refine ⟨fun rest ↦ ?_, ?_⟩
  · rw [toList_source, readString_sourceChars hcanonical hreadable [] rest (.inl rfl)]
    rfl
  · obtain ⟨parts, hparts, hfilter⟩ :=
      exists_readElements_sourceChars hcanonical hreadable [] (by simp) (by simp) (.inl rfl)
    refine ⟨parts, fun rest ↦ ?_, hfilter, fun values hvalues ↦ ?_⟩
    · rw [toList_source]
      exact hparts rest
    · obtain ⟨text, htext, heval⟩ := exists_render hvalues
      refine ⟨text, htext, heval, ?_⟩
      rw [← Part.evaluate_filter, hfilter]
      exact heval

/-- A number sign stands before an interpolation, two placeholders touch, and one comes twice. -/
theorem source_means_render_adjacent :
    ∃ path, Path.compile (.str "/a#\x7bBucket\x7d\x7bKey+\x7d/\x7bBucket\x7d?x")
        [⟨"bucket", "Bucket", .str "Bucket"⟩, ⟨"key", "Key", .str "Key"⟩] = .ok path ∧
      (∀ rest, readString [] ((path.source .elixir).toList ++ '"' :: rest) =
        some ([.text "/a#", .call "bucket" false, .call "key" true, .text "/",
          .call "bucket" false, .text "?x"], rest)) ∧
      ∃ parts,
        (∀ rest, readList ('[' :: '"' :: ((path.source .erlang).toList ++ '"' :: ']' :: rest)) =
          some (parts, rest)) ∧
        Part.evaluate encodeUri ([("bucket", Json.str "a/b"), ("key", Json.str "c/d")].lookup ·)
          parts = some "/a#a%2Fbc/d/a%2Fb?x" := by
  have hpath : Path.compile (.str "/a#\x7bBucket\x7d\x7bKey+\x7d/\x7bBucket\x7d?x")
      [⟨"bucket", "Bucket", .str "Bucket"⟩, ⟨"key", "Key", .str "Key"⟩] =
        .ok ⟨[.literal "/a#", .placeholder "Bucket" false "bucket", .placeholder "Key" true "key",
          .literal "/", .placeholder "Bucket" false "bucket", .literal "?x"]⟩ := by
    cbv
  have hnames : ([⟨"bucket", "Bucket", .str "Bucket"⟩, ⟨"key", "Key", .str "Key"⟩] :
      List Parameter).all (·.codeName.toList.all Identifier.isNameChar) = true := by
    decide
  obtain ⟨hread, parts, hlist, -, heval⟩ := source_means_render (by decide) (by decide)
    (fun p hp ↦ List.all_eq_true.1 (List.all_eq_true.1 hnames p hp)) hpath
  obtain ⟨text, htext, -, herlang⟩ :=
    heval [("bucket", .str "a/b"), ("key", .str "c/d")] (by decide)
  refine ⟨_, hpath, hread, parts, hlist, herlang.trans ?_⟩
  rw [← Except.ok.inj htext]
  decide

end ServiceClient.Uri
