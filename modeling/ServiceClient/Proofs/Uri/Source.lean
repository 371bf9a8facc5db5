import ServiceClient.Proofs.Uri.Binding

/-!
# Reading the source of a path

A path is written into a client module as a string expression, and the client evaluates it when it
makes a request. Here each target language reads its form of the expression, character by character
and without looking at the path: Elixir the inside of a string, in which a number sign with an
opening brace starts an interpolation that ends at the next closing brace; Erlang a list of string
literals and calls. Either reading gives `Part`s, which `evaluate` turns into text once the function
of the runtime and the values of the variables are known.

Beside each reader stand the equations that run it over what is written into a module: over text
that holds no character with a meaning of its own, over an interpolation, and over the elements of a
list.
-/

namespace ServiceClient.Uri

/-- A part of a string expression, as it is read. -/
inductive Part
  /-- Text that stands for itself. -/
  | text (text : String)
  /-- A call that encodes the variable of a name, keeping its slashes or not. -/
  | call (name : String) (keepsSlashes : Bool)
  deriving DecidableEq

namespace Part

/-- Text before some parts, unless the text is empty. -/
def consText (text : List Char) (parts : List Part) : List Part :=
  if text.isEmpty then parts else .text (String.ofList text) :: parts

@[simp] theorem consText_nil (parts : List Part) : consText [] parts = parts := rfl

theorem consText_of_ne_nil {text : List Char} (h : text ≠ []) (parts : List Part) :
    consText text parts = .text (String.ofList text) :: parts := by
  rw [consText, if_neg (by simpa using h)]

/-- The text that parts stand for: what a call gives is `encodeUri` of the value of its variable and
of whether slashes are kept. There is none if a variable has no value. -/
def evaluate (encodeUri : Json → Bool → String) (values : String → Option Json) :
    List Part → Option String
  | [] => some ""
  | .text t :: rest => (evaluate encodeUri values rest).map (t ++ ·)
  | .call name keepsSlashes :: rest => do
    let value ← values name
    let later ← evaluate encodeUri values rest
    return encodeUri value keepsSlashes ++ later

/-- A call of a function with a variable, or with a variable and the word true, and the text after
it. -/
def readCall? (function cs : List Char) : Option (Part × List Char) := do
  let arguments ← cs.dropPrefix? (function ++ ['('])
  let name := String.ofList (arguments.takeWhile Identifier.isNameChar)
  match arguments.dropWhile Identifier.isNameChar with
  | ')' :: rest => some (.call name false, rest)
  | ',' :: ' ' :: 't' :: 'r' :: 'u' :: 'e' :: ')' :: rest => some (.call name true, rest)
  | _ => none

/-- The second argument of a call, if it has one. -/
def flagChars (keepsSlashes : Bool) : List Char :=
  if keepsSlashes then [',', ' ', 't', 'r', 'u', 'e'] else []

/-- The characters of a call. -/
def callChars (function name : List Char) (keepsSlashes : Bool) : List Char :=
  function ++ '(' :: (name ++ flagChars keepsSlashes ++ [')'])

/-- A call holds no closing brace unless its function does. -/
theorem close_notMem_callChars {function name : List Char} (hfunction : '\x7d' ∉ function)
    (hname : ∀ c ∈ name, Identifier.isNameChar c = true) (keepsSlashes : Bool) :
    '\x7d' ∉ callChars function name keepsSlashes := by
  have hnot : '\x7d' ∉ name := fun hmem ↦ absurd (hname _ hmem) (by decide)
  cases keepsSlashes <;> simp [callChars, flagChars, hfunction, hnot]

/-- A call is read as it was written. -/
theorem readCall?_callChars {name : List Char}
    (hname : ∀ c ∈ name, Identifier.isNameChar c = true) (function rest : List Char)
    (keepsSlashes : Bool) :
    readCall? function (callChars function name keepsSlashes ++ rest) =
      some (.call (String.ofList name) keepsSlashes, rest) := by
  have hdrop : (callChars function name keepsSlashes ++ rest).dropPrefix? (function ++ ['(']) =
      some (name ++ (flagChars keepsSlashes ++ ')' :: rest)) := by
    rw [List.dropPrefix?_eq_some_iff]
    exact ⟨function ++ ['('], by simp [callChars], by simp⟩
  have hread (after : List Char) (hafter : ∀ c ∈ after.head?, Identifier.isNameChar c = false) :
      (name ++ after).takeWhile Identifier.isNameChar = name ∧
        (name ++ after).dropWhile Identifier.isNameChar = after :=
    ⟨Text.takeWhile_run hname hafter, Text.dropWhile_run hname hafter⟩
  rw [readCall?, hdrop]
  cases keepsSlashes with
  | false =>
    obtain ⟨htake, hafter⟩ := hread (')' :: rest) (by simp; decide)
    simp [flagChars, htake, hafter]
  | true =>
    obtain ⟨htake, hafter⟩ :=
      hread (',' :: ' ' :: 't' :: 'r' :: 'u' :: 'e' :: ')' :: rest) (by simp; decide)
    simp [flagChars, htake, hafter]

end Part

/-! ### The two readings -/

/-- The function that encodes in Elixir. -/
def elixirEncoder : List Char := "AWS.Util.encode_uri".toList

/-- The function that encodes in Erlang. -/
def erlangEncoder : List Char := "aws_util:encode_uri".toList

/-- Reads the inside of a string in Elixir up to its closing quote: the parts, and what follows the
quote. The text since the last interpolation is given first. A backslash takes the next character as
it is, and an interpolation holds a call of the encoder. -/
def readString (text cs : List Char) : Option (List Part × List Char) :=
  match cs with
  | [] => none
  | '"' :: rest => some (Part.consText text [], rest)
  | '\\' :: c :: rest => readString (text ++ [c]) rest
  | '#' :: '\x7b' :: rest =>
    let code := rest.takeWhile (· ≠ '\x7d')
    match Part.readCall? elixirEncoder code with
    | some (call, []) => do
      let (parts, after) ← readString [] (rest.drop (code.length + 1))
      return (Part.consText text (call :: parts), after)
    | _ => none
  | c :: rest => readString (text ++ [c]) rest
termination_by cs.length
decreasing_by all_goals simp only [List.length_drop, List.length_cons]; omega

/-- Reads the inside of a string literal in Erlang up to its closing quote: the text, and what
follows the quote. A backslash takes the next character as it is. -/
def readLiteral : List Char → Option (List Char × List Char)
  | [] => none
  | '"' :: rest => some ([], rest)
  | '\\' :: c :: rest => (readLiteral rest).map fun r ↦ (c :: r.1, r.2)
  | c :: rest => (readLiteral rest).map fun r ↦ (c :: r.1, r.2)

/-- Reads an element of a list in Erlang, a string literal or a call of the encoder. -/
def readElement (cs : List Char) : Option (Part × List Char) :=
  match cs with
  | '"' :: rest => (readLiteral rest).map fun r ↦ (.text (String.ofList r.1), r.2)
  | _ => Part.readCall? erlangEncoder cs

theorem readLiteral_length {cs text rest : List Char} (h : readLiteral cs = some (text, rest)) :
    rest.length < cs.length := by
  fun_induction readLiteral cs generalizing text rest with
  | case1 => simp at h
  | case2 later =>
    obtain ⟨-, rfl⟩ : [] = text ∧ later = rest := by simpa using h
    simp
  | case3 c later ih =>
    obtain ⟨⟨text', rest'⟩, hread, hr⟩ := Option.map_eq_some_iff.1 h
    obtain ⟨-, rfl⟩ : c :: text' = text ∧ rest' = rest := by simpa using hr
    have := ih hread
    simp only [List.length_cons]
    omega
  | case4 c later _ _ ih =>
    obtain ⟨⟨text', rest'⟩, hread, hr⟩ := Option.map_eq_some_iff.1 h
    obtain ⟨-, rfl⟩ : c :: text' = text ∧ rest' = rest := by simpa using hr
    have := ih hread
    simp only [List.length_cons]
    omega

theorem Part.readCall?_length {function cs rest : List Char} {part : Part}
    (h : Part.readCall? function cs = some (part, rest)) : rest.length < cs.length := by
  obtain ⟨arguments, hdrop, hread⟩ := Option.bind_eq_some_iff.1 h
  obtain ⟨start, rfl, -⟩ := List.dropPrefix?_eq_some_iff.1 hdrop
  have hshorter : (arguments.dropWhile Identifier.isNameChar).length ≤ arguments.length :=
    (List.dropWhile_suffix _).length_le
  rw [List.length_append]
  dsimp only at hread
  split at hread
  · next heq =>
    obtain rfl := (Prod.mk.inj (Option.some.inj hread)).2
    rw [heq, List.length_cons] at hshorter
    omega
  · next heq =>
    obtain rfl := (Prod.mk.inj (Option.some.inj hread)).2
    simp only [heq, List.length_cons] at hshorter
    omega
  · simp at hread

theorem readElement_length {cs rest : List Char} {part : Part}
    (h : readElement cs = some (part, rest)) : rest.length < cs.length := by
  unfold readElement at h
  split at h
  · obtain ⟨⟨text, later⟩, hread, hr⟩ := Option.map_eq_some_iff.1 h
    obtain rfl : later = rest := (Prod.mk.inj hr).2
    have := readLiteral_length hread
    rw [List.length_cons]
    omega
  · exact Part.readCall?_length h

/-- Reads the elements of a list in Erlang up to its closing bracket: the parts, and what follows
the bracket. -/
def readElements (cs : List Char) : Option (List Part × List Char) :=
  match _ : readElement cs with
  | some (part, ']' :: rest) => some ([part], rest)
  | some (part, ',' :: ' ' :: rest) =>
    (readElements rest).map fun r ↦ (part :: r.1, r.2)
  | _ => none
termination_by cs.length
decreasing_by
  have := readElement_length ‹readElement cs = _›
  simp only [List.length_cons] at this
  omega

/-- Reads a list in Erlang. -/
def readList : List Char → Option (List Part × List Char)
  | '[' :: rest => readElements rest
  | _ => none

/-! ### Running the reading of Elixir -/

/-- A character that neither ends the string nor escapes another nor starts an interpolation is
text. -/
theorem readString_char {c : Char} {rest : List Char} (hquote : c ≠ '"') (hescape : c ≠ '\\')
    (hopen : ∀ d ∈ rest.head?, d ≠ '\x7b') (text : List Char) :
    readString text (c :: rest) = readString (text ++ [c]) rest := by
  rw [readString.eq_def]
  split
  · simp_all
  · simp_all
  · simp_all
  · simp_all
  · simp_all

/-- A run of text is read as it stands. -/
theorem readString_run {run rest : List Char} (hquote : '"' ∉ run) (hescape : '\\' ∉ run)
    (hopen : '\x7b' ∉ run) (hrest : ∀ d ∈ rest.head?, d ≠ '\x7b') (text : List Char) :
    readString text (run ++ rest) = readString (text ++ run) rest := by
  induction run generalizing text with
  | nil => simp
  | cons c run ih =>
    rw [List.mem_cons, not_or] at hquote hescape hopen
    have hnext : ∀ d ∈ (run ++ rest).head?, d ≠ '\x7b' := by
      cases run with
      | nil => exact hrest
      | cons d run =>
        intro e he
        obtain rfl : d = e := by simpa using he
        exact fun h ↦ hopen.2 (h ▸ List.mem_cons_self)
    rw [List.cons_append, readString_char (Ne.symm hquote.1) (Ne.symm hescape.1) hnext,
      ih hquote.2 hescape.2 hopen.2, List.append_assoc, List.singleton_append]

/-- An interpolation of a call is read as the call, and ends the text before it. -/
theorem readString_interpolation {name : List Char}
    (hname : ∀ c ∈ name, Identifier.isNameChar c = true) (text rest : List Char)
    (keepsSlashes : Bool) :
    readString text ('#' :: '\x7b' ::
        (Part.callChars elixirEncoder name keepsSlashes ++ '\x7d' :: rest)) =
      (readString [] rest).map fun r ↦
        (Part.consText text (.call (String.ofList name) keepsSlashes :: r.1), r.2) := by
  have hclose : ∀ c ∈ Part.callChars elixirEncoder name keepsSlashes,
      (decide (c ≠ '\x7d')) = true := by
    intro c hc
    refine decide_eq_true ?_
    rintro rfl
    exact Part.close_notMem_callChars (by decide) hname keepsSlashes hc
  have htake : (Part.callChars elixirEncoder name keepsSlashes ++ '\x7d' :: rest).takeWhile
      (· ≠ '\x7d') = Part.callChars elixirEncoder name keepsSlashes :=
    Text.takeWhile_run hclose (by simp)
  have hdrop : (Part.callChars elixirEncoder name keepsSlashes ++ '\x7d' :: rest).drop
      ((Part.callChars elixirEncoder name keepsSlashes).length + 1) = rest := by
    rw [← List.drop_drop, List.drop_left]
    rfl
  have hcall := Part.readCall?_callChars hname elixirEncoder [] keepsSlashes
  rw [List.append_nil] at hcall
  rw [readString]
  simp only [htake, hcall, hdrop]
  cases readString [] rest <;> rfl

/-! ### Running the reading of Erlang -/

/-- Text without quotes and backslashes is read as it stands. -/
theorem readLiteral_run {text : List Char} (hquote : '"' ∉ text) (hescape : '\\' ∉ text)
    (rest : List Char) : readLiteral (text ++ '"' :: rest) = some (text, rest) := by
  induction text with
  | nil => rfl
  | cons c text ih =>
    rw [List.mem_cons, not_or] at hquote hescape
    rw [List.cons_append, readLiteral.eq_def]
    split
    · simp_all
    · simp_all
    · simp_all
    · simp_all

theorem readElement_literal {text : List Char} (hquote : '"' ∉ text) (hescape : '\\' ∉ text)
    (rest : List Char) :
    readElement ('"' :: (text ++ '"' :: rest)) = some (.text (String.ofList text), rest) := by
  rw [readElement, readLiteral_run hquote hescape]
  rfl

theorem readElement_call {name : List Char} (hname : ∀ c ∈ name, Identifier.isNameChar c = true)
    (rest : List Char) (keepsSlashes : Bool) :
    readElement (Part.callChars erlangEncoder name keepsSlashes ++ rest) =
      some (.call (String.ofList name) keepsSlashes, rest) :=
  Part.readCall?_callChars hname erlangEncoder rest keepsSlashes

/-- An element before the closing bracket is the last. -/
theorem readElements_last {cs rest : List Char} {part : Part}
    (h : readElement cs = some (part, ']' :: rest)) : readElements cs = some ([part], rest) := by
  rw [readElements]
  split
  · simp_all
  · simp_all
  · simp_all

/-- An element before a comma is followed by the others. -/
theorem readElements_cons {cs rest : List Char} {part : Part}
    (h : readElement cs = some (part, ',' :: ' ' :: rest)) :
    readElements cs = (readElements rest).map fun r ↦ (part :: r.1, r.2) := by
  rw [readElements]
  split
  · simp_all
  · simp_all
  · simp_all

end ServiceClient.Uri
