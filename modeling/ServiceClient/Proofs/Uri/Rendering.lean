import ServiceClient.Proofs.Text.Split
import ServiceClient.Proofs.Uri.Percent
import ServiceClient.Proofs.Uri.Variables

/-!
# The text of a path

Given strings for its variables, a path has a text: the literals as they are, and each value encoded
in the place of its variable (`renderFrom_eq_ok`).

A character is structural if it is neither unreserved nor a percent sign. These are the characters
that divide a path, start its query and its fragment, and divide the query. The structural
characters of a text are those of the literals and the slashes of the values that may span several
segments, in this order (`filter_rendered`); so values cannot change what the template lays down.
-/

namespace ServiceClient.Uri

/-- Whether a character is neither unreserved nor a percent sign. -/
def isStructural (c : Char) : Bool := !Percent.isUnreserved c && c ≠ '%'

/-- Whether a character starts neither a query nor a fragment. -/
def continuesPath (c : Char) : Bool := c ≠ '?' && c ≠ '#'

/-- How many segments the path in a text has, which goes as far as the query or the fragment. -/
def segmentCount (cs : List Char) : Nat := ((cs.takeWhile continuesPath).splitOn '/').length

namespace Token

variable (value : String → String)

/-- The characters of a token, given the values of the variables. -/
def rendered : Token → List Char
  | .literal text => text.toList
  | .placeholder _ multiSegment codeName =>
    Percent.encodeChars multiSegment (value codeName).toList

/-- The structural characters of a token: those of a literal, and the slashes of a value that may
span several segments. -/
def structural : Token → List Char
  | .literal text => text.toList.filter isStructural
  | .placeholder _ multiSegment codeName =>
    if multiSegment then (value codeName).toList.filter (· = '/') else []

/-- The characters of a literal. -/
def literalChars : Token → List Char
  | .literal text => text.toList
  | .placeholder .. => []

/-- The characters of a value that may span several segments. -/
def openChars : Token → List Char
  | .literal _ => []
  | .placeholder _ multiSegment codeName => if multiSegment then (value codeName).toList else []

end Token

namespace Path

variable (path : Path) (value : String → String)

/-- The fields hold a string for every variable of a path. -/
def GivesStrings (values : Fields) : Prop :=
  ∀ x ∈ path.codeNames, values.lookup x = some (.str (value x))

/-- The characters of a path, given the values of its variables. -/
def rendered : List Char := path.tokens.flatMap (Token.rendered value)

/-- The structural characters of a path, in order. -/
def structural : List Char := path.tokens.flatMap (Token.structural value)

/-- The characters of the literals of a path. -/
def literalChars : List Char := path.tokens.flatMap Token.literalChars

/-- The characters of the values that may span several segments, once for each placeholder. -/
def openChars : List Char := path.tokens.flatMap (Token.openChars value)

variable {path value} {values : Fields}

/-- A path has a text when strings are given for its variables. -/
theorem renderFrom_eq_ok (h : path.GivesStrings value values) :
    path.renderFrom (.obj values) = .ok (String.ofList (path.rendered value)) := by
  have htokens : path.tokens.mapM
      (renderToken fun name ↦ (values.lookup name).map Json.display) =
        .ok (path.tokens.map fun t ↦ String.ofList (t.rendered value)) := by
    refine mapM_eq_ok_map fun t ht ↦ ?_
    cases t with
    | literal text => rw [renderToken, Token.rendered, String.ofList_toList]
    | placeholder name multiSegment codeName =>
      rw [renderToken, h codeName (mem_codeNames.2 ⟨name, multiSegment, ht⟩)]
      rfl
  have hjoin : String.join (path.tokens.map fun t ↦ String.ofList (t.rendered value)) =
      String.ofList (path.rendered value) := by
    rw [← String.toList_inj, String.toList_join, List.flatMap_map, String.toList_ofList, rendered]
    exact congrArg (path.tokens.flatMap ·) (funext fun t ↦ String.toList_ofList)
  rw [renderFrom, render, htokens, ok_bind, pure_eq_ok, hjoin, mapError_ok]

end Path

/-! ### The structural characters of a value -/

theorem isStructural_iff {c : Char} :
    isStructural c = true ↔ Percent.isUnreserved c = false ∧ c ≠ '%' := by
  rw [isStructural, Bool.and_eq_true, Bool.not_eq_true', decide_eq_true_eq]

/-- The only structural character that an encoded value can hold is a slash that was kept. -/
theorem filter_encodeChar (multiSegment : Bool) (c : Char) :
    (Percent.encodeChar multiSegment c).filter isStructural =
      if multiSegment = true ∧ c = '/' then ['/'] else [] := by
  rw [Percent.encodeChar]
  split
  · next hc =>
    by_cases hslash : c = '/'
    · subst hslash
      have hreserved : Percent.isUnreserved '/' = false := by decide
      have hmulti : multiSegment = true := by simpa [Percent.isSafe, hreserved] using hc
      rw [if_pos ⟨hmulti, rfl⟩]
      decide
    · have hfree : Percent.isUnreserved c = true := by simpa [Percent.isSafe, hslash] using hc
      rw [if_neg fun h ↦ hslash h.2, List.filter_eq_nil_iff]
      simp [isStructural, hfree]
  · next hc =>
    have hnot : ¬(multiSegment = true ∧ c = '/') := by
      rintro ⟨rfl, rfl⟩
      exact hc (by decide)
    rw [if_neg hnot, List.filter_eq_nil_iff]
    intro d hd hstructural
    obtain ⟨hreserved, hpercent⟩ := isStructural_iff.1 hstructural
    have htriples : Percent.Encoded false ((String.utf8EncodeChar c).flatMap Percent.triple) :=
      Percent.encoded_flatMap_triple _
    have hencoded := htriples.isEncodedChar_of_mem hd
    simp [Percent.isEncodedChar, Percent.isSafe, hreserved, hpercent] at hencoded

theorem filter_encodeChars (multiSegment : Bool) (cs : List Char) :
    (Percent.encodeChars multiSegment cs).filter isStructural =
      if multiSegment then cs.filter (· = '/') else [] := by
  induction cs with
  | nil => cases multiSegment <;> rfl
  | cons c cs ih =>
    rw [Percent.encodeChars, List.flatMap_cons, List.filter_append, filter_encodeChar,
      ← Percent.encodeChars, ih]
    cases multiSegment with
    | false => simp
    | true => by_cases hslash : c = '/' <;> simp [hslash]

theorem Token.filter_rendered (value : String → String) (t : Token) :
    (t.rendered value).filter isStructural = t.structural value := by
  cases t with
  | literal text => rfl
  | placeholder name multiSegment codeName => exact filter_encodeChars multiSegment _

/-- A structural character stands in a token as often as in its literal, and a slash also as often
as in a value that may span several segments. -/
theorem Token.count_structural (value : String → String) {c : Char} (hc : isStructural c = true)
    (t : Token) :
    (t.structural value).count c =
      t.literalChars.count c + if c = '/' then (t.openChars value).count '/' else 0 := by
  cases t with
  | literal text => simp [structural, literalChars, openChars, List.count_filter hc]
  | placeholder name multiSegment codeName =>
    by_cases hslash : c = '/'
    · subst hslash
      cases multiSegment with
      | false => rfl
      | true => simp [structural, literalChars, openChars, List.count_filter]
    · have hkept : c ∉ (value codeName).toList.filter (· = '/') := by simp [hslash]
      cases multiSegment with
      | false => simp [structural, literalChars, hslash]
      | true => simp [structural, literalChars, hslash, List.count_eq_zero.2 hkept]

/-! ### The structural characters of a path -/

/-- The structural characters of a text, in order, are those of the literals and the slashes of the
values that may span several segments. -/
theorem Path.filter_rendered (path : Path) (value : String → String) :
    (path.rendered value).filter isStructural = path.structural value := by
  rw [rendered, List.filter_flatMap, funext (Token.filter_rendered value), structural]

theorem Path.count_structural (path : Path) (value : String → String) {c : Char}
    (hc : isStructural c = true) :
    (path.structural value).count c =
      path.literalChars.count c + if c = '/' then (path.openChars value).count '/' else 0 := by
  rw [structural, literalChars, openChars]
  induction path.tokens with
  | nil => simp
  | cons t tokens ih =>
    simp only [List.flatMap_cons, List.count_append, ih, Token.count_structural value hc]
    split <;> omega

/-- The segments of a path are told by its structural characters. -/
theorem segmentCount_filter (cs : List Char) :
    segmentCount (cs.filter isStructural) = segmentCount cs := by
  rw [segmentCount, segmentCount, Text.length_splitOn, Text.length_splitOn,
    Nat.add_right_cancel_iff]
  induction cs with
  | nil => rfl
  | cons c cs ih =>
    cases hgoes : continuesPath c with
    | false =>
      have hc : isStructural c = true := by
        obtain rfl | rfl : c = '?' ∨ c = '#' := by
          simpa [continuesPath, or_iff_not_imp_left] using hgoes
        · decide
        · decide
      have hends : ¬continuesPath c = true := by simp [hgoes]
      rw [List.filter_cons_of_pos hc, List.takeWhile_cons_of_neg hends,
        List.takeWhile_cons_of_neg hends]
    | true =>
      rw [List.takeWhile_cons_of_pos hgoes, List.count_cons]
      cases hc : isStructural c with
      | true =>
        rw [List.filter_cons_of_pos hc, List.takeWhile_cons_of_pos hgoes, List.count_cons, ih]
      | false =>
        have hslash : c ≠ '/' := by
          rintro rfl
          exact absurd hc (by decide)
        rw [List.filter_cons_of_neg (by rw [hc]; exact Bool.false_ne_true), ih]
        simp [hslash]

/-- Values add no structure to the text of a path. A character that is neither unreserved nor a
percent sign stands in the text as often as in the literals, and a slash also as often as in the
values that may span several segments; the segments are as many as the structural characters of the
template and the slashes of those values make; and in what a value is encoded as, two capital
hexadecimal digits follow every percent sign. -/
theorem values_add_no_structure {path : Path} {values : Fields} {value : String → String}
    (hvalues : path.GivesStrings value values) :
    ∃ text, path.renderFrom (.obj values) = .ok text ∧
      text.toList = path.rendered value ∧
      (∀ c, Percent.isUnreserved c = false → c ≠ '%' →
        text.toList.count c =
          path.literalChars.count c + if c = '/' then (path.openChars value).count '/' else 0) ∧
      segmentCount text.toList = segmentCount (path.structural value) ∧
      ∀ name multiSegment codeName,
        Token.placeholder name multiSegment codeName ∈ path.tokens → ∀ before after,
          Percent.encodeChars multiSegment (value codeName).toList = before ++ '%' :: after →
          ∃ high low rest, after = high :: low :: rest ∧ Percent.isTripleDigit high = true ∧
            Percent.isTripleDigit low = true := by
  refine ⟨_, Path.renderFrom_eq_ok hvalues, String.toList_ofList, fun c hreserved hpercent ↦ ?_, ?_,
    fun name multiSegment codeName _ before after hencoded ↦ ?_⟩
  · have hc : isStructural c = true := isStructural_iff.2 ⟨hreserved, hpercent⟩
    rw [String.toList_ofList, ← path.count_structural value hc, ← path.filter_rendered value,
      List.count_filter hc]
  · rw [String.toList_ofList, ← path.filter_rendered value, segmentCount_filter]
  · have hform := Percent.encoded_encodeChars multiSegment (value codeName).toList
    rw [hencoded] at hform
    exact hform.digits_of_percent

/-- One value would end the path and the other would add to it and start a fragment, if they were
not encoded; the second may keep its slash. -/
theorem values_add_no_structure_slashes :
    let path : Path := ⟨[.literal "/", .placeholder "Bucket" false "bucket", .literal "/",
      .placeholder "Key" true "key", .literal "?x=1"]⟩
    Path.compile (.str "/\x7bBucket\x7d/\x7bKey+\x7d?x=1")
        [⟨"bucket", "Bucket", .str "Bucket"⟩, ⟨"key", "Key", .str "Key"⟩] = .ok path ∧
      ∃ text,
        path.renderFrom (.obj [("bucket", .str "a/b?c"), ("key", .str "d/e#%f")]) = .ok text ∧
        text.toList.count '/' = 3 ∧ text.toList.count '?' = 1 ∧ text.toList.count '#' = 0 ∧
        segmentCount text.toList = 4 := by
  intro path
  have hvalues : path.GivesStrings (fun x ↦ if x = "bucket" then "a/b?c" else "d/e#%f")
      [("bucket", .str "a/b?c"), ("key", .str "d/e#%f")] := by
    have hcodeNames : ∀ x ∈ path.codeNames, "bucket" = x ∨ "key" = x := by
      simp [path, Path.codeNames, Token.codeName?]
    intro x hx
    obtain rfl | rfl := hcodeNames x hx <;> rfl
  obtain ⟨text, htext, -, hcount, hsegments, -⟩ := values_add_no_structure hvalues
  refine ⟨by cbv, text, htext, (hcount '/' (by decide) (by decide)).trans ?_,
    (hcount '?' (by decide) (by decide)).trans ?_,
    (hcount '#' (by decide) (by decide)).trans ?_, hsegments.trans ?_⟩
  all_goals decide

end ServiceClient.Uri
