import Mathlib.Data.List.Basic
import ServiceClient.Proofs.Text.Run
import ServiceClient.Uri.Percent

/-!
# Encoded values

An encoded value is made of safe characters and of triples, each a percent sign with two capital
digits. `Encoded` says so without an encoder, and leaves no other place for a percent sign.

The bytes that an encoded value stands for are the UTF-8 form of the value, whether slashes were
kept or not, so no two values are encoded alike. In a longer text, an encoded value ends at the
first character that cannot stand in one: `eq_of_encodeChars_append_eq` takes it off the front of
the text together with the value.
-/

namespace ServiceClient

/-- No two texts have the same bytes. -/
theorem Text.Utf8.encode_injective : Function.Injective encode := by
  intro cs ds h
  have hbytes : cs.utf8Encode = ds.utf8Encode := congrArg List.toByteArray h
  have hdecode := congrArg ByteArray.utf8Decode? hbytes
  rw [List.utf8Decode?_utf8Encode, List.utf8Decode?_utf8Encode] at hdecode
  simpa using hdecode

namespace Uri.Percent

/-- Whether a character is a digit of a triple. -/
def isTripleDigit (c : Char) : Bool := Text.isDigit c || ('A' ≤ c && c ≤ 'F')

/-- Whether a character may stand in an encoded value, given whether slashes are kept. -/
def isEncodedChar (multiSegment : Bool) (c : Char) : Bool := isSafe multiSegment c || c = '%'

/-- The encoded values. -/
inductive Encoded (multiSegment : Bool) : List Char → Prop
  /-- The empty value. -/
  | nil : Encoded multiSegment []
  /-- A character that stays as it is. -/
  | safe {c : Char} {rest : List Char} (hc : isSafe multiSegment c = true)
      (hrest : Encoded multiSegment rest) : Encoded multiSegment (c :: rest)
  /-- A percent sign and two digits. -/
  | triple {high low : Char} {rest : List Char} (hhigh : isTripleDigit high = true)
      (hlow : isTripleDigit low = true) (hrest : Encoded multiSegment rest) :
      Encoded multiSegment ('%' :: high :: low :: rest)

variable {multiSegment : Bool} {c : Char} {cs ds rest rest' : List Char}

/-! ### The characters of an encoded value -/

theorem isTripleDigit_capital : ∀ n < 16, isTripleDigit (Text.Hex.capital n) = true := by decide

theorem ne_percent_of_isSafe (h : isSafe multiSegment c = true) : c ≠ '%' := by
  rintro rfl
  cases multiSegment <;> exact absurd h (by decide)

theorem isUnreserved_of_isTripleDigit (h : isTripleDigit c = true) : isUnreserved c = true := by
  have hF : 'F' ≤ 'Z' := by decide
  rw [isTripleDigit, Bool.or_eq_true, Bool.and_eq_true, decide_eq_true_eq, decide_eq_true_eq] at h
  rcases h with hdigit | ⟨hA, hcF⟩
  · simp [isUnreserved, hdigit]
  · simp [isUnreserved, Text.isCapital, hA, Char.le_trans hcF hF]

theorem isSafe_of_isUnreserved (h : isUnreserved c = true) : isSafe multiSegment c = true := by
  rw [isSafe, h, Bool.true_or]

theorem Encoded.append (hcs : Encoded multiSegment cs) (hds : Encoded multiSegment ds) :
    Encoded multiSegment (cs ++ ds) := by
  induction hcs with
  | nil => exact hds
  | safe hc _ ih => exact .safe hc ih
  | triple hhigh hlow _ ih => exact .triple hhigh hlow ih

theorem encoded_flatMap_triple (bytes : List UInt8) :
    Encoded multiSegment (bytes.flatMap triple) := by
  induction bytes with
  | nil => exact .nil
  | cons b bytes ih =>
    have hb : b.toNat < 256 := b.toNat_lt
    exact .triple (isTripleDigit_capital _ (by omega)) (isTripleDigit_capital _ (by omega)) ih

/-- What the encoder gives is an encoded value. -/
theorem encoded_encodeChars (multiSegment : Bool) (cs : List Char) :
    Encoded multiSegment (encodeChars multiSegment cs) := by
  induction cs with
  | nil => exact .nil
  | cons c cs ih =>
    refine Encoded.append ?_ ih
    rw [encodeChar]
    split
    · next hc => exact .safe hc .nil
    · exact encoded_flatMap_triple _

theorem Encoded.isEncodedChar_of_mem (h : Encoded multiSegment cs) (hc : c ∈ cs) :
    isEncodedChar multiSegment c = true := by
  have hdigit {d : Char} (hd : isTripleDigit d = true) : isEncodedChar multiSegment d = true := by
    rw [isEncodedChar, isSafe_of_isUnreserved (isUnreserved_of_isTripleDigit hd), Bool.true_or]
  induction h with
  | nil => cases hc
  | safe hsafe _ ih =>
    rcases List.mem_cons.1 hc with rfl | hc
    · rw [isEncodedChar, hsafe, Bool.true_or]
    · exact ih hc
  | triple hhigh hlow _ ih =>
    rcases List.mem_cons.1 hc with rfl | hc
    · simp [isEncodedChar]
    rcases List.mem_cons.1 hc with rfl | hc
    · exact hdigit hhigh
    rcases List.mem_cons.1 hc with rfl | hc
    · exact hdigit hlow
    · exact ih hc

/-- Every percent sign of an encoded value is followed by two digits. -/
theorem Encoded.digits_of_percent {before after : List Char}
    (h : Encoded multiSegment (before ++ '%' :: after)) :
    ∃ high low rest, after = high :: low :: rest ∧ isTripleDigit high = true ∧
      isTripleDigit low = true := by
  generalize hcs : before ++ '%' :: after = cs at h
  have hnot {d : Char} (hd : isTripleDigit d = true) : d ≠ '%' := by
    rintro rfl
    exact absurd hd (by decide)
  induction h generalizing before with
  | nil => simp at hcs
  | safe hc _ ih =>
    match before, hcs with
    | [], heq => exact absurd (List.cons.inj heq).1.symm (ne_percent_of_isSafe hc)
    | _ :: before, heq => exact ih (List.cons.inj heq).2
  | @triple high low rest hhigh hlow _ ih =>
    -- the sign is the one of the triple, or stands after it, as its digits are no signs
    match before, hcs with
    | [], heq => exact ⟨high, low, rest, (List.cons.inj heq).2, hhigh, hlow⟩
    | [_], heq => exact absurd (List.cons.inj (List.cons.inj heq).2).1.symm (hnot hhigh)
    | [_, _], heq =>
      exact absurd (List.cons.inj (List.cons.inj (List.cons.inj heq).2).2).1.symm (hnot hlow)
    | _ :: _ :: _ :: before, heq =>
      exact ih (List.cons.inj (List.cons.inj (List.cons.inj heq).2).2).2

/-! ### The bytes of an encoded value -/

theorem bytes_cons (hc : c ≠ '%') (rest : List Char) :
    bytes (c :: rest) = String.utf8EncodeChar c ++ bytes rest := by
  rw [bytes.eq_def]
  split
  · next heq => cases heq
  · next heq => exact absurd (List.cons.inj heq).1 hc
  · next heq =>
    obtain ⟨rfl, rfl⟩ := List.cons.inj heq
    rfl

theorem bytes_triple_append (b : UInt8) (rest : List Char) :
    bytes (triple b ++ rest) = b :: bytes rest := by
  have hb : b.toNat < 256 := b.toNat_lt
  have hhigh := Text.Hex.value?_capital (b.toNat / 16) (by omega)
  have hlow := Text.Hex.value?_capital (b.toNat % 16) (by omega)
  simp only [triple, List.cons_append, List.nil_append, bytes, hhigh, hlow, Nat.div_add_mod,
    UInt8.ofNat_toNat]

theorem bytes_flatMap_triple_append (bs : List UInt8) (rest : List Char) :
    bytes (bs.flatMap triple ++ rest) = bs ++ bytes rest := by
  induction bs with
  | nil => rfl
  | cons b bs ih =>
    rw [List.flatMap_cons, List.append_assoc, bytes_triple_append, ih, List.cons_append]

/-- Whatever follows, the bytes of an encoded value are the UTF-8 form of the value. -/
theorem bytes_encodeChars_append (multiSegment : Bool) (cs rest : List Char) :
    bytes (encodeChars multiSegment cs ++ rest) = Text.Utf8.encode cs ++ bytes rest := by
  induction cs with
  | nil => rfl
  | cons c cs ih =>
    have hchar (rest : List Char) :
        bytes (encodeChar multiSegment c ++ rest) = String.utf8EncodeChar c ++ bytes rest := by
      rw [encodeChar]
      split
      · next hc => exact bytes_cons (ne_percent_of_isSafe hc) rest
      · exact bytes_flatMap_triple_append _ rest
    rw [encodeChars, List.flatMap_cons, List.append_assoc, hchar, ← encodeChars, ih,
      Text.Utf8.encode, Text.Utf8.encode, List.flatMap_cons, List.append_assoc]

/-- No two values are encoded alike. -/
theorem encodeChars_injective (multiSegment : Bool) :
    Function.Injective (encodeChars multiSegment) := by
  intro cs ds h
  have hbytes := congrArg bytes h
  rw [← List.append_nil (encodeChars multiSegment cs),
    ← List.append_nil (encodeChars multiSegment ds), bytes_encodeChars_append,
    bytes_encodeChars_append] at hbytes
  exact Text.Utf8.encode_injective (List.append_cancel_right hbytes)

/-- Where encoded values stand in front of texts that do not continue them, equal texts come from
equal values. -/
theorem eq_of_encodeChars_append_eq
    (h : encodeChars multiSegment cs ++ rest = encodeChars multiSegment ds ++ rest')
    (hrest : ∀ c ∈ rest.head?, isEncodedChar multiSegment c = false)
    (hrest' : ∀ c ∈ rest'.head?, isEncodedChar multiSegment c = false) :
    cs = ds ∧ rest = rest' := by
  have hrun (cs : List Char) :
      ∀ c ∈ encodeChars multiSegment cs, isEncodedChar multiSegment c = true :=
    fun _ hc ↦ (encoded_encodeChars multiSegment cs).isEncodedChar_of_mem hc
  have htake := congrArg (List.takeWhile (isEncodedChar multiSegment)) h
  rw [Text.takeWhile_run (hrun cs) hrest, Text.takeWhile_run (hrun ds) hrest'] at htake
  rw [htake] at h
  exact ⟨encodeChars_injective multiSegment htake, List.append_cancel_left h⟩

end Uri.Percent

end ServiceClient
