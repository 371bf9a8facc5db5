import ServiceClient.Text.Utf8

/-!
# Halves of surrogate pairs

An escape in a document can give half of a surrogate pair on its own. In a text such a half is a
code point like any other, but it is no character and has no bytes in UTF-8, so a text that holds
one can be worked on and cannot be written.

A character of ours is never such a half. In what is read from a document, a half is stood for by
one of the last 2048 characters, which are for private use and behave alike: they are no letters,
digits or blanks, and have no other case. Only a text that comes from a document with such an escape
is taken to hold halves, so in all others these characters are what they are. Where a document has
such an escape and these characters as well, the two are not told apart, and in an order of names a
half comes after every other character.

In file names, half of the halves stand for bytes that are no text, and are encoded as these bytes.
-/

namespace ServiceClient.Text

/-- Whether a unit is the first of a surrogate pair. -/
def isHighSurrogate (n : Nat) : Bool := 0xD800 ≤ n && n ≤ 0xDBFF

/-- Whether a unit is the second of a surrogate pair. -/
def isLowSurrogate (n : Nat) : Bool := 0xDC00 ≤ n && n ≤ 0xDFFF

/-- Whether a code point is half of a surrogate pair. -/
def isSurrogate (n : Nat) : Bool := isHighSurrogate n || isLowSurrogate n

/-- The number of the first character that stands for a half. -/
def firstStandIn : Nat := 0x10F800

/-- The character for a code point, or the one that stands for it where it is half of a pair. -/
def ofCodePoint (n : Nat) : Char :=
  if isSurrogate n then Char.ofNat (firstStandIn + (n - 0xD800)) else Char.ofNat n

/-- The half of a pair that a character stands for. -/
def half? (c : Char) : Option Nat :=
  if firstStandIn ≤ c.toNat then some (0xD800 + (c.toNat - firstStandIn)) else none

/-- The characters that stand for halves tell them apart. -/
theorem half?_ofCodePoint {n : Nat} (h : isSurrogate n = true) :
    half? (ofCodePoint n) = some n := by
  have hrange : 0xD800 ≤ n ∧ n ≤ 0xDFFF := by
    simp only [isSurrogate, isHighSurrogate, isLowSurrogate, Bool.or_eq_true, Bool.and_eq_true,
      decide_eq_true_eq] at h
    omega
  have hvalid : (firstStandIn + (n - 0xD800)).isValidChar := by
    rw [firstStandIn]
    exact .inr ⟨by omega, by omega⟩
  have hstandIn : (ofCodePoint n).toNat = firstStandIn + (n - 0xD800) := by
    rw [ofCodePoint, if_pos h, Char.ofNat, dif_pos hvalid]
    rfl
  rw [half?, hstandIn, if_pos (Nat.le_add_right _ _), Nat.add_sub_cancel_left,
    Nat.add_sub_cancel' hrange.1]

/-- Whether a half stands for a byte in file names. -/
def isEscapedByte (n : Nat) : Bool := 0xDC80 ≤ n && n ≤ 0xDCFF

/-- Halves that lie together in a text and cannot be encoded. -/
structure Halves where
  /-- The first of them. -/
  half : Nat
  /-- Its offset. -/
  first : Nat
  /-- The offset of the last of them. -/
  last : Nat
  deriving DecidableEq

/-- The halves that an encoder stops at in the rest of a text, from an offset on. -/
def stopFrom? (passes : Nat → Bool) (offset : Nat) : List Char → Option Halves
  | [] => none
  | c :: rest =>
    match half? c with
    | some half =>
      if passes half then stopFrom? passes (offset + 1) rest
      else some ⟨half, offset, offset + (rest.takeWhile fun d ↦ (half? d).isSome).length⟩
    | none => stopFrom? passes (offset + 1) rest

/-- The halves that an encoder stops at in a text that comes from a document with halves or not. -/
def stop? (holdsHalves : Bool) (passes : Nat → Bool) (text : List Char) : Option Halves :=
  if holdsHalves then stopFrom? passes 0 text else none

/-- The bytes of a text that comes from a document with halves or not. -/
def bytesOf (holdsHalves : Bool) (text : List Char) : Except Halves (List UInt8) :=
  match stop? holdsHalves (fun _ ↦ false) text with
  | some halves => .error halves
  | none => .ok (Utf8.encode text)

/-! ### What is encoded -/

/-- An encoder that passes no half stops unless a text has none. -/
theorem stopFrom?_eq_none_iff (offset : Nat) {text : List Char} :
    stopFrom? (fun _ ↦ false) offset text = none ↔ ∀ c ∈ text, half? c = none := by
  induction text generalizing offset with
  | nil => simp [stopFrom?]
  | cons c rest ih =>
    rw [stopFrom?, List.forall_mem_cons]
    cases hhalf : half? c with
    | none => simp [ih]
    | some half => simp

/-- A text has bytes unless it comes from a document with halves and holds one. -/
theorem bytesOf_eq_ok_iff {holdsHalves : Bool} {text : List Char} {bytes : List UInt8} :
    bytesOf holdsHalves text = .ok bytes ↔
      (holdsHalves = true → ∀ c ∈ text, half? c = none) ∧ bytes = Utf8.encode text := by
  rw [bytesOf, stop?]
  cases holdsHalves with
  | false => simp [eq_comm]
  | true =>
    rw [if_pos rfl, ← stopFrom?_eq_none_iff 0]
    cases stopFrom? (fun _ ↦ false) 0 text with
    | none => simp [eq_comm]
    | some halves => simp

/-- A text has no bytes exactly if it comes from a document with halves and holds one. -/
theorem exists_bytesOf_eq_error_iff {holdsHalves : Bool} {text : List Char} :
    (∃ halves, bytesOf holdsHalves text = .error halves) ↔
      holdsHalves = true ∧ ∃ c ∈ text, half? c ≠ none := by
  have hok : (∃ bytes, bytesOf holdsHalves text = .ok bytes) ↔
      (holdsHalves = true → ∀ c ∈ text, half? c = none) := by
    simp only [bytesOf_eq_ok_iff, exists_and_left, exists_eq, and_true]
  have hnot : (∃ halves, bytesOf holdsHalves text = .error halves) ↔
      ¬∃ bytes, bytesOf holdsHalves text = .ok bytes := by
    cases bytesOf holdsHalves text <;> simp
  rw [hnot, hok]
  simp

end ServiceClient.Text
