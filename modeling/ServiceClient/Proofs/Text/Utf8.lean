import Mathlib.Algebra.Group.Nat.Defs
import ServiceClient.Text.Utf8

/-!
# Reading UTF-8 back

The form of a character past ASCII is a lead byte and some bytes that continue it, each with six
bits of its number (`continuation`). The lead byte announces how many they are, carries the bits
before theirs, and sets bounds that the first of them meets: `IsLead`. So the reader comes out of a
character with its number, and what it reads from the bytes of a text is the text:
`decode_encode`.
-/

namespace ServiceClient.Text.Utf8

/-- The last bytes of the form of a number, each with six bits of it. -/
def continuation : Nat → Nat → List UInt8
  | 0, _ => []
  | count + 1, n => UInt8.ofNat (n / 64 ^ count % 64 + 0x80) :: continuation count n

/-- A number fits a character of which some bytes have been read: the bits read so far are those
before the bytes to come, and the next byte is within the bounds. -/
structure Fits (n : Nat) (p : Pending) : Prop where
  /-- The bits read so far are those that the bytes to come leave. -/
  bits_eq : p.bits = n / 64 ^ (p.more + 1)
  /-- The next byte is not too small. -/
  low_le : p.low.toNat ≤ n / 64 ^ p.more % 64 + 0x80
  /-- The next byte is not too great. -/
  le_high : n / 64 ^ p.more % 64 + 0x80 ≤ p.high.toNat

/-- A lead byte announces a number. -/
structure IsLead (offset n : Nat) (lead : UInt8) (p : Pending) : Prop where
  /-- The byte is not an ASCII character. -/
  not_lt : ¬lead < 0x80
  /-- The byte starts a character. -/
  ofLead?_eq : ofLead? offset lead = some p
  /-- The number fits what it announces. -/
  fits : Fits n p

variable {n : Nat} {c : Char} {p : Pending} {lead : UInt8} {cs : List Char} {rest : List UInt8}

/-- Six bits of a number are read back from the byte that holds them. -/
theorem toNat_ofNat_continuation (n : Nat) :
    (UInt8.ofNat (n % 64 + 0x80)).toNat = n % 64 + 0x80 := by
  rw [UInt8.toNat_ofNat']
  omega

/-- The next byte of a number that fits is within the bounds. -/
theorem Fits.within (h : Fits n p) :
    p.low ≤ UInt8.ofNat (n / 64 ^ p.more % 64 + 0x80) ∧
      UInt8.ofNat (n / 64 ^ p.more % 64 + 0x80) ≤ p.high := by
  rw [UInt8.le_iff_toNat_le, UInt8.le_iff_toNat_le, toNat_ofNat_continuation]
  exact ⟨h.low_le, h.le_high⟩

/-- The bits of the next byte, after those read so far. -/
theorem Fits.next_bits (h : Fits n p) :
    p.bits * 64 + ((UInt8.ofNat (n / 64 ^ p.more % 64 + 0x80)).toNat - 0x80) = n / 64 ^ p.more := by
  rw [toNat_ofNat_continuation, h.bits_eq, Nat.pow_succ, ← Nat.div_div_eq_div_mul]
  omega

/-- Within a character, the bytes to come complete its number. -/
theorem decodeFrom_continuation (h : Fits n p) (offset : Nat)
    (hrest : ∀ offset, decodeFrom offset none rest = .ok cs) :
    decodeFrom offset (some p) (continuation (p.more + 1) n ++ rest) =
      .ok (Char.ofNat n :: cs) := by
  obtain ⟨start, lead, more, low, high, bits⟩ := p
  induction more generalizing offset low high bits with
  | zero =>
    rw [continuation, List.cons_append, decodeFrom, if_pos h.within, h.next_bits]
    simp only [continuation, List.nil_append, hrest, Nat.pow_zero, Nat.div_one]
    rfl
  | succ more ih =>
    rw [continuation, List.cons_append, decodeFrom, if_pos h.within, h.next_bits]
    exact ih _ _ _ _ ⟨rfl, Nat.le_add_left _ _, by simp; omega⟩

/-! ### Lead bytes -/

section Lead

variable (offset : Nat)

theorem ofLead?_two (hlow : 0xC2 ≤ lead.toNat) (hhigh : lead.toNat < 0xE0) :
    ofLead? offset lead = some ⟨offset, lead, 0, 0x80, 0xBF, lead.toNat - 0xC0⟩ := by
  simp only [ofLead?, UInt8.lt_iff_toNat_lt, UInt8.reduceToNat]
  rw [if_neg (by omega), if_pos hhigh]

theorem ofLead?_three (hlow : 0xE0 ≤ lead.toNat) (hhigh : lead.toNat < 0xF0) :
    ofLead? offset lead = some ⟨offset, lead, 1, if lead = 0xE0 then 0xA0 else 0x80,
      if lead = 0xED then 0x9F else 0xBF, lead.toNat - 0xE0⟩ := by
  simp only [ofLead?, UInt8.lt_iff_toNat_lt, UInt8.reduceToNat]
  rw [if_neg (by omega), if_neg (by omega), if_pos hhigh]

theorem ofLead?_four (hlow : 0xF0 ≤ lead.toNat) (hhigh : lead.toNat < 0xF5) :
    ofLead? offset lead = some ⟨offset, lead, 2, if lead = 0xF0 then 0x90 else 0x80,
      if lead = 0xF4 then 0x8F else 0xBF, lead.toNat - 0xF0⟩ := by
  simp only [ofLead?, UInt8.lt_iff_toNat_lt, UInt8.reduceToNat]
  rw [if_neg (by omega), if_neg (by omega), if_neg (by omega), if_pos hhigh]

/-- A byte that is no ASCII character. -/
theorem not_lt_of_le (h : 0x80 ≤ lead.toNat) : ¬lead < 0x80 := by
  simp only [UInt8.lt_iff_toNat_lt, UInt8.reduceToNat]
  omega

/-- The lead byte of two carries what is left of eleven bits. -/
theorem isLead_two (hlow : 0x7F < n) (hhigh : n ≤ 0x7FF) :
    ∃ p, IsLead offset n (UInt8.ofNat (n / 64 % 32 + 0xC0)) p ∧ p.more = 0 := by
  have hlead : (UInt8.ofNat (n / 64 % 32 + 0xC0)).toNat = n / 64 + 0xC0 := by
    rw [UInt8.toNat_ofNat']
    omega
  refine ⟨_, {
    not_lt := not_lt_of_le (by omega)
    ofLead?_eq := ofLead?_two offset (by omega) (by omega)
    fits := ⟨?_, ?_, ?_⟩ }, rfl⟩
  · dsimp only
    omega
  · simp
  · simp only [UInt8.reduceToNat]
    omega

/-- The lead byte of three carries what is left of sixteen bits. The least lead byte excludes small
numbers, and one other excludes the surrogates. -/
theorem isLead_three (hlow : 0x7FF < n) (hhigh : n ≤ 0xFFFF) (hvalid : n.isValidChar) :
    ∃ p, IsLead offset n (UInt8.ofNat (n / 4096 % 16 + 0xE0)) p ∧ p.more = 1 := by
  have hlead : (UInt8.ofNat (n / 4096 % 16 + 0xE0)).toNat = n / 4096 + 0xE0 := by
    rw [UInt8.toNat_ofNat']
    omega
  refine ⟨_, {
    not_lt := not_lt_of_le (by omega)
    ofLead?_eq := ofLead?_three offset (by omega) (by omega)
    fits := ⟨?_, ?_, ?_⟩ }, rfl⟩
  · dsimp only
    omega
  · simp only [apply_ite UInt8.toNat, ← UInt8.toNat_inj, UInt8.reduceToNat, hlead]
    split <;> omega
  · simp only [apply_ite UInt8.toNat, ← UInt8.toNat_inj, UInt8.reduceToNat, hlead]
    obtain h | ⟨h, -⟩ := hvalid <;> split <;> omega

/-- The lead byte of four carries what is left of twenty-one bits. The least lead byte excludes
small numbers, and the greatest those that are too great. -/
theorem isLead_four (hlow : 0xFFFF < n) (hvalid : n.isValidChar) :
    ∃ p, IsLead offset n (UInt8.ofNat (n / 262144 % 8 + 0xF0)) p ∧ p.more = 2 := by
  have hhigh : n < 0x110000 := by
    obtain h | ⟨-, h⟩ := hvalid <;> omega
  have hlead : (UInt8.ofNat (n / 262144 % 8 + 0xF0)).toNat = n / 262144 + 0xF0 := by
    rw [UInt8.toNat_ofNat']
    omega
  refine ⟨_, {
    not_lt := not_lt_of_le (by omega)
    ofLead?_eq := ofLead?_four offset (by omega) (by omega)
    fits := ⟨?_, ?_, ?_⟩ }, rfl⟩
  · dsimp only
    omega
  · simp only [apply_ite UInt8.toNat, ← UInt8.toNat_inj, UInt8.reduceToNat, hlead]
    split <;> omega
  · simp only [apply_ite UInt8.toNat, ← UInt8.toNat_inj, UInt8.reduceToNat, hlead]
    split <;> omega

end Lead

/-- A character past ASCII is a lead byte and the bytes that it announces. -/
theorem exists_isLead (hc : 0x7F < c.toNat) (offset : Nat) :
    ∃ lead p, IsLead offset c.toNat lead p ∧
      String.utf8EncodeChar c = lead :: continuation (p.more + 1) c.toNat := by
  have hvalid : c.toNat.isValidChar := c.valid
  simp only [String.utf8EncodeChar, Char.toNat_val, if_neg (Nat.not_le.2 hc)]
  by_cases htwo : c.toNat ≤ 0x7FF
  · obtain ⟨p, hlead, hmore⟩ := isLead_two offset hc htwo
    refine ⟨_, p, hlead, ?_⟩
    rw [if_pos htwo, hmore]
    simp [continuation]
  · by_cases hthree : c.toNat ≤ 0xFFFF
    · obtain ⟨p, hlead, hmore⟩ := isLead_three offset (Nat.lt_of_not_le htwo) hthree hvalid
      refine ⟨_, p, hlead, ?_⟩
      rw [if_neg htwo, if_pos hthree, hmore]
      simp [continuation]
    · obtain ⟨p, hlead, hmore⟩ := isLead_four offset (Nat.lt_of_not_le hthree) hvalid
      refine ⟨_, p, hlead, ?_⟩
      rw [if_neg htwo, if_neg hthree, hmore]
      simp [continuation]

/-- A character is read from its bytes. -/
theorem decodeFrom_utf8EncodeChar_append (offset : Nat) (c : Char)
    (hrest : ∀ offset, decodeFrom offset none rest = .ok cs) :
    decodeFrom offset none (String.utf8EncodeChar c ++ rest) = .ok (c :: cs) := by
  by_cases hc : c.toNat ≤ 0x7F
  · have hbyte : (UInt8.ofNat c.toNat).toNat = c.toNat := by
      rw [UInt8.toNat_ofNat']
      omega
    have hlt : UInt8.ofNat c.toNat < 0x80 := by
      simp only [UInt8.lt_iff_toNat_lt, UInt8.reduceToNat]
      omega
    simp only [String.utf8EncodeChar, Char.toNat_val, if_pos hc]
    rw [List.cons_append, decodeFrom, if_pos hlt, List.nil_append, hrest, hbyte, Char.ofNat_toNat]
    rfl
  · obtain ⟨lead, p, hlead, hbytes⟩ := exists_isLead (Nat.lt_of_not_le hc) offset
    rw [hbytes, List.cons_append, decodeFrom, if_neg hlead.not_lt, hlead.ofLead?_eq]
    exact (decodeFrom_continuation hlead.fits (offset + 1) hrest).trans (by rw [Char.ofNat_toNat])

theorem decodeFrom_encode (offset : Nat) (cs : List Char) :
    decodeFrom offset none (encode cs) = .ok cs := by
  induction cs generalizing offset with
  | nil => rfl
  | cons c cs ih => exact decodeFrom_utf8EncodeChar_append offset c ih

/-- What is read from the bytes of a text is the text. -/
theorem decode_encode (cs : List Char) : decode (encode cs) = .ok cs := decodeFrom_encode 0 cs

end ServiceClient.Text.Utf8
