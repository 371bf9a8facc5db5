/-!
# Sets of characters given by ranges

The character classes of a standard are tables of code points. A `CharSet` lists them as inclusive
ranges in ascending order, and membership walks the list until the ranges have passed the
character, so the common characters at the low end are settled after a few steps.

`exists_range_of_covers` is the reading of the table that does not depend on its order being used:
whatever the walk accepts lies in one of the listed ranges.
-/

namespace ServiceClient.Text

/-- A set of characters, as ascending inclusive ranges of code points. -/
structure CharSet where
  /-- The ranges, each `(first, last)`, in ascending order. -/
  ranges : List (Nat × Nat)

namespace CharSet

/-- Whether a code point lies in one of some ascending ranges. The walk ends at the first range
that starts above the code point. -/
def covers : List (Nat × Nat) → Nat → Bool
  | [], _ => false
  | (first, last) :: later, n =>
    if n < first then false else decide (n ≤ last) || covers later n

/-- Whether a character belongs to the set. -/
def mem (s : CharSet) (c : Char) : Bool := covers s.ranges c.toNat

/-- What the walk accepts lies in a listed range. -/
theorem exists_range_of_covers {ranges : List (Nat × Nat)} {n : Nat}
    (h : covers ranges n = true) : ∃ r ∈ ranges, r.1 ≤ n ∧ n ≤ r.2 := by
  induction ranges with
  | nil => simp [covers] at h
  | cons r later ih =>
    obtain ⟨first, last⟩ := r
    by_cases hlt : n < first
    · simp [covers, hlt] at h
    · by_cases hle : n ≤ last
      · exact ⟨(first, last), by simp, by omega, hle⟩
      · have hl : covers later n = true := by simpa [covers, hlt, hle] using h
        obtain ⟨s, hs, hb⟩ := ih hl
        exact ⟨s, by simp [hs], hb⟩

/-- Sets whose ranges are apart have no character in common. -/
theorem mem_eq_false_of_apart {s t : CharSet}
    (h : ∀ r ∈ s.ranges, ∀ q ∈ t.ranges, r.2 < q.1 ∨ q.2 < r.1) {c : Char}
    (hc : s.mem c = true) : t.mem c = false := by
  obtain ⟨r, hr, hlow, hhigh⟩ := exists_range_of_covers hc
  rw [← Bool.not_eq_true]
  intro hmem
  obtain ⟨q, hq, hlow', hhigh'⟩ := exists_range_of_covers hmem
  have hapart := h r hr q hq
  omega

end CharSet

end ServiceClient.Text
