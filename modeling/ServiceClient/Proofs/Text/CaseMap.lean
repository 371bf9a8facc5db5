import Mathlib.Data.List.Basic
import ServiceClient.Text.Upper

/-!
# Case maps that settle

A character that upper case gives at the front of a text is its own upper case, so the first
character of a text has to be mapped only once: `upcaseFirst_upcaseFirst`.

That is a property of the table. A case map settles when no run moves its members onto a character
that is mapped itself, and the characters that become several begin with one that is not. Runs are
compared as wholes: two of them are apart when their bounds are, or when they overlap but one takes
the even code points of a stretch and the other the odd ones.
-/

namespace ServiceClient.Text

namespace CaseRun

variable {r q : CaseRun} {n : Nat}

theorem mem_iff :
    r.mem n = true ↔ r.first ≤ n ∧ n ≤ r.last ∧ (n - r.first) % r.stride = 0 := by
  simp [mem, and_assoc]

/-- The run of the code points that the members are moved to. -/
def image (r : CaseRun) : CaseRun :=
  { r with first := (r.first + r.shift).toNat, last := (r.last + r.shift).toNat }

/-- The run with one member. -/
def single (n : Nat) : CaseRun := ⟨n, n, 1, 0⟩

theorem mem_single (n : Nat) : (single n).mem n = true := by simp [mem_iff, single]

/-- All members can be moved, and what they are moved to are characters. -/
def IsValid (r : CaseRun) : Prop :=
  0 ≤ r.first + r.shift ∧
    (r.image.last < 0xD800 ∨ 0xDFFF < r.image.first ∧ r.image.last < 0x110000)

instance : DecidablePred IsValid := fun _ ↦ inferInstanceAs (Decidable (_ ∧ _))

/-- Whether two runs are seen to have no member in common. -/
def isApart (r q : CaseRun) : Bool :=
  r.last.blt q.first || q.last.blt r.first ||
    q.stride == 2 && (r.stride == 2 || r.first == r.last) && (r.first + q.first) % 2 == 1

theorem isApart_iff : r.isApart q = true ↔ r.last < q.first ∨ q.last < r.first ∨
    q.stride = 2 ∧ (r.stride = 2 ∨ r.first = r.last) ∧ (r.first + q.first) % 2 = 1 := by
  simp [isApart, Nat.blt_eq, or_assoc, and_assoc]

theorem mem_eq_false_of_isApart (h : r.isApart q = true) (hn : r.mem n = true) :
    q.mem n = false := by
  obtain ⟨hlow, hhigh, hstride⟩ := mem_iff.1 hn
  rw [← Bool.not_eq_true, mem_iff]
  rintro ⟨hlow', hhigh', hstride'⟩
  rcases isApart_iff.1 h with h | h | ⟨htwo, h, hparity⟩
  · omega
  · omega
  · rw [htwo] at hstride'
    rcases h with htwo' | hsingle
    · rw [htwo'] at hstride
      omega
    · omega

/-- The members are moved to members of the image. -/
theorem mem_image (h : r.IsValid) (hn : r.mem n = true) :
    r.image.mem (n + r.shift).toNat = true := by
  obtain ⟨hlow, hhigh, hstride⟩ := mem_iff.1 hn
  have hpos := h.1
  have hdistance : (n + r.shift).toNat - (r.first + r.shift).toNat = n - r.first := by omega
  refine mem_iff.2 ⟨?_, ?_, ?_⟩
  · simp only [image]
    omega
  · simp only [image]
    omega
  · simp only [image, hdistance, hstride]

/-- The members are moved to characters. -/
theorem toNat_ofNat_moved (h : r.IsValid) (hn : r.mem n = true) :
    (Char.ofNat (n + r.shift).toNat).toNat = (n + r.shift).toNat := by
  obtain ⟨hlow, hhigh, -⟩ := mem_iff.1 (mem_image h hn)
  have hvalid : (n + r.shift).toNat.isValidChar := by
    rcases h.2 with hlast | ⟨hfirst, hlast⟩
    · exact .inl (by omega)
    · exact .inr ⟨by omega, by omega⟩
  rw [Char.ofNat, dif_pos hvalid]
  rfl

end CaseRun

namespace CaseMap

variable {m : CaseMap}

/-- What a character becomes begins with a character that is mapped to itself. -/
structure Settles (m : CaseMap) : Prop where
  /-- Runs move their members to characters. -/
  runs_valid : ∀ r ∈ m.runs, r.IsValid
  /-- No run moves a member to a member of a run. -/
  runs_apart : (m.runs.all fun r ↦ m.runs.all r.image.isApart) = true
  /-- No run moves a member to a character that becomes several. -/
  runs_expansions :
    (m.runs.all fun r ↦ m.expansions.all fun e ↦ r.image.isApart (.single e.1)) = true
  /-- The first of several characters is mapped to itself. -/
  expansions : ∀ e ∈ m.expansions,
    (e.2.map Char.ofNat).head?.any (fun first ↦ m.apply first = [first]) = true

/-- A character in no run and no expansion is mapped to itself. -/
theorem apply_eq_self {c : Char} (hruns : ∀ q ∈ m.runs, q.mem c.toNat = false)
    (hexpansions : ∀ e ∈ m.expansions, e.1 ≠ c.toNat) : m.apply c = [c] := by
  have hfind : m.runs.find? (·.mem c.toNat) = none :=
    List.find?_eq_none.2 fun q hq ↦ by simp [hruns q hq]
  have hlookup : m.expansions.lookup c.toNat = none :=
    List.lookup_eq_none_iff.2 fun e he ↦ by simpa using (hexpansions e he).symm
  rw [apply, hfind, hlookup]

theorem Settles.exists_apply (h : m.Settles) (c : Char) :
    ∃ first later, m.apply c = first :: later ∧ m.apply first = [first] := by
  cases hfind : m.runs.find? (·.mem c.toNat) with
  | some r =>
    have hr := List.mem_of_find?_eq_some hfind
    have hmem := List.find?_some hfind
    have hmoved := CaseRun.toNat_ofNat_moved (h.runs_valid r hr) hmem
    have himage := CaseRun.mem_image (h.runs_valid r hr) hmem
    rw [← hmoved] at himage
    refine ⟨_, [], by rw [apply, hfind], apply_eq_self (fun q hq ↦ ?_) fun e he heq ↦ ?_⟩
    · have hapart := List.all_eq_true.1 (List.all_eq_true.1 h.runs_apart r hr) q hq
      exact CaseRun.mem_eq_false_of_isApart hapart himage
    · have hapart := List.all_eq_true.1 (List.all_eq_true.1 h.runs_expansions r hr) e he
      have hnot := CaseRun.mem_eq_false_of_isApart hapart (heq ▸ himage)
      rw [CaseRun.mem_single] at hnot
      cases hnot
  | none =>
    cases hlookup : m.expansions.lookup c.toNat with
    | some ns =>
      obtain ⟨before, after, heq, -⟩ := List.lookup_eq_some_iff.1 hlookup
      obtain ⟨first, hfirst, hfixed⟩ :=
        (Option.any_eq_true _ _).1 (h.expansions (c.toNat, ns) (by simp [heq]))
      obtain ⟨later, hns⟩ := List.head?_eq_some_iff.1 hfirst
      exact ⟨first, later, by rw [apply, hfind, hlookup, ← hns], of_decide_eq_true hfixed⟩
    | none =>
      have hself : m.apply c = [c] := by rw [apply, hfind, hlookup]
      exact ⟨c, [], hself, hself⟩

end CaseMap

/-! ### Upper case -/

theorem settles_upperCase : upperCase.Settles where
  runs_valid := by decide +kernel
  runs_apart := by decide +kernel
  runs_expansions := by decide +kernel
  expansions := by decide +kernel

/-- Once the first character is in upper case, it stays as it is. -/
theorem upcaseFirst_upcaseFirst (cs : List Char) :
    upcaseFirst (upcaseFirst cs) = upcaseFirst cs := by
  cases cs with
  | nil => rfl
  | cons c rest =>
    obtain ⟨first, later, happly, hfixed⟩ := settles_upperCase.exists_apply c
    rw [upcaseFirst, happly, List.cons_append, upcaseFirst, hfixed, List.singleton_append]

end ServiceClient.Text
