/-!
# Hexadecimal digits

Writing and reading single hexadecimal digits, and numbers of a fixed width. Percent triples use
capital digits, escapes in literals use small ones, and both are read.
-/

namespace ServiceClient.Text.Hex

/-- The capital digit of a number below sixteen. -/
def capital (n : Nat) : Char := Char.ofNat (if n < 10 then 0x30 + n else 0x41 + (n - 10))

/-- The small digit of a number below sixteen. -/
def small (n : Nat) : Char := Char.ofNat (if n < 10 then 0x30 + n else 0x61 + (n - 10))

/-- The number that a digit of either kind stands for. -/
def value? (c : Char) : Option Nat :=
  if '0' ≤ c ∧ c ≤ '9' then some (c.toNat - 0x30)
  else if 'A' ≤ c ∧ c ≤ 'F' then some (c.toNat - 0x41 + 10)
  else if 'a' ≤ c ∧ c ≤ 'f' then some (c.toNat - 0x61 + 10)
  else none

/-- The last `width` small digits of a number. -/
def fixed : Nat → Nat → List Char
  | 0, _ => []
  | width + 1, n => fixed width (n / 16) ++ [small (n % 16)]

/-- The number written by some digits, or `none` if one of the characters is no digit. -/
def number? (cs : List Char) : Option Nat :=
  cs.foldl (fun sofar? c ↦ do return (← sofar?) * 16 + (← value? c)) (some 0)

theorem value?_capital : ∀ n < 16, value? (capital n) = some n := by decide

theorem value?_small : ∀ n < 16, value? (small n) = some n := by decide

@[simp] theorem length_fixed (width n : Nat) : (fixed width n).length = width := by
  induction width generalizing n with
  | zero => rfl
  | succ width ih => simp [fixed, ih]

end ServiceClient.Text.Hex
