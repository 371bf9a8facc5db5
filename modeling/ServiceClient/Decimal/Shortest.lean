/-!
# Shortest decimals

The shortest decimal that identifies a binary floating-point number. A positive double is
`m * 2 ^ q`, and the reals that are rounded to it form an interval around it, whose ends belong to
it when `m` is even. On the grid of the multiples of a power of ten the two points next to the
number are candidates; the coarsest grid with a candidate inside the interval wins, and of two
candidates the nearer, the even one when they are equally near.

All comparisons are between natural numbers: the number, the ends of its interval and the points
of a grid are brought to the common unit `2 ^ (q - 2)` and a common denominator.
-/

namespace ServiceClient.Decimal

/-- The decimal `digits * 10 ^ exponent`. -/
structure Scaled where
  /-- The digits, read as one number. -/
  digits : Nat
  /-- The place of the last digit. -/
  exponent : Int
  deriving DecidableEq

/-- A positive binary number `significand * 2 ^ exponent`. The flag tells that the gap to the next
lower number is half of the gap to the next higher one. -/
structure Binary where
  /-- The significand. -/
  significand : Nat
  /-- The power of two it is multiplied by. -/
  exponent : Int
  /-- Whether the number is the least of its binade. -/
  narrowBelow : Bool

namespace Binary

/-- The finite positive double with the given exponent field and fraction field. -/
def ofFields (exponentField fraction : Nat) : Binary :=
  if exponentField = 0 then ⟨fraction, -1074, false⟩
  else ⟨Nat.pow 2 52 + fraction, (exponentField : Int) - 1075, fraction = 0 && exponentField ≠ 1⟩

/-- The numerator of `count * 2 ^ (exponent - 2)`, over the denominator `unit`. -/
def scaled (b : Binary) (count : Nat) : Nat := count * Nat.pow 2 (b.exponent - 2).toNat

/-- The denominator that the scaled numerators stand over. -/
def unit (b : Binary) : Nat := Nat.pow 2 (2 - b.exponent).toNat

/-- The numerator of the number itself. -/
def value (b : Binary) : Nat := b.scaled (4 * b.significand)

/-- The numerator of the upper end of the interval. -/
def upper (b : Binary) : Nat := b.scaled (4 * b.significand + 2)

/-- The numerator of the lower end of the interval. -/
def lower (b : Binary) : Nat :=
  b.scaled (4 * b.significand - if b.narrowBelow then 1 else 2)

end Binary

/-- The numerator and the denominator of `digits * 10 ^ exponent`. -/
def Scaled.ratio (d : Scaled) : Nat × Nat :=
  (d.digits * Nat.pow 10 d.exponent.toNat, Nat.pow 10 (-d.exponent).toNat)

/-- Whether a decimal lies among the reals that are rounded to a number. -/
def readsBack (b : Binary) (d : Scaled) : Bool :=
  let (num, den) := d.ratio
  let point := num * b.unit
  if b.significand % 2 = 0 then
    decide (b.lower * den ≤ point) && decide (point ≤ b.upper * den)
  else decide (b.lower * den < point) && decide (point < b.upper * den)

/-- The exponent of the leading decimal digit of `num / den`. -/
def leadingExponent (num den : Nat) : Int :=
  if den ≤ num then ((Nat.toDigits 10 (num / den)).length : Int) - 1
  else
    match (List.range 400).find? fun k ↦ decide (den ≤ num * Nat.pow 10 (k + 1)) with
    | some k => -((k : Int) + 1)
    | none => -400

/-- The better of the two grid points next to a number that read back, if one does. -/
def onGrid (b : Binary) (exponent : Int) : Option Scaled :=
  let num := b.value * Nat.pow 10 (-exponent).toNat
  let den := b.unit * Nat.pow 10 exponent.toNat
  let below : Scaled := ⟨num / den, exponent⟩
  let above : Scaled := ⟨num / den + 1, exponent⟩
  match readsBack b below, readsBack b above with
  | true, true =>
    let twice := 2 * (num % den)
    if twice < den ∨ (twice = den ∧ below.digits % 2 = 0) then some below else some above
  | true, false => some below
  | false, true => some above
  | false, false => none

/-- The decimal without the zeros at its end. The fuel bounds their number. -/
def stripZeros : Nat → Scaled → Scaled
  | 0, d => d
  | fuel + 1, d =>
    if d.digits ≠ 0 ∧ d.digits % 10 = 0 then stripZeros fuel ⟨d.digits / 10, d.exponent + 1⟩ else d

/-- The shortest decimal that reads back as a positive number. Seventeen digits always suffice. -/
def shortest (b : Binary) : Scaled :=
  let lead := leadingExponent b.value b.unit
  let found := (List.range 17).findSome? fun (k : Nat) ↦ onGrid b (lead - k)
  stripZeros 20 (found.getD ⟨b.significand, b.exponent⟩)

end ServiceClient.Decimal
