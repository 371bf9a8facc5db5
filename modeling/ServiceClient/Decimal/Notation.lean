import ServiceClient.Decimal.Shortest

/-!
# Writing doubles

The text of a double: its shortest decimal, positional while the leading digit stands between the
fourth place after the point and the sixteenth before it, and scientific beyond. A positional
number always has a point with a digit on either side; a scientific exponent always has a sign and
at least two digits. The values that are no numbers have names, which the two formats that use
this notation spell differently.
-/

namespace ServiceClient.Decimal

/-- The names of the values that have no digits. -/
structure SpecialNames where
  /-- The value that is no number. -/
  notANumber : String
  /-- The positive infinity. -/
  infinity : String

/-- The digits of a number as characters. -/
def digitChars (n : Nat) : List Char := Nat.toDigits 10 n

/-- A decimal in positional notation. -/
def positional (d : Scaled) : List Char :=
  let cs := digitChars d.digits
  if 0 ≤ d.exponent then cs ++ List.replicate d.exponent.toNat '0' ++ ['.', '0']
  else
    let places := (-d.exponent).toNat
    if places < cs.length then
      cs.take (cs.length - places) ++ '.' :: cs.drop (cs.length - places)
    else '0' :: '.' :: List.replicate (places - cs.length) '0' ++ cs

/-- The exponent part of scientific notation: a sign and at least two digits. -/
def exponentPart (e : Int) : List Char :=
  let cs := digitChars e.natAbs
  'e' :: (if e < 0 then '-' else '+') :: (if cs.length < 2 then '0' :: cs else cs)

/-- A decimal in scientific notation, where `lead` is the exponent of its leading digit. -/
def scientific (d : Scaled) (lead : Int) : List Char :=
  match digitChars d.digits with
  | [] => exponentPart lead
  | [c] => c :: exponentPart lead
  | c :: cs => c :: '.' :: cs ++ exponentPart lead

/-- A decimal in the notation that its size asks for. -/
def Scaled.text (d : Scaled) : List Char :=
  let lead := d.exponent + (digitChars d.digits).length - 1
  if -4 ≤ lead ∧ lead < 16 then positional d else scientific d lead

/-- The text of a double. -/
def floatText (names : SpecialNames) (x : Float) : String :=
  let bits := x.toBits.toNat
  let sign := if bits / Nat.pow 2 63 = 1 then ['-'] else []
  let exponentField := bits / Nat.pow 2 52 % Nat.pow 2 11
  let fraction := bits % Nat.pow 2 52
  if exponentField = Nat.pow 2 11 - 1 then
    if fraction = 0 then String.ofList sign ++ names.infinity else names.notANumber
  else if exponentField = 0 ∧ fraction = 0 then String.ofList (sign ++ ['0', '.', '0'])
  else String.ofList (sign ++ (shortest (.ofFields exponentField fraction)).text)

end ServiceClient.Decimal
