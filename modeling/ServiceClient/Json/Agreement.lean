import ServiceClient.Decimal.Shortest
import ServiceClient.Json

/-!
# Agreement of values

Two values agree when they mean the same: numbers by what they count, whatever their type, and with
true and false for one and zero; objects whatever the order of their fields. A value without digits
agrees with itself, also where it is no number.
-/

namespace ServiceClient.Json

/-- Whether a double counts a given integer. -/
def floatCounts (x : Float) (n : Int) : Bool :=
  let bits := x.toBits.toNat
  let exponentField := bits / Nat.pow 2 52 % Nat.pow 2 11
  let b := Decimal.Binary.ofFields exponentField (bits % Nat.pow 2 52)
  if exponentField = Nat.pow 2 11 - 1 then false
  else if b.significand = 0 then n == 0
  else
    decide (n < 0) == (bits / Nat.pow 2 63 == 1) &&
      b.significand * Nat.pow 2 b.exponent.toNat == n.natAbs * Nat.pow 2 (-b.exponent).toNat

/-- What a value counts, if it is an integer or a truth value. -/
def count? : Json → Option Int
  | .int n => some n
  | .bool b => some (if b then 1 else 0)
  | _ => none

/-- Whether two values that hold no other values agree. -/
def scalarsAgree (a b : Json) : Bool :=
  match a, b with
  | .null, .null => true
  | .str s, .str t => s == t
  | .float x, .float y => x == y || (x.isNaN && y.isNaN)
  | .float x, b => (b.count?.map (floatCounts x)).getD false
  | a, .float y => (a.count?.map (floatCounts y)).getD false
  | a, b =>
    match a.count?, b.count? with
    | some m, some n => m == n
    | _, _ => false

mutual

/-- Whether two values agree. -/
def agrees : Json → Json → Bool
  | .arr xs, .arr ys => listsAgree xs ys
  | .obj fs, .obj gs => fs.length == gs.length && fieldsAgree fs gs
  | .arr _, _ => false
  | .obj _, _ => false
  | a, b => scalarsAgree a b

/-- Whether the items of two arrays agree one by one. -/
def listsAgree : List Json → List Json → Bool
  | [], [] => true
  | x :: xs, y :: ys => agrees x y && listsAgree xs ys
  | _, _ => false

/-- Whether each field is among some others with a value that agrees. -/
def fieldsAgree : List (String × Json) → List (String × Json) → Bool
  | [], _ => true
  | (name, value) :: rest, others =>
    (match others.lookup name with
      | some other => agrees value other
      | none => false) && fieldsAgree rest others

end

end ServiceClient.Json
