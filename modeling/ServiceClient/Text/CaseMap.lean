
/-!
# Case maps

A case map sends a character to the characters that replace it. Nearly all of it is regular: long
runs of neighbouring letters move by one distance, and in many scripts capital and small letters
alternate, so that every second code point of a stretch moves. A `CaseMap` lists those runs, and
beside them the few characters that become several. A character in neither list stays as it is.

Only the runs are searched by arithmetic, so a map of some fourteen hundred letters fits in less
than two hundred lines of data.
-/

namespace ServiceClient.Text

/-- The code points `first`, `first + stride`, ..., `last`, each moved by `shift`. -/
structure CaseRun where
  /-- The least code point of the run. -/
  first : Nat
  /-- The greatest code point of the run. -/
  last : Nat
  /-- The distance between neighbours: 1, or 2 where the cases alternate. -/
  stride : Nat
  /-- How far each member moves. -/
  shift : Int

/-- Whether a code point is a member of the run. -/
def CaseRun.mem (r : CaseRun) (n : Nat) : Bool :=
  decide (r.first ≤ n) && decide (n ≤ r.last) && (n - r.first) % r.stride == 0

/-- A case map: regular runs, and the characters that become several. -/
structure CaseMap where
  /-- The runs of characters that move by one distance. -/
  runs : List CaseRun
  /-- The characters that become more than one, with their replacements. -/
  expansions : List (Nat × List Nat)

/-- The characters that a character becomes. -/
def CaseMap.apply (m : CaseMap) (c : Char) : List Char :=
  match m.runs.find? (·.mem c.toNat) with
  | some r => [Char.ofNat (c.toNat + r.shift).toNat]
  | none =>
    match m.expansions.lookup c.toNat with
    | some ns => ns.map Char.ofNat
    | none => [c]


end ServiceClient.Text
