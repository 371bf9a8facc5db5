import ServiceClient.Json.Agreement
import ServiceClient.Json.Lookup

/-!
# Options

The options that a caller passes along with a build are a table of keys with their values, in the
order in which the keys first came. Any value can be a key, arrays and objects excepted. Keys that
agree are one key, such as one and true, or a number with a point and without. A key that comes
again keeps its first place and its first form, and takes its last value.

`ofJson` reads the options that a value stands for: nothing, an object, or a sequence of pairs.
-/

namespace ServiceClient

/-- A table of options: keys with their values, in order. -/
abbrev Options := List (Json × Json)

namespace Options

/-- Whether a value can be a key. -/
def isKey : Json → Bool
  | .arr _ | .obj _ => false
  | _ => true

/-- The table with a value put under a key: in place of the old value, or at the end. -/
def put : Options → Json → Json → Options
  | [], key, value => [(key, value)]
  | (present, old) :: rest, key, value =>
    if present.scalarsAgree key then (present, value) :: rest
    else (present, old) :: put rest key value

/-- The table without a key. -/
def erase (o : Options) (key : Json) : Options := o.filter fun entry ↦ !entry.1.scalarsAgree key

/-- The value under a key. -/
def value? (o : Options) (key : Json) : Option Json :=
  (o.find? fun entry ↦ entry.1.scalarsAgree key).map Prod.snd

/-- The table with the names of some fields as its keys. -/
def ofFields (fields : Fields) : Options := fields.map fun field ↦ (.str field.1, field.2)

/-- The table that a sequence of pairs amounts to. -/
def ofPairs (pairs : List (Json × Json)) : Options :=
  pairs.foldl (fun o pair ↦ put o pair.1 pair.2) []

/-- The key and the value of the option at an index in a sequence. -/
def pairAt (index : Nat) (v : Json) : Outcome (Json × Json) := do
  match ← v.items with
  | [key, value] => if isKey key then return (key, value) else throw .unfit
  | other => throw (.rejected (.notPair index other.length))

/-- The pairs in a sequence of which the first has an index. -/
def pairsFrom (index : Nat) : List Json → Outcome (List (Json × Json))
  | [] => .ok []
  | v :: rest => do return (← pairAt index v) :: (← pairsFrom (index + 1) rest)

/-- The options that a value stands for. -/
def ofJson (v : Json) : Outcome Options := do
  if !v.given then return []
  match v with
  | .obj fields => return ofFields fields
  | _ => return ofPairs (← pairsFrom 0 (← v.items))

/-- Whether two tables agree: they have the same keys, in whatever order, with values that agree. -/
def agrees (a b : Options) : Bool :=
  a.length == b.length &&
    a.all fun entry ↦ ((b.value? entry.1).map entry.2.agrees).getD false

@[simp] theorem ofJson_null : ofJson .null = .ok [] := rfl

end Options

end ServiceClient
