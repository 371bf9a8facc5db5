/-!
# JSON values

The values of the documents that a client is generated from. Integers and floating-point numbers
are told apart, and the fields of an object keep the order in which they were written: the members
of a shape are read in that order, and it decides which of two operations an error names.

The fields are pairs of a name and a value. `put` and `erase` are the only ways in which this
library changes them; both keep the names of the other fields in place, and `put` leaves a name that
is already there where it stands.
-/

namespace ServiceClient

/-- A JSON value. -/
inductive Json where
  /-- The absent value. -/
  | null
  /-- A truth value. -/
  | bool (b : Bool)
  /-- An integer of any size. -/
  | int (n : Int)
  /-- A number written with a point or an exponent. -/
  | float (x : Float)
  /-- A string. -/
  | str (s : String)
  /-- An array. -/
  | arr (items : List Json)
  /-- An object, as its fields in the order in which they were written. -/
  | obj (fields : List (String × Json))
  deriving Inhabited

/-- Fields of an object or of a table of options, in order. -/
abbrev Fields := List (String × Json)

namespace Fields

/-- The fields with a value put under a name: in place of the old value, or at the end. -/
def put : Fields → String → Json → Fields
  | [], name, value => [(name, value)]
  | (key, old) :: rest, name, value =>
    if key = name then (key, value) :: rest else (key, old) :: put rest name value

/-- The fields without a name. -/
def erase (fields : Fields) (name : String) : Fields := fields.filter (·.1 ≠ name)

/-- The fields that a sequence of pairs amounts to: a repeated name keeps its first place and takes
its last value. -/
def ofPairs (pairs : List (String × Json)) : Fields :=
  pairs.foldl (fun fields pair ↦ put fields pair.1 pair.2) []

/-- The names of the fields. -/
def names (fields : Fields) : List String := fields.map Prod.fst

theorem names_put (fields : Fields) (name : String) (value : Json) :
    names (put fields name value) =
      if name ∈ names fields then names fields else names fields ++ [name] := by
  induction fields with
  | nil => simp [put, names]
  | cons field rest ih =>
    obtain ⟨key, old⟩ := field
    by_cases h : key = name
    · simp [put, names, h]
    · have h' : ¬name = key := fun e ↦ h e.symm
      by_cases hm : name ∈ names rest
      · simp_all [put, names]
      · simp_all [put, names]

theorem lookup_put_self (fields : Fields) (name : String) (value : Json) :
    (put fields name value).lookup name = some value := by
  induction fields with
  | nil => simp [put]
  | cons field rest ih =>
    obtain ⟨key, old⟩ := field
    by_cases h : key = name
    · simp [put, h]
    · have h' : (name == key) = false := by simpa using fun e ↦ h e.symm
      simp [put, h, List.lookup_cons, h', ih]

end Fields

namespace Json

/-- The object without fields. -/
def empty : Json := .obj []

/-- Whether a value counts as given: null, false, zero and whatever is empty do not. -/
def given : Json → Bool
  | .null => false
  | .bool b => b
  | .int n => n != 0
  | .float x => x != 0
  | .str s => s != ""
  | .arr items => !items.isEmpty
  | .obj fields => !fields.isEmpty

/-- Whether a value is null. -/
def isNull : Json → Bool
  | .null => true
  | _ => false

/-- The value itself when it counts as given, and otherwise a substitute. -/
def orElse (v substitute : Json) : Json := if v.given then v else substitute

end Json

end ServiceClient
