import ServiceClient.Fault

/-!
# Looking into values

Specs are read as they come: no schema is checked beforehand, and each step looks for the fields
that it needs. Looking for a field of something that is no object is a fault; a field that is not
there is not. A key can be any value, but only a string can be found, and arrays and objects are not
fit to be keys at all.

Where a sequence is wanted, a string serves as its characters and an object as its names.
-/

namespace ServiceClient.Json

/-- The fields of an object. -/
def fields : Json → Outcome Fields
  | .obj fields => .ok fields
  | _ => .error .wanting

/-- The value of a field, if the object has it. -/
def field? (v : Json) (name : String) : Outcome (Option Json) := do
  return (← v.fields).lookup name

/-- The value of a field, and null if the object does not have it. -/
def field (v : Json) (name : String) : Outcome Json := do
  return (← v.field? name).getD .null

/-- The value of a field, and an empty object if there is none. -/
def fieldOrEmpty (v : Json) (name : String) : Outcome Json := do
  return (← v.field? name).getD .empty

/-- The name that a value is as a key, if a name can equal it. Arrays and objects are no keys. -/
def key? : Json → Outcome (Option String)
  | .str s => .ok (some s)
  | .arr _ | .obj _ => .error .unfit
  | _ => .ok none

/-- The value under a key, and null if there is none. The object is looked at before the key. -/
def find (v : Json) (key : Json) : Outcome Json := do
  let fields ← v.fields
  match ← key.key? with
  | some name => return (fields.lookup name).getD .null
  | none => return .null

/-- The items of a sequence. -/
def items : Json → Outcome (List Json)
  | .arr items => .ok items
  | .str s => .ok (s.toList.map fun c ↦ .str (String.singleton c))
  | .obj fields => .ok (fields.map fun field ↦ .str field.1)
  | _ => .error .unfit

/-- The two items of a pair. -/
def pair (v : Json) : Outcome (Json × Json) := do
  match ← v.items with
  | [first, second] => return (first, second)
  | _ :: _ :: _ :: _ => throw (.rejected .tooManyParts)
  | fewer => throw (.rejected (.tooFewParts fewer.length))

@[simp] theorem fields_obj (fs : Fields) : (Json.obj fs).fields = .ok fs := rfl

@[simp] theorem field?_obj (fs : Fields) (name : String) :
    (Json.obj fs).field? name = .ok (fs.lookup name) := rfl

@[simp] theorem field_obj (fs : Fields) (name : String) :
    (Json.obj fs).field name = .ok ((fs.lookup name).getD .null) := rfl

@[simp] theorem fieldOrEmpty_obj (fs : Fields) (name : String) :
    (Json.obj fs).fieldOrEmpty name = .ok ((fs.lookup name).getD .empty) := rfl

end ServiceClient.Json
