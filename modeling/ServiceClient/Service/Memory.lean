import ServiceClient.Service

/-!
# Services in memory

A service is made from a table of options that goes on to exist beside it, so which options it has
is a matter of references. A memory holds objects by address: tables, which are changed in place;
views, through which a table is read and cannot be written to; and records, which refer to their
options and may be frozen. Whoever has an address shares the object with everyone else who has it.

A service is a frozen record. When one is made its options are first those that it was given, and
are then replaced with a view of a copy of them (`Memory.settleOptions`). Being frozen does not
stand in the way of that, since it only keeps fields from being assigned in the usual way.

The copy is one of the table. Its values are shared, but nothing here changes the inside of a value,
so values are held as such. An operation that fails gives the memory that it leaves behind as well.
-/

namespace ServiceClient

/-- Where an object is. -/
abbrev Address := Nat

/-- A service as a record that refers to its options. -/
structure Record where
  /-- Whether fields can no longer be assigned. -/
  frozen : Bool
  /-- The fields that the record was made with. Its options are not the table in there, but those at
  the address. -/
  made : Service
  /-- Where the options are. -/
  options : Address
  /-- What has been assigned to fields since the record was made. -/
  assigned : Fields := []

/-- An object. -/
inductive Object
  /-- A table of options. -/
  | table (entries : Options)
  /-- A view of the table at an address. -/
  | view (target : Address)
  /-- A record. -/
  | record (r : Record)

/-- Objects by address. An object that is added gets the next address. -/
abbrev Memory := List Object

namespace Memory

/-- The memory with an object added, and the address of the object. -/
def add (m : Memory) (object : Object) : Memory × Address := (m ++ [object], m.length)

/-- The entries of a table, or of the table that a view is of. -/
def entries (m : Memory) (a : Address) : Outcome Options :=
  match m[a]? with
  | some (.table entries) => .ok entries
  | some (.view target) =>
    match m[target]? with
    | some (.table entries) => .ok entries
    | _ => .error .unfit
  | _ => .error .unfit

/-- Puts a value under a key. Only tables can be written to. -/
def setItem (m : Memory) (a : Address) (key value : Json) : Memory × Outcome Unit :=
  match m[a]? with
  | some (.table entries) =>
    if Options.isKey key then (m.set a (.table (entries.put key value)), .ok ())
    else (m, .error .unfit)
  | _ => (m, .error .unfit)

/-- Deletes a key, which has to be there. Only tables can be written to. -/
def deleteItem (m : Memory) (a : Address) (key : Json) : Memory × Outcome Unit :=
  match m[a]? with
  | some (.table entries) =>
    if !Options.isKey key then (m, .error .unfit)
    else if (entries.value? key).isSome then (m.set a (.table (entries.erase key)), .ok ())
    else (m, .error (.missingKey key.literal))
  | _ => (m, .error .unfit)

/-- Assigns a field of a record, unless the record is frozen. -/
def setField (m : Memory) (a : Address) (name : String) (value : Json) : Memory × Outcome Unit :=
  match m[a]? with
  | some (.record r) =>
    if r.frozen then (m, .error .fixed)
    else (m.set a (.record { r with assigned := r.assigned.put name value }), .ok ())
  | _ => (m, .error .wanting)

/-- Where the options of a record are. -/
def optionsOf (m : Memory) (a : Address) : Outcome Address :=
  match m[a]? with
  | some (.record r) => .ok r.options
  | _ => .error .wanting

/-- Lets a record, frozen or not, refer to other options. -/
def bindOptions (m : Memory) (a options : Address) : Memory :=
  match m[a]? with
  | some (.record r) => m.set a (.record { r with options })
  | _ => m

/-- Replaces the options of a record with a view of a copy of them. -/
def settleOptions (m : Memory) (a : Address) : Outcome Memory := do
  let entries ← m.entries (← m.optionsOf a)
  let (m, copy) := m.add (.table entries)
  let (m, view) := m.add (.view copy)
  return m.bindOptions a view

/-- Makes a service from its fields and the options at an address. -/
def construct (m : Memory) (made : Service) (options : Address) : Outcome (Memory × Address) := do
  let (m, a) := m.add (.record { frozen := true, made, options })
  return (← m.settleOptions a, a)

/-- The service at an address with the options that it refers to, and what has been assigned to its
fields since it was made. -/
def service (m : Memory) (a : Address) : Outcome (Service × Fields) :=
  match m[a]? with
  | some (.record r) => do return ({ r.made with options := ← m.entries r.options }, r.assigned)
  | _ => .error .wanting

end Memory

end ServiceClient
