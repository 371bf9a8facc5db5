import ServiceClient.Doc.Block
import ServiceClient.Json.Lookup

/-!
# Documentation entries

The documentation spec holds the markup of the service under `service` and that of each operation
under `operations`. An entry that is not given has an empty block.
-/

namespace ServiceClient.Doc

/-- The block for an entry of the documentation spec. -/
def blockOf (language : Language) (entry : Json) : Outcome String :=
  if !entry.given then .ok ""
  else
    match entry with
    | .str markup =>
      match block language markup with
      | .ok text => .ok text
      | .error e => .error (.rejected (.tooManyDigits e.digits))
    | _ => .error .unfit

/-- The entry of an operation. -/
def operationEntry (docs : Json) (name : String) : Outcome Json := do
  (← docs.fieldOrEmpty "operations").field name

end ServiceClient.Doc
