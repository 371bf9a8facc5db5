import ServiceClient.Json.Lookup

/-!
# API specs

An API spec has three sections: the metadata of the service, its operations by name, and its shapes
by name. An operation refers to the shape of its input and of its output, and a shape has members by
name, in the order in which they were written.
-/

namespace ServiceClient.Spec

/-- The metadata of the service. -/
def metadata (api : Json) : Outcome Json := api.fieldOrEmpty "metadata"

/-- The operations by name. -/
def operations (api : Json) : Outcome Json := api.fieldOrEmpty "operations"

/-- The shapes by name. -/
def shapes (api : Json) : Outcome Json := api.fieldOrEmpty "shapes"

/-- The endpoint prefix of the service, or null. -/
def endpointPrefix (api : Json) : Outcome Json := do (← metadata api).field "endpointPrefix"

/-- The shape of an operation's input or output, or null where the operation names none or the spec
has none of that name. -/
def shape (api operation : Json) (direction : String) : Outcome Json := do
  let name ← ((← operation.field direction).orElse .empty).field "shape"
  if name.given then (← shapes api).find name else return .null

/-- The members of a shape by name, in order. -/
def members (shape : Json) : Outcome Fields := do
  if shape.given then (← shape.fieldOrEmpty "members").fields else return []

end ServiceClient.Spec
