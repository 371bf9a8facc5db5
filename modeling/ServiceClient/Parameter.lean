import ServiceClient.Identifier
import ServiceClient.Spec

/-!
# Parameters

The members of a shape that do not travel in the body are bound to a location: a place in the path,
or a header. Each becomes a parameter, with an identifier in the target language, the name of the
member and the name at its location. Members without a location, and those bound to another one, are
left out.
-/

namespace ServiceClient

/-- A member of a shape that is bound to the path or to a header. -/
structure Parameter where
  /-- The identifier of the parameter in the target language. -/
  codeName : String
  /-- The name of the member. -/
  name : String
  /-- The name of the placeholder or the header. -/
  locationName : Json

/-- The locations that a member can be bound to. -/
inductive LocationKind
  /-- A place in the path. -/
  | path
  /-- A header. -/
  | header
  deriving DecidableEq

namespace LocationKind

/-- The location kind that a value names. -/
def ofJson (v : Json) : Outcome LocationKind := do
  match ← v.key? with
  | some "path" => return .path
  | some "header" => return .header
  | _ => throw (.rejected (.unknownLocationKind v))

/-- The words for a location of this kind. -/
def words : LocationKind → List String
  | .path => ["uri", "path"]
  | .header => ["header"]

end LocationKind

namespace Parameter

/-- The name of a member as text. -/
def nameText (language : Language) : Json → Outcome String
  | .str name => .ok name
  | .arr _ => .error (if language = .erlang then .wanting else .unfit)
  | _ => .error .unfit

/-- The parameter for a member. A location name that is not given is the name of the member. -/
def ofMember (language : Language) (name member : Json) : Outcome Parameter := do
  let text ← nameText language name
  return {
    codeName := Identifier.ofName language text
    name := text
    locationName := (← member.field "locationName").orElse name }

/-- Whether a member is bound to a location of the given kind. -/
def isBound (kind : LocationKind) (member : Json) : Outcome Bool := do
  match ← (← member.field "location").key? with
  | some word => return decide (word ∈ kind.words)
  | none => return false

/-- The parameter for a member, if the member is bound to a location of the given kind. -/
def ofBound? (language : Language) (kind : LocationKind) (name member : Json) :
    Outcome (Option Parameter) := do
  if ← isBound kind member then return some (← ofMember language name member) else return none

/-- The parameters among the members of a shape, in order. -/
def ofMembers (language : Language) (kind : LocationKind) (members : Fields) :
    Outcome (List Parameter) := do
  return (← members.mapM fun m ↦ ofBound? language kind (.str m.1) m.2).filterMap id

/-- The parameters among members that are given as pairs of a name and a definition, in order. -/
def ofPairs (language : Language) (kind : LocationKind) (pairs : List Json) :
    Outcome (List Parameter) := do
  let found ← pairs.mapM fun v ↦ do
    let (name, member) ← v.pair
    ofBound? language kind name member
  return found.filterMap id

/-- The parameters of an operation's input or output. -/
def ofOperation (language : Language) (api operation : Json) (direction : String)
    (kind : LocationKind) : Outcome (List Parameter) := do
  ofMembers language kind (← Spec.members (← Spec.shape api operation direction))

end Parameter

end ServiceClient
