import ServiceClient.Proofs.Outcome
import ServiceClient.Uri.Path

/-!
# Paths without variables

The variables of a path are the only part of it that depends on the target language. Forgetting them
commutes with everything that is done to compile a path, down to the error: binding looks parameters
up by their location names, and hands on whatever identifier it finds.
-/

namespace ServiceClient

/-- A parameter without its identifier. -/
def Parameter.unnamed (p : Parameter) : Parameter := { p with codeName := "" }

namespace Uri

/-- A token without its variable. -/
def Token.unbound : Token → Token
  | .literal text => .literal text
  | .placeholder name multiSegment _ => .placeholder name multiSegment ""

namespace Path

/-- A path without its variables. -/
def unbound (path : Path) : Path := ⟨path.tokens.map Token.unbound⟩

variable (parameters : List Parameter)

theorem codeName?_unnamed (name : String) :
    codeName? (parameters.map Parameter.unnamed) name =
      (codeName? parameters name).map fun _ ↦ "" := by
  rw [codeName?, codeName?, ← List.map_reverse, List.find?_map, Option.map_map, Option.map_map]
  rfl

theorem bindToken_unnamed (t : Token) :
    bindToken (parameters.map Parameter.unnamed) t =
      (bindToken parameters t).map Token.unbound := by
  cases t with
  | literal text => rfl
  | placeholder name multiSegment unbound =>
    rw [bindToken, bindToken, codeName?_unnamed]
    cases codeName? parameters name <;> rfl

theorem bind_unnamed (tokens : List Token) :
    Path.bind tokens (parameters.map Parameter.unnamed) =
      (Path.bind tokens parameters).map unbound := by
  rw [Path.bind, Path.bind, mapM_eq_map (bindToken_unnamed parameters) tokens]
  cases tokens.mapM (bindToken parameters) <;> rfl

/-- Compiling with parameters without identifiers gives the path without its variables. -/
theorem compile_unnamed (requestUri : Json) :
    compile requestUri (parameters.map Parameter.unnamed) =
      (compile requestUri parameters).map unbound := by
  have hkeys : ((parameters.map Parameter.unnamed).mapM fun p ↦ p.locationName.key?) =
      parameters.mapM fun p ↦ p.locationName.key? := List.mapM_map
  rw [compile, compile, hkeys, map_bind]
  congr 1
  funext keys
  rw [map_bind]
  congr 1
  funext tokens
  rw [bind_unnamed]
  cases Path.bind tokens parameters <;> rfl

end Path

end Uri

end ServiceClient
