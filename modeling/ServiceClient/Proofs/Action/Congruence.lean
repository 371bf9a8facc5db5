import ServiceClient.Action.Compile

/-!
# What compiling an operation reads

An operation is compiled on its own. Of the spec it needs the shapes that it refers to and the
endpoint prefix, which an error names, and of the documentation its own entry: two specs that say
the same about these give the same action, whatever their other operations are.
-/

namespace ServiceClient.Action

variable {api api' docs docs' : Json}

theorem locate_congr {α : Type} (h : Spec.endpointPrefix api = Spec.endpointPrefix api')
    (name : String) (outcome : Outcome α) : locate api name outcome = locate api' name outcome := by
  cases outcome with
  | ok a => rfl
  | error fault =>
    cases fault with
    | spec e => rw [locate, locate, h]
    | _ => rfl

/-- An operation that describes its own request is compiled alike where the description, the
parameters, the endpoint prefix and the documentation are the same. -/
theorem compileRest_congr {language : Language} {name : String} {operation operation' : Json}
    (hhttp : operation.fieldOrEmpty "http" = operation'.fieldOrEmpty "http")
    (hinput : ∀ kind, Parameter.ofOperation language api operation "input" kind =
      Parameter.ofOperation language api' operation' "input" kind)
    (houtput : Parameter.ofOperation language api operation "output" .header =
      Parameter.ofOperation language api' operation' "output" .header)
    (hendpoint : Spec.endpointPrefix api = Spec.endpointPrefix api')
    (hentry : Doc.operationEntry docs name = Doc.operationEntry docs' name) :
    compileRest language api docs name operation =
      compileRest language api' docs' name operation' := by
  have hpath : compilePath api = compilePath api' := by
    funext name requestUri parameters
    rw [compilePath, compilePath, locate_congr hendpoint]
  rw [compileRest, compileRest, hhttp, hinput, hinput, houtput, hpath, hentry]

/-- An operation is compiled alike where its shapes, the endpoint prefix and its documentation are
the same. -/
theorem compile_congr (hshape : Spec.shape api = Spec.shape api')
    (hendpoint : Spec.endpointPrefix api = Spec.endpointPrefix api')
    (hentry : Doc.operationEntry docs = Doc.operationEntry docs') (transport : Transport)
    (language : Language) :
    compile transport language api docs = compile transport language api' docs' := by
  funext name operation
  cases transport with
  | rpc => rw [compile, compile, compileRpc, compileRpc, hentry]
  | rest =>
    have hparameters :
        Parameter.ofOperation language api = Parameter.ofOperation language api' := by
      funext operation direction kind
      rw [Parameter.ofOperation, Parameter.ofOperation, hshape]
    exact compileRest_congr rfl (fun kind ↦ by rw [hparameters]) (by rw [hparameters]) hendpoint
      (by rw [hentry])

/-- Actions are arranged alike where the endpoint prefix is the same. -/
theorem arrange_congr (hendpoint : Spec.endpointPrefix api = Spec.endpointPrefix api') :
    arrange api = arrange api' := by
  funext actions
  rw [arrange, arrange, hendpoint]

end ServiceClient.Action
