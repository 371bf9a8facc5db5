import ServiceClient.Client
import ServiceClient.Proofs.Service.Heads
import ServiceClient.Proofs.Uri.Variables

/-!
# Bodies and heads

A function body is written with the identifiers of parameters in it: those that the path reads, and
those that are sent as headers where there is no request body. All of them are arguments of the
function, so the body reads nothing that the head does not bind.

That a body has no other identifiers in it is said by renaming. If every identifier of an action is
replaced, what the body becomes depends on the new names of the arguments alone.
-/

namespace ServiceClient

/-- A parameter with another identifier in place of its own. -/
def Parameter.rename (σ : String → String) (p : Parameter) : Parameter :=
  { p with codeName := σ p.codeName }

namespace Action

/-- An action with other identifiers in place of its own, wherever it has them. -/
def rename (σ : String → String) (a : Action) : Action :=
  { a with
    urlParameters := a.urlParameters.map (Parameter.rename σ)
    requestHeaders := a.requestHeaders.map (Parameter.rename σ)
    responseHeaders := a.responseHeaders.map (Parameter.rename σ)
    path := a.path.map (Uri.Path.rename σ) }

/-- The identifiers that the body of the function for an action reads. -/
def Reads (a : Action) (x : String) : Prop :=
  (∃ path ∈ a.path, x ∈ path.codeNames) ∨
    a.isBodyless = true ∧ ∃ p ∈ a.requestHeaders, p.codeName = x

variable {a : Action} {σ τ : String → String}

theorem rename_path_congr (h : ∀ x, a.Reads x → σ x = τ x) :
    a.path.map (Uri.Path.rename σ) = a.path.map (Uri.Path.rename τ) := by
  cases hpath : a.path with
  | none => rfl
  | some path =>
    have hnames : ∀ x ∈ path.codeNames, σ x = τ x := fun x hx ↦ h x (.inl ⟨path, hpath, hx⟩)
    rw [Option.map_some, Option.map_some, Uri.Path.rename_congr hnames]

theorem rename_urlPath_congr (h : ∀ x, a.Reads x → σ x = τ x) :
    (a.rename σ).urlPath = (a.rename τ).urlPath := by
  have hpath : (a.rename σ).path = (a.rename τ).path := rename_path_congr h
  rw [urlPath, urlPath, hpath]
  rfl

/-- Headers that are arguments are renamed alike. -/
theorem rename_requestHeaders_congr (h : ∀ x, a.Reads x → σ x = τ x)
    (hbodyless : a.isBodyless = true) :
    a.requestHeaders.map (Parameter.rename σ) = a.requestHeaders.map (Parameter.rename τ) := by
  refine List.map_congr_left fun p hp ↦ ?_
  rw [Parameter.rename, Parameter.rename, h p.codeName (.inr ⟨hbodyless, p, hp, rfl⟩)]

end Action

/-! ### Renamed bodies -/

section Body

variable {a : Action} {σ τ : String → String} (h : ∀ x, a.Reads x → σ x = τ x)

include h

theorem Elixir.requestLines_rename_congr :
    requestLines (a.rename σ) = requestLines (a.rename τ) := by
  have hbodyless (σ : String → String) : (a.rename σ).isBodyless = a.isBodyless := rfl
  rw [requestLines, requestLines, hbodyless, hbodyless]
  split
  · next hget =>
    rw [Action.rename, Action.rename, Action.rename_requestHeaders_congr h hget]
  · simp only [Action.rename, List.isEmpty_map, List.map_map]
    rfl

theorem Elixir.body_rename_congr :
    (restFunction (a.rename σ)).map Function.body =
      (restFunction (a.rename τ)).map Function.body := by
  have hresponse (σ : String → String) : responseLines (a.rename σ) = responseLines a := by
    simp only [responseLines, Action.rename, List.isEmpty_map, List.map_map]
    rfl
  refine map_bind_congr_right (a.rename τ).definedMethodAtom fun methodAtom ↦ ?_
  simp only [pure_eq_ok, except_map_ok, Action.rename_urlPath_congr h,
    Elixir.requestLines_rename_congr h, hresponse]
  rfl

theorem Erlang.requestLines_rename_congr :
    requestLines (a.rename σ) = requestLines (a.rename τ) := by
  have hbodyless (σ : String → String) : (a.rename σ).isBodyless = a.isBodyless := rfl
  rw [requestLines, requestLines, hbodyless, hbodyless]
  split
  · next hget =>
    rw [Action.rename, Action.rename, Action.rename_requestHeaders_congr h hget]
  · simp only [Action.rename, List.map_map]
    rfl

theorem Erlang.body_rename_congr :
    (restEntry (a.rename σ)).map (fun e ↦ e.clauses.map Clause.body) =
      (restEntry (a.rename τ)).map fun e ↦ e.clauses.map Clause.body := by
  refine map_bind_congr_right (a.rename τ).definedMethodAtom fun methodAtom ↦ ?_
  simp only [pure_eq_ok, except_map_ok, List.map_cons, List.map_nil,
    Action.rename_urlPath_congr h, Erlang.requestLines_rename_congr h]
  rfl

end Body

/-! ### Compiled actions -/

namespace Action

variable {language : Language} {api docs operation : Json} {name : String} {a : Action}

/-- Telling where a fault lies gives no result. -/
theorem locate_eq_ok_iff {α : Type} {api : Json} {name : String} {outcome : Outcome α} {r : α} :
    locate api name outcome = .ok r ↔ outcome = .ok r := by
  cases outcome with
  | ok => rfl
  | error fault =>
    cases fault with
    | spec e => simp [locate, bind_eq_ok_iff]
    | _ => simp [locate]

/-- A path that was compiled for an operation was compiled from its template. -/
theorem compile_of_compilePath {requestUri : Json} {parameters : List Parameter} {path : Uri.Path}
    (h : compilePath api name requestUri parameters = .ok path) :
    Uri.Path.compile requestUri parameters = .ok path := by
  have hcompile := locate_eq_ok_iff.1 h
  split at hcompile
  · cases hcompile
  · exact hcompile

/-- An action of its own request has a path that was compiled with the parameters of its path. -/
theorem exists_compile_eq_path (h : compileRest language api docs name operation = .ok a) :
    ∃ path, a.path = some path ∧ Uri.Path.compile a.requestUri a.urlParameters = .ok path := by
  obtain ⟨_, hparts⟩ := exists_isRestAction h
  obtain ⟨path, hcompile, hpath⟩ := hparts.exists_path
  exact ⟨path, hpath, compile_of_compilePath hcompile⟩

theorem mem_arguments_of_mem_urlParameters {p : Parameter} (hp : p ∈ a.urlParameters) :
    p ∈ a.arguments :=
  List.mem_append_left _ hp

theorem mem_arguments_of_mem_requestHeaders (hbodyless : a.isBodyless = true) {p : Parameter}
    (hp : p ∈ a.requestHeaders) : p ∈ a.arguments := by
  rw [arguments, if_pos hbodyless]
  exact List.mem_append_right _ hp

/-- What the body of a function reads is an argument of the function. -/
theorem exists_mem_arguments_of_reads (h : compileRest language api docs name operation = .ok a)
    {x : String} (hx : a.Reads x) : ∃ p ∈ a.arguments, p.codeName = x := by
  obtain ⟨path, hpath, hcompile⟩ := exists_compile_eq_path h
  obtain ⟨path', hpath', hmem⟩ | ⟨hbodyless, p, hp, hcode⟩ := hx
  · obtain rfl := Option.some.inj (hpath.symm.trans hpath')
    obtain ⟨p, hp, hcode⟩ := Uri.Path.exists_mem_of_mem_codeNames hcompile hmem
    exact ⟨p, mem_arguments_of_mem_urlParameters hp, hcode⟩
  · exact ⟨p, mem_arguments_of_mem_requestHeaders hbodyless hp, hcode⟩

end Action

/-- Bodies read nothing that their heads do not bind. Every placeholder in the path of an action has
the identifier of the last parameter of the path that goes by its name; headers that are read as
variables are arguments; and in either language, what the body becomes when identifiers are replaced
depends on those of the arguments alone. So values for the parameters of the path give the path its
text, and no other values matter to it. -/
theorem bodies_read_arguments {language : Language} {api docs : Json} {actions : List Action}
    (h : Action.compileAll .rest language api docs = .ok actions) :
    ∀ a ∈ actions, ∃ path, a.path = some path ∧
      (∀ name multiSegment codeName, .placeholder name multiSegment codeName ∈ path.tokens →
        ∃ p, Uri.Path.IsLastNamed a.urlParameters name p ∧ p.codeName = codeName) ∧
      (a.isBodyless = true → ∀ p ∈ a.requestHeaders, p ∈ a.arguments) ∧
      (∀ σ τ : String → String, (∀ p ∈ a.arguments, σ p.codeName = τ p.codeName) →
        (Elixir.restFunction (a.rename σ)).map Elixir.Function.body =
            (Elixir.restFunction (a.rename τ)).map Elixir.Function.body ∧
          (Erlang.restEntry (a.rename σ)).map (fun e ↦ e.clauses.map Erlang.Clause.body) =
            (Erlang.restEntry (a.rename τ)).map fun e ↦ e.clauses.map Erlang.Clause.body) ∧
      (∀ values, (∀ p ∈ a.urlParameters, (values p.codeName).isSome = true) →
        ∃ text, path.render values = .ok text) ∧
      ∀ values values', (∀ p ∈ a.urlParameters, values p.codeName = values' p.codeName) →
        path.render values = path.render values' := by
  intro a ha
  obtain ⟨operation, -, hrest⟩ := Action.exists_compile_of_mem h ha
  obtain ⟨path, hpath, hcompile⟩ := Action.exists_compile_eq_path hrest
  -- whatever holds of the parameters of the path holds of the variables that the path reads
  have hread {P : String → Prop} (hparameters : ∀ p ∈ a.urlParameters, P p.codeName) :
      ∀ x ∈ path.codeNames, P x := by
    intro x hx
    obtain ⟨p, hp, rfl⟩ := Uri.Path.exists_mem_of_mem_codeNames hcompile hx
    exact hparameters p hp
  refine ⟨path, hpath, fun name multiSegment codeName hmem ↦ ?_, fun hbodyless p hp ↦ ?_,
    fun σ τ hagree ↦ ?_, fun values hvalues ↦ ?_, fun values values' hagree ↦ ?_⟩
  · exact Uri.Path.exists_isLastNamed_of_mem hcompile hmem
  · exact Action.mem_arguments_of_mem_requestHeaders hbodyless hp
  · have hreads : ∀ x, a.Reads x → σ x = τ x := by
      intro x hx
      obtain ⟨p, hp, rfl⟩ := Action.exists_mem_arguments_of_reads hrest hx
      exact hagree p hp
    exact ⟨Elixir.body_rename_congr hreads, Erlang.body_rename_congr hreads⟩
  · exact Uri.Path.exists_render_eq_ok (hread hvalues)
  · exact Uri.Path.render_congr (hread hagree)

/-- Of two members with one name in the path the later one is read, and a header is an argument. -/
theorem bodies_read_arguments_shared :
    let api := Service.itemApi "/\x7bid\x7d/\x7bKey+\x7d" [
      ("First", .obj [("location", .str "uri"), ("locationName", .str "id")]),
      ("Second", .obj [("location", .str "uri"), ("locationName", .str "id")]),
      ("Key", .obj [("location", .str "uri")]),
      ("Version", .obj [("location", .str "header")])]
    ∃ actions, Action.compileAll .rest .elixir api .empty = .ok actions ∧
      actions.map Action.functionParameters = [", first, second, key, version"] ∧
      ∀ a ∈ actions, ∃ path, a.path = some path ∧
        (∃ p, Uri.Path.IsLastNamed a.urlParameters "id" p ∧ p.codeName = "second") ∧
        (∀ p ∈ a.requestHeaders, p ∈ a.arguments) ∧
        path.render (fun _ ↦ some "a/b") = .ok "/a%2Fb/a/b" := by
  intro api
  have hcompile : (Action.compileAll .rest .elixir api .empty).toOption.map (List.map fun a ↦
      (a.functionParameters, a.isBodyless, a.path.map Uri.Path.tokens)) =
      some [(", first, second, key, version", true, some [.literal "/",
        .placeholder "id" false "second", .literal "/", .placeholder "Key" true "key"])] := by
    decide +kernel
  obtain ⟨actions, hactions, hparts⟩ := Option.map_eq_some_iff.1 hcompile
  have hok := toOption_eq_some_iff.1 hactions
  refine ⟨actions, hok, by simpa using congrArg (List.map Prod.fst) hparts, fun a ha ↦ ?_⟩
  obtain ⟨path, hpath, hplaceholders, hheaders, -⟩ := bodies_read_arguments hok a ha
  obtain ⟨-, hbodyless, htokens⟩ : a.functionParameters = ", first, second, key, version" ∧
      a.isBodyless = true ∧ path.tokens = [.literal "/", .placeholder "id" false "second",
        .literal "/", .placeholder "Key" true "key"] := by
    have hmem := List.mem_map_of_mem (f := fun a ↦
      (a.functionParameters, a.isBodyless, a.path.map Uri.Path.tokens)) ha
    rw [hparts, List.mem_singleton] at hmem
    simpa [hpath] using hmem
  refine ⟨path, hpath, hplaceholders "id" false "second" (by simp [htokens]), hheaders hbodyless,
    ?_⟩
  rw [Uri.Path.render, htokens]
  decide +kernel

end ServiceClient
