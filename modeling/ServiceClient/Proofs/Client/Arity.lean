import ServiceClient.Proofs.Erlang.Written
import ServiceClient.Proofs.Service.Documentation
import ServiceClient.Proofs.Service.Heads

/-!
# Declared and generated arities

An action declares an arity, which was counted when its operation was compiled; the head of its
function was put together from its parameters, by each module in its own way. The two agree. What an
Erlang module exports is written from the declared arity, so every export is the name and the arity
of a clause.
-/

namespace ServiceClient

open Client

namespace Action

variable {transport : Transport} {language : Language} {api docs operation : Json} {name : String}
  {a : Action}

/-- The names of the members that are arguments of the function for an operation. -/
def headNames (transport : Transport) (api operation : Json) : List String :=
  match transport with
  | .rpc => []
  | .rest => Fields.names (headMembers api operation)

/-- Whether the function for an operation takes the input. -/
def takesInput (transport : Transport) (operation : Json) : Bool :=
  match transport with
  | .rpc => true
  | .rest => !isGet ((operation.part "http").valueAt "method")

theorem isBodyless_of_compileRest (h : compileRest language api docs name operation = .ok a) :
    a.isBodyless = isGet ((operation.part "http").valueAt "method") := by
  obtain ⟨http, hparts⟩ := exists_isRestAction h
  obtain rfl := Json.eq_part_of_fieldOrEmpty hparts.http_eq
  rw [isBodyless, Json.eq_valueAt_of_field hparts.method_eq]

/-- The arguments of a function are named after the members in its head. -/
theorem map_codeName_arguments (h : compile transport language api docs name operation = .ok a) :
    a.arguments.map Parameter.codeName =
      (headNames transport api operation).map (Identifier.ofName language) := by
  cases transport with
  | rpc =>
    simp only [compile, compileRpc, bind_eq_ok_iff] at h
    obtain ⟨_, -, _, -, h⟩ := h
    obtain rfl := Except.ok.inj h
    rfl
  | rest =>
    rw [arguments_of_compileRest h, headNames, Fields.names, List.map_map, List.map_map]
    rfl

/-- The arity of an action counts the names in the head and what else the function takes. -/
theorem arity_of_compile (h : compile transport language api docs name operation = .ok a) :
    a.arity = (headNames transport api operation).length +
      if takesInput transport operation then 3 else 2 := by
  cases transport with
  | rpc =>
    simp only [compile, compileRpc, bind_eq_ok_iff] at h
    obtain ⟨_, -, _, -, h⟩ := h
    obtain rfl := Except.ok.inj h
    rfl
  | rest =>
    have hcompile : compile .rest language api docs name operation = .ok a := h
    have harguments := congrArg List.length (map_codeName_arguments hcompile)
    rw [List.length_map, List.length_map, arguments, List.length_append] at harguments
    have hget := isBodyless_of_compileRest h
    obtain ⟨_, hparts⟩ := exists_isRestAction h
    rw [hparts.arity_eq, ← harguments, takesInput, ← hget, isBodyless]
    cases isGet a.method with
    | true => simp only [if_true, Bool.not_true, Bool.false_eq_true, if_false]; omega
    | false => simp

end Action

namespace Client

variable {transport : Transport} {language : Language} {api docs operation : Json} {name : String}
  {a : Action} {layout : Layout}

theorem Layout.length_formals (layout : Layout) (names : List String) (takesInput : Bool) :
    (layout.formals names takesInput).length = names.length + if takesInput then 3 else 2 := by
  cases takesInput <;> simp [formals]

/-- The head of a function is that of the members of the operation's input. -/
theorem Layout.formals_headOf
    (h : Action.compile layout.transport language api docs name operation = .ok a) :
    (layout.headOf a).formals =
      layout.formals ((Action.headNames layout.transport api operation).map
        (Identifier.ofName language)) (Action.takesInput layout.transport operation) := by
  obtain ⟨target, transport⟩ := layout
  cases transport with
  | rpc => rfl
  | rest =>
    have hget := Action.isBodyless_of_compileRest h
    rw [← Action.map_codeName_arguments h, Action.takesInput, ← hget]
    rfl

/-- The function for an action has the arity that the action declares. -/
theorem Layout.length_formals_headOf
    (h : Action.compile layout.transport language api docs name operation = .ok a) :
    (layout.headOf a).formals.length = a.arity := by
  rw [formals_headOf h, length_formals, List.length_map, Action.arity_of_compile h]

/-! ### Commas -/

theorem comma_notMem_of_isNameChar {cs : List Char}
    (h : ∀ c ∈ cs, Identifier.isNameChar c = true) : ',' ∉ cs := fun hmem ↦
  absurd (h ',' hmem) (by decide)

/-- In Elixir the identifier of a parameter holds no comma. -/
theorem comma_notMem_ofName (name : String) : ',' ∉ (Identifier.ofName .elixir name).toList := by
  have hbase : ',' ∉ (Identifier.snakeCase name).toList :=
    comma_notMem_of_isNameChar fun _ ↦ Identifier.isNameChar_of_mem_snakeCase
  have hsuffix : ',' ∉ "_param".toList := by decide
  rw [Identifier.ofName]
  split
  · rw [String.toList_append, List.mem_append]
    exact not_or.2 ⟨hbase, hsuffix⟩
  · exact hbase

/-- The formal arguments of a function hold no comma, apart from those that are given. -/
theorem Layout.comma_notMem_formals {names : List String}
    (hnames : ∀ name ∈ names, ',' ∉ name.toList) {takesInput : Bool} :
    ∀ formal ∈ layout.formals names takesInput, ',' ∉ formal.toList := by
  have hclient : ∀ target : Target, ',' ∉ target.clientFormal.toList := by
    intro target
    cases target <;> decide
  have hinput : ∀ (target : Target) (transport : Transport),
      ',' ∉ (target.inputFormal transport).toList := by
    intro target transport
    cases target <;> cases transport <;> decide
  have hoptions : ∀ target : Target, ',' ∉ target.optionsFormal.toList := by
    intro target
    cases target <;> decide
  intro formal hformal
  rw [formals, List.mem_append, List.mem_cons] at hformal
  obtain (rfl | hformal) | hformal := hformal
  · exact hclient layout.target
  · exact hnames formal hformal
  · cases takesInput with
    | true =>
      rw [if_pos rfl, List.mem_cons, List.mem_singleton] at hformal
      obtain rfl | rfl := hformal
      · exact hinput layout.target layout.transport
      · exact hoptions layout.target
    | false =>
      rw [if_neg Bool.false_ne_true, List.mem_singleton] at hformal
      obtain rfl := hformal
      exact hoptions layout.target

/-- Where no argument holds a comma, as many arguments are written in a head as it has. -/
theorem Layout.writtenArity_headOf (hname : ',' ∉ a.functionName.toList)
    (harguments : ∀ p ∈ a.arguments, ',' ∉ p.codeName.toList) :
    (layout.headOf a).writtenArity = (layout.headOf a).formals.length := by
  have hcodeNames : ∀ name ∈ a.arguments.map Parameter.codeName, ',' ∉ name.toList :=
    List.forall_mem_map.2 harguments
  obtain ⟨target, transport⟩ := layout
  cases transport with
  | rpc =>
    exact Head.writtenArity_eq (List.cons_ne_nil _ _) hname (comma_notMem_formals (by simp))
  | rest =>
    exact Head.writtenArity_eq (List.cons_ne_nil _ _) hname (comma_notMem_formals hcodeNames)

/-- The head of an action's function: it is named after the operation, takes the members of the
input that belong there, and has the arity that the action declares. As many arguments are written,
unless an identifier holds a comma, which none does in Elixir. -/
structure Layout.IsHeadOf (layout : Layout) (language : Language) (api : Json) (a : Action)
    (head : Head) : Prop where
  /-- The function has the name of the action. -/
  name_eq : head.name = a.functionName
  /-- The arguments are those for the operation. -/
  exists_formals : ∃ operation, (a.name, operation) ∈ (api.part "operations").entries ∧
    head.formals = layout.formals ((Action.headNames layout.transport api operation).map
      (Identifier.ofName language)) (Action.takesInput layout.transport operation)
  /-- There are as many as the action declares. -/
  arity_eq : head.formals.length = a.arity
  /-- As many are written. -/
  writtenArity_eq : (language = .elixir ∨ ∀ p ∈ a.arguments, ',' ∉ p.codeName.toList) →
    head.writtenArity = a.arity

theorem Layout.isHeadOf_headOf {actions : List Action}
    (h : Action.compileAll layout.transport language api docs = .ok actions) (ha : a ∈ actions) :
    layout.IsHeadOf language api a (layout.headOf a) := by
  obtain ⟨operation, hmem, hcompile⟩ := Action.exists_compile_of_mem h ha
  have harity := length_formals_headOf hcompile
  have hname : ',' ∉ a.functionName.toList := by
    rw [(Action.names_of_compile hcompile).2]
    exact comma_notMem_of_isNameChar fun _ ↦ Identifier.isNameChar_of_mem_snakeCase
  refine ⟨rfl, ⟨operation, hmem, formals_headOf hcompile⟩, harity, fun hcommas ↦ ?_⟩
  rw [← harity]
  refine writtenArity_headOf hname fun p hp ↦ ?_
  obtain rfl | hcommas := hcommas
  · have hcode : p.codeName ∈ a.arguments.map Parameter.codeName := List.mem_map_of_mem hp
    rw [Action.map_codeName_arguments hcompile] at hcode
    obtain ⟨name, -, hname⟩ := List.mem_map.1 hcode
    rw [← hname]
    exact comma_notMem_ofName name
  · exact hcommas p hp

end Client

/-! ### Exports -/

namespace Erlang

variable {transport : Transport} {a : Action} {actions : List Action} {entries : List Entry}

/-- The name and the arity of a clause. -/
def Clause.signature (c : Clause) : Export := ⟨c.name, c.formals.length⟩

/-- What is exported for an action are its functions, if they have the declared arity. -/
theorem exportsOf_eq_map
    (h : (Layout.headOf ⟨.erlang, transport⟩ a).formals.length = a.arity) :
    exportsOf transport a =
      (headsOf transport a).map fun head ↦ ⟨head.name, head.formals.length⟩ := by
  cases transport with
  | rpc => rw [exportsOf, ← h]; rfl
  | rest => rw [exportsOf, ← h]; rfl

/-- What the entries of a module export is what is exported for the actions, and it is the clauses
of the entries. -/
theorem flatMap_exports_eq (hentries : List.Forall₂ (IsEntryOf transport) actions entries)
    (harity : ∀ a ∈ actions,
      (Layout.headOf ⟨.erlang, transport⟩ a).formals.length = a.arity) :
    entries.flatMap Entry.exports = actions.flatMap (exportsOf transport) ∧
      entries.flatMap Entry.exports =
        entries.flatMap fun e ↦ e.clauses.map Clause.signature := by
  induction hentries with
  | nil => exact ⟨rfl, rfl⟩
  | @cons a e actions entries hentry _ ih =>
    obtain ⟨ha, hactions⟩ := List.forall_mem_cons.1 harity
    obtain ⟨hexports, hclauses⟩ := ih hactions
    have hsignatures : e.exports = e.clauses.map Clause.signature := by
      rw [hentry.exports_eq, exportsOf_eq_map ha, ← hentry.heads_eq, List.map_map]
      rfl
    refine ⟨?_, ?_⟩
    · rw [List.flatMap_cons, List.flatMap_cons, hentry.exports_eq, hexports]
    · rw [List.flatMap_cons, List.flatMap_cons, ← hsignatures, hclauses]

theorem map_heads_of_forall₂ (hentries : List.Forall₂ (IsEntryOf transport) actions entries) :
    entries.map (fun e ↦ e.clauses.map Clause.head) = actions.map (headsOf transport) := by
  induction hentries with
  | nil => rfl
  | cons hentry _ ih => rw [List.map_cons, List.map_cons, hentry.heads_eq, ih]

variable {moduleName : String} {endpoints api docs options : Json} {s : Service}

/-- The exports of a service that was built for Erlang can be read. -/
theorem isNamed_of_build
    (hbuild : Service.build transport moduleName endpoints api docs options .erlang = .ok s)
    {m : Module} (hm : Module.ofService transport s = .ok m) :
    ∀ e ∈ m.entries, ∀ x ∈ e.exports, x.IsNamed := by
  obtain ⟨_, _, hparts⟩ := Service.exists_isBuilt hbuild
  intro e he x hx
  obtain ⟨a, ha, hentry⟩ := exists_mem_of_forall₂ (Module.forall₂_isEntryOf hm) he
  obtain ⟨operation, -, hcompile⟩ := Action.exists_compile_of_mem hparts.actions_eq ha
  have hname : x.name = a.functionName := name_of_mem_exportsOf (hentry.exports_eq ▸ hx)
  rw [Export.IsNamed, hname, (Action.names_of_compile hcompile).2]
  exact fun _ ↦ Identifier.isNameChar_of_mem_snakeCase

/-- The module of a service that was built for Erlang has no attributes but those of the layout, if
no text begins one that the module is written from. -/
theorem isPlain_of_build
    (hbuild : Service.build transport moduleName endpoints api docs options .erlang = .ok s)
    {m : Module} (hm : Module.ofService transport s = .ok m)
    (htexts : ∀ text ∈ writtenTexts transport s, ExportsNothing text) : m.IsPlain := by
  obtain ⟨_, _, hparts⟩ := Service.exists_isBuilt hbuild
  have hnames : ∀ a ∈ s.actions, '-' ∉ a.functionName.toList := by
    intro a ha hmem
    obtain ⟨operation, -, hcompile⟩ := Action.exists_compile_of_mem hparts.actions_eq ha
    rw [(Action.names_of_compile hcompile).2] at hmem
    exact absurd (Identifier.isNameChar_of_mem_snakeCase hmem) (by decide)
  obtain ⟨hname, hclauses, hrequest⟩ := Module.clauses_of_ofService hm hnames htexts
  obtain ⟨hdocstring, hdocstrings⟩ := Module.docstrings_of_ofService hm
  refine ⟨hname, fun isBreak hbreak ↦ ?_, fun e he ↦ ⟨fun isBreak hbreak ↦ ?_, hclauses e he⟩,
    hrequest⟩
  · obtain ⟨entry, -, hblock⟩ := hparts.exists_docstring
    rw [hdocstring]
    exact codeLines_blockOf hbreak hblock
  · obtain ⟨a, ha, hdoc⟩ := hdocstrings e he
    obtain ⟨operation, -, hcompile⟩ := Action.exists_compile_of_mem hparts.actions_eq ha
    obtain ⟨entry, hblock⟩ := Action.exists_blockOf_of_compile hcompile
    rw [hdoc]
    exact codeLines_blockOf hbreak hblock

end Erlang

/-! ### All layouts -/

variable {transport : Transport} {language : Language} {moduleName : String}
  {endpoints api docs options : Json} {s : Service}

end ServiceClient
