import ServiceClient.Client
import ServiceClient.Proofs.Outcome
import ServiceClient.Proofs.Text.Split

/-!
# The heads of generated functions

A function is known by its name and its formal arguments. In every layout the function for an action
takes the client first and the options last; between them stand an argument for each parameter that
is one, and the input unless it travels in those. `headOf` says so once for all layouts, and the
modules have exactly these heads, apart from the shorter clause that a remote procedure call has in
Erlang.

In the text of a head, the arguments are what stands between the commas, as long as no argument
holds a comma itself.
-/

namespace ServiceClient

namespace Client

/-- The head of a function. -/
structure Head where
  /-- The name of the function. -/
  name : String
  /-- The formal arguments. -/
  formals : List String
  deriving DecidableEq

namespace Head

/-- A head as it is written. -/
def text (head : Head) : String :=
  head.name ++ "(" ++ String.intercalate ", " head.formals ++ ")"

/-- The number of arguments that are written in a head, which are separated by commas. -/
def writtenArity (head : Head) : Nat := (head.text.toList.splitOn ',').length

end Head

namespace Target

/-- The first argument of every function. -/
def clientFormal : Target → String
  | .elixir => Elixir.clientFormal
  | .erlang => "Client"

/-- The argument that the input is. In Erlang a function that takes headers out of the input has
another name for what it is given. -/
def inputFormal : Target → Transport → String
  | .elixir, _ => "input"
  | .erlang, .rpc => "Input"
  | .erlang, .rest => "Input0"

/-- The last argument of every function. -/
def optionsFormal : Target → String
  | .elixir => Elixir.optionsFormal
  | .erlang => "Options"

end Target

namespace Layout

/-- The formal arguments of a function: the client, some names, the input if it is taken, and the
options. -/
def formals (layout : Layout) (names : List String) (takesInput : Bool) : List String :=
  layout.target.clientFormal :: names ++
    if takesInput then [layout.target.inputFormal layout.transport, layout.target.optionsFormal]
    else [layout.target.optionsFormal]

/-- The head of the function for an action. -/
def headOf (layout : Layout) (a : Action) : Head where
  name := a.functionName
  formals :=
    match layout.transport with
    | .rpc => layout.formals [] true
    | .rest => layout.formals (a.arguments.map Parameter.codeName) !a.isBodyless

end Layout

/-! ### Arguments in the text of a head -/

/-- Joined arguments hold a comma between each two of them. -/
theorem count_comma_intercalate {formals : List String} (hne : formals ≠ [])
    (h : ∀ formal ∈ formals, ',' ∉ formal.toList) :
    (String.intercalate ", " formals).toList.count ',' + 1 = formals.length := by
  rw [String.toList_intercalate]
  induction formals with
  | nil => exact absurd rfl hne
  | cons formal later ih =>
    have hformal : formal.toList.count ',' = 0 :=
      List.count_eq_zero.2 (h formal List.mem_cons_self)
    cases later with
    | nil => simp [hformal]
    | cons next later =>
      have hlater := ih (List.cons_ne_nil next later)
        fun other hother ↦ h other (List.mem_cons_of_mem formal hother)
      rw [List.map_cons, List.map_cons, List.intercalate_cons_cons, ← List.map_cons,
        List.count_append, List.count_append, hformal, List.length_cons, ← hlater]
      have hcomma : ", ".toList.count ',' = 1 := by decide
      omega

/-- As many arguments are written as there are, if neither the name nor an argument holds a
comma. -/
theorem Head.writtenArity_eq {head : Head} (hne : head.formals ≠ [])
    (hname : ',' ∉ head.name.toList) (hformals : ∀ formal ∈ head.formals, ',' ∉ formal.toList) :
    head.writtenArity = head.formals.length := by
  have hcount := count_comma_intercalate hne hformals
  have hopen : "(".toList.count ',' = 0 := by decide
  have hclose : ")".toList.count ',' = 0 := by decide
  rw [writtenArity, Text.length_splitOn, text, String.toList_append, String.toList_append,
    String.toList_append, List.count_append, List.count_append, List.count_append,
    List.count_eq_zero.2 hname, hopen, hclose]
  omega

end Client

open Client

/-! ### The heads in a module -/

/-- The head of a function. -/
def Elixir.Function.head (f : Elixir.Function) : Head := ⟨f.name, f.formals⟩

/-- The head of a clause. -/
def Erlang.Clause.head (c : Erlang.Clause) : Head := ⟨c.name, c.formals⟩

/-- The functions of a module in Elixir are those for the actions. -/
theorem Elixir.Module.map_head_of_ofService {transport : Transport} {s : Service} {m : Module}
    (h : ofService transport s = .ok m) :
    m.functions.map Function.head = s.actions.map (Layout.headOf ⟨.elixir, transport⟩) := by
  cases transport with
  | rpc =>
    obtain rfl := Except.ok.inj h
    exact List.map_map
  | rest =>
    obtain ⟨functions, hfunctions, h⟩ := bind_eq_ok_iff.1 h
    obtain rfl := Except.ok.inj h
    refine map_eq_map_of_mapM (fun a f hf ↦ ?_) hfunctions
    obtain ⟨_, -, hf⟩ := bind_eq_ok_iff.1 hf
    obtain rfl := Except.ok.inj hf
    rw [Function.head, Layout.headOf, restFormals, Layout.formals]
    cases a.isBodyless <;> rfl

/-- The head of a function stands in one of the lines of the module. -/
theorem Elixir.Module.head_mem_lines {m : Module} {f : Function} (hf : f ∈ m.functions) :
    "  def " ++ f.head.text ++ " do" ∈ m.lines := by
  have hline : "  def " ++ f.head.text ++ " do" =
      "  def " ++ f.name ++ "(" ++ String.intercalate ", " f.formals ++ ") do" := by
    simp [← String.toList_inj, Head.text, Function.head]
  have hfunction : "  def " ++ f.head.text ++ " do" ∈ m.functions.flatMap functionLines := by
    refine List.mem_flatMap.2 ⟨f, hf, ?_⟩
    simp only [hline, functionLines, List.mem_append, List.mem_singleton]
    tauto
  simp only [lines, List.mem_append]
  tauto

namespace Erlang

/-- The heads of the functions for an action: a remote procedure call can be made without
options. -/
def headsOf (transport : Transport) (a : Action) : List Head :=
  match transport with
  | .rpc => [⟨a.functionName, ["Client", "Input"]⟩, Layout.headOf ⟨.erlang, .rpc⟩ a]
  | .rest => [Layout.headOf ⟨.erlang, .rest⟩ a]

/-- What is exported for an action. -/
def exportsOf (transport : Transport) (a : Action) : List Export :=
  match transport with
  | .rpc => [⟨a.functionName, 2⟩, ⟨a.functionName, a.arity⟩]
  | .rest => [⟨a.functionName, a.arity⟩]

/-- All exports for an action have its function name. -/
theorem name_of_mem_exportsOf {transport : Transport} {a : Action} {x : Export}
    (h : x ∈ exportsOf transport a) : x.name = a.functionName := by
  cases transport with
  | rpc =>
    rw [exportsOf, List.mem_cons, List.mem_singleton] at h
    obtain rfl | rfl := h <;> rfl
  | rest => rw [List.mem_singleton.1 h]

/-- An entry holds the functions for an action. -/
structure IsEntryOf (transport : Transport) (a : Action) (e : Entry) : Prop where
  /-- The block is that of the action. -/
  docstring_eq : e.docstring = a.docstring
  /-- The exports are those for the action. -/
  exports_eq : e.exports = exportsOf transport a
  /-- The heads are those for the action. -/
  heads_eq : e.clauses.map Clause.head = headsOf transport a

theorem isEntryOf_rpcEntry (a : Action) : IsEntryOf .rpc a (rpcEntry a) := ⟨rfl, rfl, rfl⟩

theorem isEntryOf_of_restEntry {a : Action} {e : Entry} (h : restEntry a = .ok e) :
    IsEntryOf .rest a e := by
  obtain ⟨_, -, h⟩ := bind_eq_ok_iff.1 h
  obtain rfl := Except.ok.inj h
  refine ⟨rfl, rfl, ?_⟩
  rw [List.map_singleton, headsOf, Clause.head, Layout.headOf, restFormals, Layout.formals]
  cases a.isBodyless <;> rfl

/-- The entries of a module hold the functions for the actions, in order. -/
theorem Module.forall₂_isEntryOf {transport : Transport} {s : Service} {m : Module}
    (h : ofService transport s = .ok m) :
    List.Forall₂ (IsEntryOf transport) s.actions m.entries := by
  cases transport with
  | rpc =>
    obtain rfl := Except.ok.inj h
    exact List.forall₂_map_right_iff.2 (List.forall₂_same.2 fun a _ ↦ isEntryOf_rpcEntry a)
  | rest =>
    obtain ⟨entries, hentries, h⟩ := bind_eq_ok_iff.1 h
    obtain rfl := Except.ok.inj h
    exact (mapM_eq_ok_iff.1 hentries).imp fun _ _ hentry ↦ isEntryOf_of_restEntry hentry

/-- The function that makes the requests is that of the transport. -/
theorem Module.request_of_ofService {transport : Transport} {s : Service} {m : Module}
    (h : ofService transport s = .ok m) : m.request = requestClause transport s := by
  cases transport with
  | rpc =>
    obtain rfl := Except.ok.inj h
    rfl
  | rest =>
    obtain ⟨entries, -, h⟩ := bind_eq_ok_iff.1 h
    obtain rfl := Except.ok.inj h
    rfl

/-- The head of a clause begins one of the lines of the module. -/
theorem Module.exists_head_mem_lines {m : Module} {e : Entry} (he : e ∈ m.entries) {c : Clause}
    (hc : c ∈ e.clauses) : ∃ ending, c.head.text ++ ending ∈ m.lines := by
  have hclause : ∃ ending, c.head.text ++ ending ∈ clauseLines c := by
    rw [clauseLines]
    split
    · exact ⟨" ->", List.mem_append_left _ List.mem_cons_self⟩
    · refine ⟨"", List.mem_append_left _ ?_⟩
      rw [String.append_empty]
      exact List.mem_cons_self
  obtain ⟨ending, hline⟩ := hclause
  have hentry : c.head.text ++ ending ∈ m.entries.flatMap entryLines :=
    List.mem_flatMap.2 ⟨e, he, List.mem_append_right _ (List.mem_flatMap.2 ⟨c, hc, hline⟩)⟩
  refine ⟨ending, ?_⟩
  simp only [lines, List.mem_append]
  tauto

end Erlang

end ServiceClient
