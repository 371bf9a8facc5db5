import ServiceClient.Proofs.Client.Arity
import ServiceClient.Proofs.Identifier.Reserved
import ServiceClient.Proofs.Identifier.Variable

/-!
# Variables that functions bind

The function for an action binds more variables than its parameters. The client, the input and the
options are arguments as well, and the body keeps what it computes in variables of its own. All of
them are reserved names, which no parameter has: `parameters_shadow_nothing`.

Which variables a body binds is read off its lines. A line that stands at the left edge and begins
with a pattern and an equals sign binds the variables of the pattern, and a comprehension after the
equals sign those of its generator. A line further to the right goes on with the one above it.
-/

namespace ServiceClient

open Identifier (isNameChar isVariableText reserved reservedInElixir reservedInErlang)

namespace Client

/-- The variables in some text: the words in it that are variables. -/
def variablesIn (language : Language) (cs : List Char) : List String :=
  ((cs.splitOnP (!isNameChar ·)).filter (isVariableText language)).map String.ofList

/-- Whether a character may stand in a pattern. -/
def isPatternChar (c : Char) : Bool :=
  isNameChar c || c = '\x7b' || c = '\x7d' || c = ',' || c = ' '

/-- The pattern of the generator, where an expression is a comprehension that lists a variable. -/
def generatorPattern : List Char → List Char
  | ' ' :: '[' :: rest =>
    match rest.dropWhile isNameChar with
    | ' ' :: '|' :: '|' :: generator => generator.takeWhile (· ≠ '<')
    | _ => []
  | _ => []

/-- The variables that a line of a body binds. -/
def boundIn (language : Language) (line : String) : List String :=
  let pattern := line.toList.takeWhile (· ≠ '=')
  if line.toList.head? = some ' ' ∨ pattern.all isPatternChar = false then []
  else
    match line.toList.dropWhile (· ≠ '=') with
    | [] => []
    | _ :: expression =>
      variablesIn language pattern ++ variablesIn language (generatorPattern expression)

example : boundIn .erlang "Headers = [H || \x7b_, V\x7d = H <- Headers0, V =/= undefined]," =
    ["Headers", "V", "H"] := by
  decide

/-- Lines bind nothing but reserved names. -/
def BindReserved (language : Language) (lines : List String) : Prop :=
  ∀ line ∈ lines, ∀ x ∈ boundIn language line, x ∈ reserved language

instance (language : Language) (lines : List String) : Decidable (BindReserved language lines) :=
  List.decidableBAll _ _

/-! ### Lines -/

section Lines

variable {language : Language}

/-- A line that begins with a pattern binds its variables. -/
theorem boundIn_eq {line : String} {pattern expression : List Char}
    (hline : line.toList = pattern ++ '=' :: expression)
    (hpattern : pattern.all isPatternChar = true) (hhead : pattern.head? ≠ some ' ') :
    boundIn language line =
      variablesIn language pattern ++ variablesIn language (generatorPattern expression) := by
  have hne : ∀ c ∈ pattern, decide (c ≠ '=') = true := by
    intro c hc
    have hchar := List.all_eq_true.1 hpattern c hc
    simpa using fun heq : c = '=' ↦ absurd (heq ▸ hchar) (by decide)
  have hstop : ∀ c ∈ ('=' :: expression).head?, decide (c ≠ '=') = false := by simp
  have hstart : line.toList.head? ≠ some ' ' := by
    rw [hline, List.head?_append]
    cases hfirst : pattern.head? with
    | none => simp
    | some c => simpa [hfirst] using hhead
  have htake : line.toList.takeWhile (· ≠ '=') = pattern := hline ▸ Text.takeWhile_run hne hstop
  have hdrop : line.toList.dropWhile (· ≠ '=') = '=' :: expression :=
    hline ▸ Text.dropWhile_run hne hstop
  simp only [boundIn, htake, hdrop, hstart, hpattern, false_or, Bool.true_eq_false, if_false]

/-- What follows the beginning of an expression does not matter, unless it can be a
comprehension. -/
theorem boundIn_append {start : String} {pattern expression : List Char} {c : Char}
    (hstart : start.toList = pattern ++ '=' :: ' ' :: c :: expression) (hc : c ≠ '[')
    (hpattern : pattern.all isPatternChar = true) (hhead : pattern.head? ≠ some ' ')
    (rest : String) : boundIn language (start ++ rest) = variablesIn language pattern := by
  have hline : (start ++ rest).toList =
      pattern ++ '=' :: (' ' :: c :: (expression ++ rest.toList)) := by
    rw [String.toList_append, hstart]
    simp
  have hgenerator : generatorPattern (' ' :: c :: (expression ++ rest.toList)) = [] := by
    rw [generatorPattern.eq_def]
    split
    · simp_all
    · rfl
  have hnone : variablesIn language [] = [] := by
    cases language <;> rfl
  rw [boundIn_eq hline hpattern hhead, hgenerator, hnone, List.append_nil]

/-- A line that begins with a call binds nothing. -/
theorem boundIn_call {call : String} (hequals : '=' ∉ call.toList)
    (hcall : call.toList.all isPatternChar = false) (rest : String) :
    boundIn language (call ++ rest) = [] := by
  have hne : ∀ c ∈ call.toList, decide (c ≠ '=') = true := by
    intro c hc
    simpa using fun heq : c = '=' ↦ hequals (heq ▸ hc)
  have htake : (call ++ rest).toList.takeWhile (· ≠ '=') =
      call.toList ++ rest.toList.takeWhile (· ≠ '=') := by
    rw [String.toList_append, List.takeWhile_append_of_pos hne]
  have hpattern : (call.toList ++ rest.toList.takeWhile (· ≠ '=')).all isPatternChar = false := by
    rw [List.all_append, hcall, Bool.false_and]
  simp only [boundIn, htake, hpattern, or_true, if_true]

/-- A line that begins with a space binds nothing. -/
theorem boundIn_of_head? {line : String} (h : line.toList.head? = some ' ') :
    boundIn language line = [] := by
  simp only [boundIn, h, true_or, if_true]

theorem bindReserved_append {lines later : List String} :
    BindReserved language (lines ++ later) ↔
      BindReserved language lines ∧ BindReserved language later :=
  List.forall_mem_append

theorem bindReserved_cons {line : String} {lines : List String} :
    BindReserved language (line :: lines) ↔
      (∀ x ∈ boundIn language line, x ∈ reserved language) ∧ BindReserved language lines :=
  List.forall_mem_cons

theorem bindReserved_singleton {line : String} {names : List String}
    (h : boundIn language line = names) (hnames : ∀ x ∈ names, x ∈ reserved language) :
    BindReserved language [line] := by
  rw [BindReserved, List.forall_mem_singleton, h]
  exact hnames

/-- Lines that are moved to the right bind nothing. -/
theorem bindReserved_indent {n : Nat} (hn : 0 < n) (lines : List String) :
    BindReserved language (Source.indent n lines) := by
  intro line hline x hx
  obtain ⟨old, -, rfl⟩ := List.mem_map.1 hline
  split at hx
  · next hempty =>
    have hnone : boundIn language "" = [] := rfl
    rw [hempty, hnone] at hx
    cases hx
  · have hhead : (Source.spaces n ++ old).toList.head? = some ' ' := by
      obtain ⟨m, rfl⟩ := Nat.exists_eq_add_of_lt hn
      rw [String.toList_append, Source.toList_spaces, List.replicate_succ]
      rfl
    rw [boundIn_of_head? hhead] at hx
    cases hx

end Lines

/-! ### Bodies in Elixir -/

section Elixir

variable (a : Action)

theorem boundIn_headerLine (p : Parameter) :
    boundIn .elixir (Elixir.headerLine p) = ["headers"] := by
  have hstart : "headers = if !is_nil(".toList =
      "headers ".toList ++ '=' :: ' ' :: 'i' :: "f !is_nil(".toList := by
    decide
  unfold Elixir.headerLine
  rw [String.append_assoc, String.append_assoc, String.append_assoc, String.append_assoc,
    String.append_assoc,
    boundIn_append hstart (by decide) (by decide) (by decide)]
  decide

theorem boundIn_pathLine (s : String) :
    boundIn .elixir ("url_path = " ++ Elixir.string s) = ["url_path"] := by
  have hstart : ("url_path = " ++ "\"").toList =
      "url_path ".toList ++ '=' :: ' ' :: '"' :: [] := by
    decide
  rw [Elixir.string, String.append_assoc, ← String.append_assoc,
    boundIn_append hstart (by decide) (by decide) (by decide)]
  decide

theorem bindReserved_requestLines_elixir : BindReserved .elixir (Elixir.requestLines a) := by
  rw [Elixir.requestLines]
  split
  · refine bindReserved_append.2 ⟨bindReserved_cons.2 ⟨by decide, ?_⟩, by decide⟩
    intro line hline
    obtain ⟨p, -, rfl⟩ := List.mem_map.1 hline
    rw [boundIn_headerLine]
    decide
  · refine bindReserved_append.2 ⟨?_, by decide⟩
    split
    · decide
    · exact bindReserved_append.2 ⟨bindReserved_append.2
        ⟨by decide, bindReserved_indent (by decide) _⟩, by decide⟩

theorem bindReserved_responseLines : BindReserved .elixir (Elixir.responseLines a) := by
  rw [Elixir.responseLines]
  split
  · exact List.forall_mem_nil _
  · exact bindReserved_append.2 ⟨bindReserved_append.2
      ⟨by decide, bindReserved_indent (by decide) _⟩, by decide⟩

theorem bindReserved_callLines_elixir (methodAtom : String) :
    BindReserved .elixir (Elixir.callLines methodAtom a) := by
  have hindented (rest : String) : boundIn .elixir ("  " ++ rest) = [] :=
    boundIn_of_head? (by rw [String.toList_append]; rfl)
  have hmethod : boundIn .elixir ("  " ++ methodAtom ++ ",") = [] := by
    rw [String.append_assoc, hindented]
  simp only [Elixir.callLines, bindReserved_append, bindReserved_cons, hindented, hmethod]
  decide

/-- The body of a function for a request of its own binds nothing but reserved names. -/
theorem bindReserved_restFunction {f : Elixir.Function} (h : Elixir.restFunction a = .ok f) :
    BindReserved .elixir f.body := by
  obtain ⟨methodAtom, -, h⟩ := bind_eq_ok_iff.1 h
  obtain rfl := Except.ok.inj h
  have hpath : BindReserved .elixir ["url_path = " ++ Elixir.string a.urlPath.display] :=
    bindReserved_singleton (boundIn_pathLine _) (by decide)
  have hempty : BindReserved .elixir [""] := by decide
  exact bindReserved_append.2 ⟨bindReserved_append.2 ⟨bindReserved_append.2 ⟨bindReserved_append.2
    ⟨hpath, bindReserved_requestLines_elixir a⟩, bindReserved_responseLines a⟩, hempty⟩,
    bindReserved_callLines_elixir a methodAtom⟩

/-- The body of a function for a remote procedure call binds nothing. -/
theorem bindReserved_rpcFunction : BindReserved .elixir (Elixir.rpcFunction a).body := by
  have hline : boundIn .elixir ("Request.request_post(client, metadata(), " ++
      Elixir.string a.name ++ ", input, options)") = [] := by
    rw [String.append_assoc, boundIn_call (by decide) (by decide)]
  exact bindReserved_singleton hline (List.forall_mem_nil _)

end Elixir

/-! ### Bodies in Erlang -/

section Erlang

variable (a : Action)

theorem boundIn_pathLine_erlang (s : String) :
    boundIn .erlang ("Path = [\"" ++ s ++ "\"],") = ["Path"] := by
  have hline : ("Path = [\"" ++ s ++ "\"],").toList =
      "Path ".toList ++ '=' :: (' ' :: '[' :: '"' :: (s ++ "\"],").toList) := by
    rw [String.append_assoc, String.toList_append]
    rfl
  have hgenerator (rest : List Char) : generatorPattern (' ' :: '[' :: '"' :: rest) = [] := rfl
  rw [boundIn_eq hline (by decide) (by decide), hgenerator]
  decide

theorem bindReserved_requestLines_erlang : BindReserved .erlang (Erlang.requestLines a) := by
  rw [Erlang.requestLines]
  split
  · exact bindReserved_append.2 ⟨bindReserved_append.2
      ⟨by decide, bindReserved_indent (by decide) _⟩, by decide⟩
  · exact bindReserved_append.2 ⟨bindReserved_append.2
      ⟨by decide, bindReserved_indent (by decide) _⟩, by decide⟩

theorem bindReserved_callLines_erlang (methodAtom : String) :
    BindReserved .erlang (Erlang.callLines methodAtom a) := by
  have hrequest : boundIn .erlang ("request(Client, " ++ methodAtom ++
      ", Path, Headers, Input, Options,") = [] := by
    rw [String.append_assoc, boundIn_call (by decide) (by decide)]
  have hindented (rest : String) : boundIn .erlang ("        " ++ rest) = [] :=
    boundIn_of_head? (by rw [String.toList_append]; rfl)
  have hstatus (status : String) : boundIn .erlang ("        " ++ status ++ ").") = [] := by
    rw [String.append_assoc, hindented]
  rw [Erlang.callLines, bindReserved_cons, bindReserved_cons, hrequest, hstatus]
  exact ⟨List.forall_mem_nil _, List.forall_mem_nil _, List.forall_mem_nil _⟩

/-- The bodies of the functions for a request of its own bind nothing but reserved names. -/
theorem bindReserved_restEntry {e : Erlang.Entry} (h : Erlang.restEntry a = .ok e) :
    ∀ c ∈ e.clauses, BindReserved .erlang c.body := by
  obtain ⟨methodAtom, -, h⟩ := bind_eq_ok_iff.1 h
  obtain rfl := Except.ok.inj h
  have hpath : BindReserved .erlang ["Path = [\"" ++ a.urlPath.display ++ "\"],"] :=
    bindReserved_singleton (boundIn_pathLine_erlang _) (by decide)
  exact List.forall_mem_singleton.2 (bindReserved_append.2 ⟨bindReserved_append.2
    ⟨hpath, bindReserved_requestLines_erlang a⟩, bindReserved_callLines_erlang a methodAtom⟩)

/-- The bodies of the functions for a remote procedure call bind nothing. -/
theorem bindReserved_rpcEntry
    (hname : ∀ c ∈ a.functionName.toList, Identifier.isNameChar c = true) :
    ∀ c ∈ (Erlang.rpcEntry a).clauses, BindReserved .erlang c.body := by
  have hequals : '=' ∉ (a.functionName ++ "(Client, Input, []).").toList := by
    rw [String.toList_append, List.mem_append]
    exact not_or.2 ⟨fun hmem ↦ absurd (hname '=' hmem) (by decide), by decide⟩
  have hpattern : (a.functionName ++ "(Client, Input, []).").toList.all isPatternChar = false := by
    rw [String.toList_append, List.all_append, Bool.and_eq_false_iff]
    exact .inr (by decide)
  have hshort : boundIn .erlang (a.functionName ++ "(Client, Input, []).") = [] := by
    rw [← String.append_empty (s := _ ++ _), boundIn_call hequals hpattern]
  have hlong : boundIn .erlang ("request(Client, " ++ Erlang.binary a.name ++
      ", Input, Options).") = [] := by
    rw [String.append_assoc, boundIn_call (by decide) (by decide)]
  exact List.forall_mem_cons.2 ⟨bindReserved_singleton hshort (List.forall_mem_nil _),
    List.forall_mem_singleton.2 (bindReserved_singleton hlong (List.forall_mem_nil _))⟩

end Erlang

/-! ### All layouts -/

/-- The language of a target. -/
def Target.language : Target → Language
  | .elixir => .elixir
  | .erlang => .erlang

/-- A variable that the functions of a module have besides the parameters of their actions: one in
the arguments that all functions take, or one that a body binds. -/
def Layout.Binds (layout : Layout) (s : Service) (x : String) : Prop :=
  (∃ formal ∈ layout.formals [] true, x ∈ variablesIn layout.target.language formal.toList) ∨
    match layout.target with
    | .elixir => ∃ m, Elixir.Module.ofService layout.transport s = .ok m ∧
        ∃ f ∈ m.functions, ∃ line ∈ f.body, x ∈ boundIn .elixir line
    | .erlang => ∃ m, Erlang.Module.ofService layout.transport s = .ok m ∧
        ∃ e ∈ m.entries, ∃ c ∈ e.clauses, ∃ line ∈ c.body, x ∈ boundIn .erlang line

/-- The arguments that all functions take are reserved names. -/
theorem Layout.mem_reserved_of_mem_formals (layout : Layout) :
    ∀ formal ∈ layout.formals [] true,
      ∀ x ∈ variablesIn layout.target.language formal.toList,
        x ∈ reserved layout.target.language := by
  obtain ⟨target, transport⟩ := layout
  rcases target with - | - <;> rcases transport with - | - <;> decide

theorem bindReserved_of_mem_functions {transport : Transport} {s : Service} {m : Elixir.Module}
    (hm : Elixir.Module.ofService transport s = .ok m) :
    ∀ f ∈ m.functions, BindReserved .elixir f.body := by
  rcases transport with - | -
  · obtain rfl := Except.ok.inj hm
    intro f hf
    obtain ⟨a, -, rfl⟩ := List.mem_map.1 hf
    exact bindReserved_rpcFunction a
  · obtain ⟨functions, hfunctions, hm⟩ := bind_eq_ok_iff.1 hm
    obtain rfl := Except.ok.inj hm
    intro f hf
    obtain ⟨a, -, hfunction⟩ := exists_mem_of_forall₂ (mapM_eq_ok_iff.1 hfunctions) hf
    exact bindReserved_restFunction a hfunction

theorem bindReserved_of_mem_clauses {transport : Transport} {s : Service} {m : Erlang.Module}
    (hnames : ∀ a ∈ s.actions, ∀ c ∈ a.functionName.toList, Identifier.isNameChar c = true)
    (hm : Erlang.Module.ofService transport s = .ok m) :
    ∀ e ∈ m.entries, ∀ c ∈ e.clauses, BindReserved .erlang c.body := by
  rcases transport with - | -
  · obtain rfl := Except.ok.inj hm
    intro e he
    obtain ⟨a, ha, rfl⟩ := List.mem_map.1 he
    exact bindReserved_rpcEntry a (hnames a ha)
  · obtain ⟨entries, hentries, hm⟩ := bind_eq_ok_iff.1 hm
    obtain rfl := Except.ok.inj hm
    intro e he
    obtain ⟨a, -, hentry⟩ := exists_mem_of_forall₂ (mapM_eq_ok_iff.1 hentries) he
    exact bindReserved_restEntry a hentry

/-- All that the functions of a module have besides the parameters are reserved names. -/
theorem Layout.mem_reserved_of_binds {layout : Layout} {s : Service} {x : String}
    (hnames : ∀ a ∈ s.actions, ∀ c ∈ a.functionName.toList, Identifier.isNameChar c = true)
    (h : layout.Binds s x) : x ∈ reserved layout.target.language := by
  rcases h with ⟨formal, hformal, hx⟩ | h
  · exact layout.mem_reserved_of_mem_formals formal hformal x hx
  · obtain ⟨target, transport⟩ := layout
    rcases target with - | -
    · obtain ⟨m, hm, f, hf, line, hline, hx⟩ := h
      exact bindReserved_of_mem_functions hm f hf line hline x hx
    · obtain ⟨m, hm, e, he, c, hc, line, hline, hx⟩ := h
      exact bindReserved_of_mem_clauses hnames hm e he c hc line hline x hx

end Client

open Client

end ServiceClient
