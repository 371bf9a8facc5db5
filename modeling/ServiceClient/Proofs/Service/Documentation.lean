import ServiceClient.Client
import ServiceClient.Proofs.Action.Selection
import ServiceClient.Proofs.Erlang.CodeLines
import ServiceClient.Proofs.Service.Parts

/-!
# Documentation changes no code

Two runs that differ in their documentation are compared with a third that has none. Compiling with
readable documentation and then forgetting the blocks is compiling without documentation, at every
step from one operation to the whole service, and whether or not the step fails. An Erlang module
has the same lines of code as the module without documentation, since a block has none.
-/

namespace ServiceClient

/-- An action without its documentation. -/
def Action.withoutDoc (a : Action) : Action := { a with docstring := "" }

/-- A service without its documentation. -/
def Service.withoutDocs (s : Service) : Service :=
  { s with docstring := "", actions := s.actions.map Action.withoutDoc }

/-! ### Compiling -/

namespace Action

variable {docs : Json} {transport : Transport} {language : Language} {api : Json}

theorem compileRpc_withoutDoc (h : Doc.IsReadableSpec docs) (name : String) :
    (compileRpc language docs name).map withoutDoc = compileRpc language .empty name := by
  obtain ⟨entry, text, hentry, htext⟩ := h.exists_operationBlock language name
  rw [compileRpc, hentry, ok_bind, htext]
  rfl

theorem compileRest_withoutDoc (h : Doc.IsReadableSpec docs) (name : String) (operation : Json) :
    (compileRest language api docs name operation).map withoutDoc =
      compileRest language api .empty name operation := by
  obtain ⟨entry, text, hentry, htext⟩ := h.exists_operationBlock language name
  have hnone : Doc.operationEntry .empty name = .ok .null := rfl
  have hempty : Doc.blockOf language .null = .ok "" := rfl
  simp only [compileRest, hentry, htext, hnone, hempty, ok_bind, map_bind, pure_eq_ok,
    except_map_ok, withoutDoc]

/-- An operation is compiled as it would be without documentation, apart from the block. -/
theorem compile_withoutDoc (h : Doc.IsReadableSpec docs) (name : String) (operation : Json) :
    (compile transport language api docs name operation).map withoutDoc =
      compile transport language api .empty name operation := by
  cases transport with
  | rpc => exact compileRpc_withoutDoc h name
  | rest => exact compileRest_withoutDoc h name operation

/-- The operations are compiled as they would be without documentation, apart from the blocks. -/
theorem compileAll_withoutDoc (h : Doc.IsReadableSpec docs) :
    (compileAll transport language api docs).map (List.map withoutDoc) =
      compileAll transport language api .empty := by
  simp only [compileAll_eq, map_bind]
  congr 1
  funext operations
  congr 1
  funext fields
  have hstep (operation : String × Json) :
      compile transport language api .empty operation.1 operation.2 =
        (compile transport language api docs operation.1 operation.2).map withoutDoc :=
    (compile_withoutDoc h operation.1 operation.2).symm
  rw [mapM_eq_map hstep fields]
  cases fields.mapM fun operation ↦
      compile transport language api docs operation.1 operation.2 with
  | error fault => rfl
  | ok actions => exact (arrange_map withoutDoc (fun _ ↦ rfl) (fun _ ↦ rfl) api actions).symm

end Action

/-- A service is built as it would be without documentation, apart from the blocks. -/
theorem Service.build_withoutDocs {docs : Json} (h : Doc.IsReadableSpec docs)
    (transport : Transport) (moduleName : String) (endpoints api options : Json)
    (language : Language) :
    (build transport moduleName endpoints api docs options language).map withoutDocs =
      build transport moduleName endpoints api .empty options language := by
  obtain ⟨entry, text, hentry, htext⟩ := h.exists_serviceBlock language
  have hnone : Json.empty.field "service" = .ok .null := rfl
  have hempty : Doc.blockOf language .null = .ok "" := rfl
  simp only [build, map_bind, ← Action.compileAll_withoutDoc h, hentry, htext, hnone, hempty,
    ok_bind]
  congr 1
  funext metadata
  congr 1
  funext identity
  cases Action.compileAll transport language api docs with
  | error fault => rfl
  | ok actions => rfl

/-! ### The blocks of a service -/

/-- The block of an action is that of some entry. -/
theorem Action.exists_blockOf_of_compile {transport : Transport} {language : Language}
    {api docs operation : Json} {name : String} {a : Action}
    (h : compile transport language api docs name operation = .ok a) :
    ∃ entry, Doc.blockOf language entry = .ok a.docstring := by
  cases transport with
  | rpc =>
    simp only [compile, compileRpc, bind_eq_ok_iff] at h
    obtain ⟨entry, -, text, htext, h⟩ := h
    obtain rfl := Except.ok.inj h
    exact ⟨entry, htext⟩
  | rest =>
    obtain ⟨_, hparts⟩ := exists_isRestAction h
    obtain ⟨entry, -, hblock⟩ := hparts.exists_docstring
    exact ⟨entry, hblock⟩

/-- The blocks of a service hold no code. -/
structure Service.DocsCodeless (isBreak : Char → Bool) (s : Service) : Prop where
  /-- The block of the module holds none. -/
  service : Erlang.codeLines isBreak s.docstring.toList = []
  /-- The blocks of the functions hold none. -/
  actions : ∀ a ∈ s.actions, Erlang.codeLines isBreak a.docstring.toList = []

/-- The blocks of a service that was built for Erlang hold no code. -/
theorem Service.docsCodeless_of_build {isBreak : Char → Bool} (hbreak : Erlang.EndsLines isBreak)
    {transport : Transport} {moduleName : String} {endpoints api docs options : Json} {s : Service}
    (h : build transport moduleName endpoints api docs options .erlang = .ok s) :
    s.DocsCodeless isBreak := by
  obtain ⟨_, _, hparts⟩ := exists_isBuilt h
  obtain ⟨entry, -, hblock⟩ := hparts.exists_docstring
  refine ⟨Erlang.codeLines_blockOf hbreak hblock, fun a ha ↦ ?_⟩
  obtain ⟨operation, -, hcompile⟩ := Action.exists_compile_of_mem hparts.actions_eq ha
  obtain ⟨entry, hentry⟩ := Action.exists_blockOf_of_compile hcompile
  exact Erlang.codeLines_blockOf hbreak hentry

/-! ### Erlang modules -/

namespace Erlang

/-- The functions for an action without their documentation. -/
def Entry.withoutDoc (e : Entry) : Entry := { e with docstring := "" }

/-- A module without its documentation. -/
def Module.withoutDocs (m : Module) : Module :=
  { m with docstring := "", entries := m.entries.map Entry.withoutDoc }

theorem restEntry_withoutDoc (a : Action) :
    restEntry a.withoutDoc = (restEntry a).map Entry.withoutDoc := by
  have hatom : a.withoutDoc.definedMethodAtom = a.definedMethodAtom := rfl
  rw [restEntry, restEntry, hatom, map_bind]
  rfl

/-- The module of a service without documentation is the module without documentation. -/
theorem Module.ofService_withoutDocs (transport : Transport) (s : Service) :
    ofService transport s.withoutDocs = (ofService transport s).map withoutDocs := by
  cases transport with
  | rpc =>
    have hentries : s.withoutDocs.actions.map rpcEntry =
        (s.actions.map rpcEntry).map Entry.withoutDoc := by
      rw [Service.withoutDocs, List.map_map, List.map_map]
      rfl
    simp only [ofService, pure_eq_ok, ok_bind, hentries, except_map_ok]
    rfl
  | rest =>
    have hentries : s.withoutDocs.actions.mapM restEntry =
        (s.actions.mapM restEntry).map (List.map Entry.withoutDoc) := by
      rw [Service.withoutDocs, List.mapM_map]
      exact mapM_eq_map restEntry_withoutDoc s.actions
    simp only [ofService, hentries, map_bind]
    cases s.actions.mapM restEntry <;> rfl

/-- The blocks of a module are those of its service. -/
theorem Module.docstrings_of_ofService {transport : Transport} {s : Service} {m : Module}
    (h : ofService transport s = .ok m) :
    m.docstring = s.docstring ∧ ∀ e ∈ m.entries, ∃ a ∈ s.actions, e.docstring = a.docstring := by
  cases transport with
  | rpc =>
    obtain rfl := Except.ok.inj h
    refine ⟨rfl, fun e he ↦ ?_⟩
    obtain ⟨a, ha, rfl⟩ := List.mem_map.1 he
    exact ⟨a, ha, rfl⟩
  | rest =>
    obtain ⟨entries, hentries, h⟩ := bind_eq_ok_iff.1 h
    obtain rfl := Except.ok.inj h
    refine ⟨rfl, fun e he ↦ ?_⟩
    obtain ⟨a, ha, hentry⟩ := exists_mem_of_forall₂ (mapM_eq_ok_iff.1 hentries) he
    obtain ⟨atom, -, hentry⟩ := bind_eq_ok_iff.1 hentry
    obtain rfl := Except.ok.inj hentry
    exact ⟨a, ha, rfl⟩

/-- A module whose blocks hold no code has the lines of code that it has without documentation. -/
theorem Module.codeLines_withoutDocs {isBreak : Char → Bool} (h : EndsLines isBreak) {m : Module}
    (hdoc : codeLines isBreak m.docstring.toList = [])
    (hentries : ∀ e ∈ m.entries, codeLines isBreak e.docstring.toList = []) :
    codeLines isBreak m.withoutDocs.text.toList = codeLines isBreak m.text.toList := by
  have hentry : ∀ e ∈ m.entries,
      (entryLines e.withoutDoc).flatMap (fun line ↦ codeLines isBreak line.toList) =
        (entryLines e).flatMap fun line ↦ codeLines isBreak line.toList := by
    intro e he
    simp only [entryLines, List.flatMap_append, List.flatMap_cons, hentries e he]
    rfl
  have hexports : m.withoutDocs.entries.flatMap (fun e ↦ exportLines e.exports) =
      m.entries.flatMap fun e ↦ exportLines e.exports := by
    rw [withoutDocs, List.flatMap_map]
    rfl
  have hall : m.withoutDocs.entries.flatMap (fun e ↦
      (entryLines e).flatMap fun line ↦ codeLines isBreak line.toList) =
        m.entries.flatMap fun e ↦
          (entryLines e).flatMap fun line ↦ codeLines isBreak line.toList := by
    rw [withoutDocs, List.flatMap_map]
    exact List.flatMap_congr hentry
  rw [text, text, codeLines_text h, codeLines_text h, lines, lines, hexports]
  simp only [List.flatMap_append, List.flatMap_cons, List.flatMap_assoc (f := entryLines), hall,
    hdoc]
  rfl

/-- A service whose blocks hold no code is rendered with the lines of code that it has without
documentation. -/
theorem codeLines_render {isBreak : Char → Bool} (h : EndsLines isBreak) (transport : Transport)
    {s : Service} (hs : s.DocsCodeless isBreak) :
    (Client.render ⟨.erlang, transport⟩ s.withoutDocs).map (codeLines isBreak ·.toList) =
      (Client.render ⟨.erlang, transport⟩ s).map (codeLines isBreak ·.toList) := by
  simp only [Client.render, Module.ofService_withoutDocs]
  cases hm : Module.ofService transport s with
  | error fault => rfl
  | ok m =>
    obtain ⟨hdoc, hentries⟩ := Module.docstrings_of_ofService hm
    refine congrArg Except.ok (Module.codeLines_withoutDocs h (hdoc ▸ hs.service) fun e he ↦ ?_)
    obtain ⟨a, ha, hea⟩ := hentries e he
    exact hea ▸ hs.actions a ha

end Erlang

/-! ### Two runs -/

/-- Whatever ends a line, documentation changes no code. Two runs of a build that differ in nothing
but readable documentation fail alike, or give services that differ in nothing but the blocks; and
the Erlang modules of the two services have the same lines of code. -/
theorem documentation_changes_no_code {docs₁ docs₂ : Json} (h₁ : Doc.IsReadableSpec docs₁)
    (h₂ : Doc.IsReadableSpec docs₂) {isBreak : Char → Bool} (hbreak : Erlang.EndsLines isBreak)
    (transport : Transport) (moduleName : String) (endpoints api options : Json) :
    (∀ language,
      (Service.build transport moduleName endpoints api docs₁ options language).map
          Service.withoutDocs =
        (Service.build transport moduleName endpoints api docs₂ options language).map
          Service.withoutDocs) ∧
    (Service.build transport moduleName endpoints api docs₁ options .erlang >>=
        Client.render ⟨.erlang, transport⟩).map (Erlang.codeLines isBreak ·.toList) =
      (Service.build transport moduleName endpoints api docs₂ options .erlang >>=
        Client.render ⟨.erlang, transport⟩).map (Erlang.codeLines isBreak ·.toList) := by
  -- each run has the lines of code of the run without documentation
  have hcode {docs : Json} (h : Doc.IsReadableSpec docs) :
      (Service.build transport moduleName endpoints api docs options .erlang >>=
          Client.render ⟨.erlang, transport⟩).map (Erlang.codeLines isBreak ·.toList) =
        (Service.build transport moduleName endpoints api .empty options .erlang >>=
          Client.render ⟨.erlang, transport⟩).map (Erlang.codeLines isBreak ·.toList) := by
    rw [← Service.build_withoutDocs h]
    cases hs : Service.build transport moduleName endpoints api docs options .erlang with
    | error fault => rfl
    | ok s =>
      have hcodeless := Service.docsCodeless_of_build hbreak hs
      exact (Erlang.codeLines_render hbreak transport hcodeless).symm
  refine ⟨fun language ↦ ?_, (hcode h₁).trans (hcode h₂).symm⟩
  rw [Service.build_withoutDocs h₁, Service.build_withoutDocs h₂]

/-- A reference stands for a line break, before what would be an attribute of the module. -/
theorem documentation_changes_no_code_break : ∃ endpoints api docs₁ docs₂ s₁ s₂,
    Doc.blockOf .erlang (docs₁.valueAt "service") = .ok "%% a -b()." ∧
    Doc.blockOf .erlang (docs₂.valueAt "service") = .ok "" ∧
    Service.build .rpc "demo" endpoints api docs₁ (.obj []) .erlang = .ok s₁ ∧
    Service.build .rpc "demo" endpoints api docs₂ (.obj []) .erlang = .ok s₂ ∧
    s₁.withoutDocs = s₂.withoutDocs ∧
    (Client.render ⟨.erlang, .rpc⟩ s₁).map (Erlang.codeLines Erlang.isLineEnd ·.toList) =
      (Client.render ⟨.erlang, .rpc⟩ s₂).map (Erlang.codeLines Erlang.isLineEnd ·.toList) := by
  have hblock : Doc.blockOf .erlang (.str "a&#10;-b().") = .ok "%% a -b()." := by
    have hplain : Markup.plainChars "a&#10;-b().".toList = .ok "a -b().".toList := rfl
    have hfill : Doc.lines "a -b().".toList = ["a -b().".toList] := by decide +kernel
    rw [Doc.blockOf, if_neg (by decide), Doc.block, hplain, ok_bind, hfill]
    rfl
  have hdocs₁ : Doc.IsReadableSpec (.obj [("service", .str "a&#10;-b().")]) :=
    ⟨trivial, by decide, trivial, by decide⟩
  have hdocs₂ : Doc.IsReadableSpec .empty := ⟨trivial, trivial, trivial, by decide⟩
  have hactions : Action.compileAll .rpc .erlang
      (.obj [("metadata", .obj [("endpointPrefix", .str "demo")]),
        ("operations", .obj [("Get", .obj [])])]) .empty =
      .ok [{ arity := 3, docstring := "", functionName := "get", name := "Get",
             language := .erlang }] := by
    refine Action.arrange_eq_ok_iff.2 ⟨?_, (List.mergeSort_singleton _).symm⟩
    rw [Action.sortByFunctionName, List.mergeSort_singleton]
    rfl
  obtain ⟨s₂, hs₂⟩ : ∃ s, Service.build .rpc "demo" (.obj [("services", .obj [("demo", .obj [])])])
      (.obj [("metadata", .obj [("endpointPrefix", .str "demo")]),
        ("operations", .obj [("Get", .obj [])])]) .empty (.obj []) .erlang = .ok s := by
    rw [Service.build, hactions]
    exact ⟨_, rfl⟩
  obtain ⟨hsame, hcode⟩ := documentation_changes_no_code hdocs₁ hdocs₂ Erlang.endsLines_isLineEnd
    .rpc "demo" (.obj [("services", .obj [("demo", .obj [])])])
    (.obj [("metadata", .obj [("endpointPrefix", .str "demo")]),
      ("operations", .obj [("Get", .obj [])])]) (.obj [])
  have herlang := hsame .erlang
  rw [hs₂] at herlang hcode
  cases hs₁ : Service.build .rpc "demo" (.obj [("services", .obj [("demo", .obj [])])])
      (.obj [("metadata", .obj [("endpointPrefix", .str "demo")]),
        ("operations", .obj [("Get", .obj [])])]) (.obj [("service", .str "a&#10;-b().")])
      (.obj []) .erlang with
  | error fault =>
    rw [hs₁] at herlang
    cases herlang
  | ok s₁ =>
    rw [hs₁] at herlang hcode
    exact ⟨_, _, .obj [("service", .str "a&#10;-b().")], .empty, s₁, s₂, hblock, rfl, hs₁, hs₂,
      Except.ok.inj herlang, hcode⟩

end ServiceClient
