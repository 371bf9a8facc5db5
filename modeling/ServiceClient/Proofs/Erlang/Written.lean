import ServiceClient.Proofs.Client.Heads
import ServiceClient.Proofs.Erlang.Exports

/-!
# What an Erlang module is written from

Outside its documentation, a module holds what its layout fixes and texts that it takes as they are:
its own name, what the service is called, and what an action says about its request.
`writtenTexts` lists them. Nothing quotes them, so that a text which holds the beginning of an
attribute can export whatever it likes.

A module exports what its entries export in any case, and nothing else if no text that it is written
from begins an attribute (`Module.exportsIn_text`). Documentation cannot: it stays behind its
comment signs.
-/

namespace ServiceClient.Erlang

/-! ### Lines without an attribute -/

/-- No attribute that exports functions begins in a text. -/
def ExportsNothing (s : String) : Prop := ¬exportSign <:+: s.toList

instance : DecidablePred ExportsNothing := fun _ ↦ inferInstanceAs (Decidable (¬_))

/-- What begins an attribute begins with a hyphen. -/
theorem exportsNothing_of_hyphen_notMem {s : String} (h : '-' ∉ s.toList) : ExportsNothing s :=
  fun hsign ↦ h (hsign.subset List.mem_cons_self)

/-- A text without hyphens begins no attribute with what follows it. -/
theorem ExportsNothing.after {s later : String} (hlater : ExportsNothing later)
    (h : '-' ∉ s.toList) : ExportsNothing (s ++ later) := by
  rw [ExportsNothing, String.toList_append, List.infix_append_iff]
  rintro (hsign | hsign | ⟨front, back, hfront, hsuffix, hprefix⟩)
  · exact exportsNothing_of_hyphen_notMem h hsign
  · exact hlater hsign
  · cases front with
    | nil => exact hlater (hfront ▸ hprefix.isInfix)
    | cons c front =>
      obtain ⟨rfl, -⟩ := List.cons.inj hfront
      exact h (hsuffix.subset List.mem_cons_self)

/-- A text goes on with no attribute if what follows begins with another character than those in
the sign. -/
theorem ExportsNothing.before {s later : String} (hs : ExportsNothing s)
    (hlater : ExportsNothing later) (h : later.toList.head?.all (· ∉ exportSign) = true) :
    ExportsNothing (s ++ later) := by
  rw [ExportsNothing, String.toList_append, List.infix_append_iff]
  rintro (hsign | hsign | ⟨front, back, hfront, hsuffix, hprefix⟩)
  · exact hs hsign
  · exact hlater hsign
  · cases back with
    | nil =>
      rw [List.append_nil] at hfront
      exact hs (hfront ▸ hsuffix.isInfix)
    | cons c back =>
      obtain ⟨rest, hrest⟩ := hprefix
      rw [← hrest] at h
      have hmem : c ∈ exportSign := by simp [hfront]
      simp [hmem] at h

theorem exportsNothing_intercalate {texts : List String} (h : ∀ s ∈ texts, ExportsNothing s) :
    ExportsNothing (String.intercalate ", " texts) := by
  induction texts with
  | nil => decide
  | cons s later ih =>
    obtain ⟨hs, hlater⟩ := List.forall_mem_cons.1 h
    cases later with
    | nil => simpa using hs
    | cons next later =>
      have hcomma : ", " ++ String.intercalate ", " (next :: later) =
          "," ++ (" " ++ String.intercalate ", " (next :: later)) := by
        simp [← String.toList_inj]
      rw [String.intercalate_cons_cons, String.append_assoc, hcomma]
      exact hs.before (((ih hlater).after (by decide)).after (by decide)) (by simp; decide)

theorem exportsNothing_indent (n : Nat) {lines : List String}
    (h : ∀ line ∈ lines, ExportsNothing line) :
    ∀ line ∈ Source.indent n lines, ExportsNothing line := by
  intro line hline
  obtain ⟨content, hcontent, rfl⟩ := List.mem_map.1 hline
  split
  · exact h content hcontent
  · refine (h content hcontent).after fun hhyphen ↦ ?_
    rw [Source.toList_spaces] at hhyphen
    exact absurd (List.eq_of_mem_replicate hhyphen) (by decide)

theorem exportsNothing_commaSeparated {lines : List String}
    (h : ∀ line ∈ lines, ExportsNothing line) :
    ∀ line ∈ Source.commaSeparated lines, ExportsNothing line := by
  induction lines using Source.commaSeparated.induct with
  | case1 => exact h
  | case2 last => exact h
  | case3 line rest hrest ih =>
    obtain ⟨hline, hlater⟩ := List.forall_mem_cons.1 h
    rw [Source.commaSeparated.eq_3 line rest hrest]
    exact List.forall_mem_cons.2 ⟨hline.before (by decide) (by decide), ih hlater⟩

theorem exportsNothing_binary {s : String} (h : ExportsNothing s) : ExportsNothing (binary s) :=
  ((h.after (by decide)).before (by decide) (by decide))

/-! ### Clauses -/

/-- Nothing in a clause begins an attribute. -/
structure Clause.IsPlain (c : Clause) : Prop where
  /-- The name holds no hyphen. -/
  name : '-' ∉ c.name.toList
  /-- The formal arguments begin no attribute. -/
  formals : ∀ formal ∈ c.formals, ExportsNothing formal
  /-- The tests of the guard begin none. -/
  guards : ∀ guard ∈ c.guards, ExportsNothing guard
  /-- The lines of the body begin none. -/
  body : ∀ line ∈ c.body, ExportsNothing line

/-- The head of a clause begins no attribute with what follows it. -/
theorem Clause.IsPlain.exportsNothing_head {c : Clause} (h : c.IsPlain) {later : String}
    (hlater : ExportsNothing later) :
    ExportsNothing (c.name ++ "(" ++ String.intercalate ", " c.formals ++ ")" ++ later) := by
  simp only [String.append_assoc]
  have hclose : ExportsNothing (")" ++ later) := hlater.after (by decide)
  have hformals := (exportsNothing_intercalate h.formals).before hclose (by simp; decide)
  exact (hformals.after (by decide)).after h.name

theorem Clause.IsPlain.exportsNothing {c : Clause} (h : c.IsPlain) :
    ∀ line ∈ Module.clauseLines c, ExportsNothing line := by
  intro line hline
  rw [Module.clauseLines, List.mem_append] at hline
  obtain hline | hline := hline
  · split at hline
    · rw [List.mem_singleton.1 hline]
      exact h.exportsNothing_head (by decide)
    · rw [List.mem_cons, List.mem_singleton] at hline
      obtain rfl | rfl := hline
      · have hempty : ExportsNothing "" := by decide
        simpa using h.exportsNothing_head hempty
      · have harrow : ExportsNothing " ->" := by decide
        have hguards := (exportsNothing_intercalate h.guards).before harrow (by decide)
        rw [String.append_assoc]
        exact hguards.after (by decide)
  · exact exportsNothing_indent 4 h.body line hline

/-! ### The functions for an action -/

/-- The texts that the functions for an action are written from, besides the name of the function:
the name of the operation, or what is known of the request. -/
def actionTexts : Transport → Action → List String
  | .rpc, a => [a.name]
  | .rest, a =>
    a.definedMethodAtom.toOption.toList ++ [a.urlPath.display, a.successStatusCode.display] ++
      a.arguments.map Parameter.codeName ++
      a.requestHeaders.flatMap fun p ↦
        [p.locationName.display, if a.isBodyless then p.codeName else p.name]

/-- Documentation is a block of comments, and the clauses begin no attribute. -/
structure Entry.IsPlain (e : Entry) : Prop where
  /-- The block holds no code. -/
  docstring : ∀ isBreak, EndsLines isBreak → codeLines isBreak e.docstring.toList = []
  /-- Nothing in the clauses begins an attribute. -/
  clauses : ∀ c ∈ e.clauses, c.IsPlain

theorem clauses_rpcEntry {a : Action} (hname : '-' ∉ a.functionName.toList)
    (htexts : ∀ s ∈ actionTexts .rpc a, ExportsNothing s) :
    ∀ c ∈ (rpcEntry a).clauses, c.IsPlain := by
  have hformals : ∀ formal ∈ ["Client", "Input", "Options"], ExportsNothing formal := by decide
  have hguards : ∀ guard ∈ ["is_map(Client)", "is_map(Input)", "is_list(Options)"],
      ExportsNothing guard := by decide
  have hshort : ExportsNothing (a.functionName ++ "(Client, Input, [])." ) :=
    ExportsNothing.after (by decide) hname
  have hrequest : ExportsNothing ("request(Client, " ++ binary a.name ++ ", Input, Options).") := by
    have hclose : ExportsNothing ", Input, Options)." := by decide
    have hbinary := exportsNothing_binary (htexts a.name List.mem_cons_self)
    rw [String.append_assoc]
    exact (hbinary.before hclose (by decide)).after (by decide)
  intro c hc
  rw [rpcEntry, List.mem_cons, List.mem_singleton] at hc
  obtain rfl | rfl := hc
  · exact ⟨hname, fun s hs ↦ hformals s (List.mem_append_left ["Options"] hs),
      fun s hs ↦ hguards s (List.mem_append_left ["is_list(Options)"] hs),
      List.forall_mem_singleton.2 hshort⟩
  · exact ⟨hname, hformals, hguards, List.forall_mem_singleton.2 hrequest⟩

/-- A pair of binary literals or variables, as headers are written. -/
theorem exportsNothing_pair {s value : String} (hs : ExportsNothing s)
    (hvalue : ExportsNothing value) :
    ExportsNothing ("\x7b" ++ binary s ++ ", " ++ value ++ "\x7d") := by
  have hclose : ExportsNothing "\x7d" := by decide
  have hrest : ExportsNothing (", " ++ (value ++ "\x7d")) :=
    (hvalue.before hclose (by decide)).after (by decide)
  simp only [String.append_assoc]
  exact ((exportsNothing_binary hs).before hrest (by simp; decide)).after (by decide)

theorem exportsNothing_requestLines {a : Action}
    (htexts : ∀ s ∈ actionTexts .rest a, ExportsNothing s) :
    ∀ line ∈ requestLines a, ExportsNothing line := by
  have hheader : ∀ p ∈ a.requestHeaders, ExportsNothing p.locationName.display ∧
      ExportsNothing (if a.isBodyless then p.codeName else p.name) := by
    intro p hp
    have hmem : ∀ s ∈ [p.locationName.display, if a.isBodyless then p.codeName else p.name],
        s ∈ actionTexts .rest a :=
      fun s hs ↦ List.mem_append_right _ (List.mem_flatMap.2 ⟨p, hp, hs⟩)
    exact ⟨htexts _ (hmem _ (by simp)), htexts _ (hmem _ (by simp))⟩
  have hpairs {value : Parameter → String}
      (hvalue : ∀ p ∈ a.requestHeaders, ExportsNothing (value p)) :
      ∀ line ∈ Source.indent 2 (Source.commaSeparated (a.requestHeaders.map fun p ↦
        "\x7b" ++ binary p.locationName.display ++ ", " ++ value p ++ "\x7d")),
        ExportsNothing line := by
    refine exportsNothing_indent 2 (exportsNothing_commaSeparated (List.forall_mem_map.2 ?_))
    exact fun p hp ↦ exportsNothing_pair (hheader p hp).1 (hvalue p hp)
  have hbetween {opening : String} {values later : List String}
      (hfixed : ∀ line ∈ opening :: later, ExportsNothing line)
      (hvalues : ∀ line ∈ values, ExportsNothing line) :
      ∀ line ∈ [opening] ++ values ++ later, ExportsNothing line := by
    obtain ⟨hopening, hlater⟩ := List.forall_mem_cons.1 hfixed
    exact List.forall_mem_append.2
      ⟨List.forall_mem_cons.2 ⟨hopening, hvalues⟩, hlater⟩
  rw [requestLines]
  split
  · next hbodyless =>
    have hfixed : ∀ line ∈ ["Headers0 = [", "],",
        "Headers = [H || \x7b_, V\x7d = H <- Headers0, V =/= undefined],",
        "Input = undefined,"], ExportsNothing line := by decide +kernel
    have hvalues := hpairs fun p hp ↦ by simpa [hbodyless] using (hheader p hp).2
    exact hbetween hfixed hvalues
  · next hbodyless =>
    have hfixed : ∀ line ∈ ["HeadersMapping = [", "],",
        "\x7bHeaders, Input\x7d = aws_request:build_headers(HeadersMapping, Input0),"],
        ExportsNothing line := by decide +kernel
    have hvalues := hpairs fun p hp ↦
      exportsNothing_binary (by simpa [hbodyless] using (hheader p hp).2)
    exact hbetween hfixed hvalues

theorem exportsNothing_callLines {a : Action} {atom : String} (hatom : ExportsNothing atom)
    (hcode : ExportsNothing a.successStatusCode.display) :
    ∀ line ∈ callLines atom a, ExportsNothing line := by
  have harguments : ExportsNothing ", Path, Headers, Input, Options," := by decide
  have hclose : ExportsNothing ")." := by decide
  have hstatus : ExportsNothing
      (if a.successStatusCode.isNull then "undefined" else a.successStatusCode.display) := by
    split
    · decide
    · exact hcode
  simp only [callLines, List.forall_mem_cons, String.append_assoc]
  refine ⟨(hatom.before harguments (by decide)).after (by decide),
    (hstatus.before hclose (by decide)).after (by decide), by simp⟩

theorem clauses_of_restEntry {a : Action} {e : Entry} (h : restEntry a = .ok e)
    (hname : '-' ∉ a.functionName.toList)
    (htexts : ∀ s ∈ actionTexts .rest a, ExportsNothing s) : ∀ c ∈ e.clauses, c.IsPlain := by
  obtain ⟨atom, hatom, h⟩ := bind_eq_ok_iff.1 h
  obtain rfl := Except.ok.inj h
  have hclient : ExportsNothing "Client" := by decide
  have hformals : ∀ formal ∈ ["Input0", "Options"], ExportsNothing formal := by decide
  have hguards : ∀ guard ∈ ["is_map(Client)", "is_map(Input0)", "is_list(Options)"],
      ExportsNothing guard := by decide
  have htext (s : String) (hs : s ∈ a.definedMethodAtom.toOption.toList ∨
      s = a.urlPath.display ∨ s = a.successStatusCode.display ∨
      s ∈ a.arguments.map Parameter.codeName) : ExportsNothing s := by
    refine htexts s ?_
    simp only [actionTexts, List.mem_append, List.mem_cons, List.not_mem_nil, or_false]
    tauto
  have hpath : ExportsNothing ("Path = [\"" ++ a.urlPath.display ++ "\"],") := by
    have hclose : ExportsNothing "\"]," := by decide
    rw [String.append_assoc]
    exact ((htext _ (.inr (.inl rfl))).before hclose (by decide)).after (by decide)
  intro c hc
  rw [List.mem_singleton] at hc
  subst hc
  refine ⟨hname, ?_, ?_, ?_⟩
  · intro formal hformal
    simp only [restFormals, List.cons_append, List.mem_cons, List.mem_append] at hformal
    obtain rfl | hformal | hformal := hformal
    · exact hclient
    · exact htext formal (.inr (.inr (.inr hformal)))
    · split at hformal
      · exact hformals formal (List.mem_cons_of_mem "Input0" hformal)
      · exact hformals formal hformal
  · intro guard hguard
    rw [restGuards] at hguard
    split at hguard
    · refine hguards guard ?_
      rw [List.mem_cons, List.mem_singleton] at hguard
      obtain rfl | rfl := hguard <;> simp
    · exact hguards guard hguard
  · have hmethod : ExportsNothing atom := htext atom (.inl (by rw [hatom]; simp [Except.toOption]))
    have hcall := exportsNothing_callLines hmethod (htext _ (.inr (.inr (.inl rfl))))
    have hrequest := exportsNothing_requestLines htexts
    simp only [List.forall_mem_append, List.forall_mem_cons]
    exact ⟨⟨⟨hpath, by simp⟩, hrequest⟩, hcall⟩

/-! ### The whole module -/

/-- The texts that say in a module what the service is called. -/
def serviceTexts (transport : Transport) (s : Service) : List String :=
  [s.endpointPrefix, s.signingName.display, s.protocol.display] ++
    (if transport = .rpc ∧ s.targetPrefix.given then [s.targetPrefix.display] else []) ++
    (if s.isGlobal then [s.credentialScope.display] else [])

/-- The texts that the module of a service is written from, besides its documentation and the names
of its functions. -/
def writtenTexts (transport : Transport) (s : Service) : List String :=
  s.moduleName :: serviceTexts transport s ++ s.actions.flatMap (actionTexts transport)

theorem exportsNothing_serviceLines {transport : Transport} {s : Service}
    (h : ∀ text ∈ serviceTexts transport s, ExportsNothing text) :
    ∀ line ∈ serviceLines transport s, ExportsNothing line := by
  have hentry {name text after : String} (hname : '-' ∉ name.toList) (htext : ExportsNothing text)
      (hafter : ExportsNothing after) (happart : after.toList.head?.all (· ∉ exportSign) = true) :
      ExportsNothing (name ++ binary text ++ after) := by
    rw [String.append_assoc]
    exact ((exportsNothing_binary htext).before hafter happart).after hname
  simp only [serviceTexts, List.forall_mem_append, List.forall_mem_cons] at h
  obtain ⟨⟨⟨-, hsigning, hprotocol, -⟩, htarget⟩, hscope⟩ := h
  simp only [serviceLines, List.forall_mem_append, List.forall_mem_singleton]
  refine ⟨⟨⟨?_, ?_⟩, ?_⟩, ?_⟩
  · exact hentry (by decide) hsigning (by decide) (by decide)
  · split at htarget
    · next hgiven =>
      rw [if_pos hgiven, List.forall_mem_singleton]
      exact hentry (by decide) (htarget _ List.mem_cons_self) (by decide) (by decide)
    · next hmissing => simp [if_neg hmissing]
  · split at hscope
    · next hglobal =>
      rw [if_pos hglobal, List.forall_mem_singleton]
      exact hentry (by decide) (hscope _ List.mem_cons_self) (by decide) (by decide)
    · next hregional => simp [if_neg hregional]
  · exact hentry (by decide) hprotocol (by decide) (by decide)

theorem isPlain_requestClause {transport : Transport} {s : Service}
    (h : ∀ text ∈ serviceTexts transport s, ExportsNothing text) :
    (requestClause transport s).IsPlain := by
  have hname : '-' ∉ "request".toList := by decide
  have hformals : ∀ formal ∈ requestFormals transport, ExportsNothing formal := by
    cases transport <;> decide
  have hfunction : '-' ∉ (runtimeFunction transport).toList := by
    cases transport <;> decide
  have hprefix : ExportsNothing s.endpointPrefix := h _ (by simp [serviceTexts])
  have hcomma : ExportsNothing "," := by decide
  have hclose : ExportsNothing ")." := by decide
  refine ⟨hname, hformals, by simp [requestClause], ?_⟩
  simp only [requestClause, List.forall_mem_append, List.forall_mem_singleton,
    String.append_assoc]
  refine ⟨⟨?_, exportsNothing_indent 35 (exportsNothing_serviceLines h)⟩, ?_⟩
  · exact (((exportsNothing_binary hprefix).before hcomma (by decide)).after (by decide)).after
      hfunction
  · have htail : ∀ formal ∈ (requestFormals transport).tail, ExportsNothing formal :=
      fun formal hformal ↦ hformals formal (List.mem_of_mem_tail hformal)
    refine ((exportsNothing_intercalate htail).before hclose (by decide)).after ?_
    rw [Source.toList_spaces]
    decide

theorem exportsNothing_headingLines {title : String} (htitle : '-' ∉ title.toList) :
    ∀ line ∈ Module.headingLines title, ExportsNothing line := by
  have hrule : ExportsNothing ("%%" ++ String.ofList (List.replicate 68 '=')) :=
    exportsNothing_of_hyphen_notMem (by simp)
  have htitled : ExportsNothing ("%% " ++ title) :=
    (exportsNothing_of_hyphen_notMem htitle).after (by decide)
  exact List.forall_mem_cons.2 ⟨hrule, List.forall_mem_cons.2
    ⟨htitled, List.forall_mem_singleton.2 hrule⟩⟩

/-- The attribute that names a module begins no other if the name does not. -/
theorem exportsNothing_moduleLine {name : String} (h : ExportsNothing name) :
    ExportsNothing ("-module(" ++ name ++ ").") := by
  have hclose : ExportsNothing ")." := by decide
  have hrest : ExportsNothing ("module(" ++ (name ++ ").")) :=
    (h.before hclose (by decide)).after (by decide)
  have hhyphen : ExportsNothing "-" := by decide
  have hline : "-module(" ++ name ++ ")." = "-" ++ ("module(" ++ (name ++ ").")) := by
    simp [← String.toList_inj]
  rw [hline]
  exact hhyphen.before hrest (by simp; decide)

/-- The clauses of a module begin no attribute if no text does that the module is written from. -/
theorem Module.clauses_of_ofService {transport : Transport} {s : Service} {m : Module}
    (h : ofService transport s = .ok m) (hnames : ∀ a ∈ s.actions, '-' ∉ a.functionName.toList)
    (htexts : ∀ text ∈ writtenTexts transport s, ExportsNothing text) :
    ExportsNothing m.name ∧ (∀ e ∈ m.entries, ∀ c ∈ e.clauses, c.IsPlain) ∧ m.request.IsPlain := by
  rw [writtenTexts, List.cons_append] at htexts
  obtain ⟨hname, htexts⟩ := List.forall_mem_cons.1 htexts
  obtain ⟨hservice, hactions⟩ := List.forall_mem_append.1 htexts
  have haction : ∀ a ∈ s.actions, ∀ text ∈ actionTexts transport a, ExportsNothing text :=
    fun a ha text htext ↦ hactions text (List.mem_flatMap.2 ⟨a, ha, htext⟩)
  rw [request_of_ofService h]
  cases transport with
  | rpc =>
    obtain rfl := Except.ok.inj h
    refine ⟨hname, fun e he ↦ ?_, isPlain_requestClause hservice⟩
    obtain ⟨a, ha, rfl⟩ := List.mem_map.1 he
    exact clauses_rpcEntry (hnames a ha) (haction a ha)
  | rest =>
    obtain ⟨entries, hentries, h⟩ := bind_eq_ok_iff.1 h
    obtain rfl := Except.ok.inj h
    refine ⟨hname, fun e he ↦ ?_, isPlain_requestClause hservice⟩
    obtain ⟨a, ha, hentry⟩ := exists_mem_of_forall₂ (mapM_eq_ok_iff.1 hentries) he
    exact clauses_of_restEntry hentry (hnames a ha) (haction a ha)

/-- No line of code in a text holds an attribute. -/
def IsQuiet (isBreak : Char → Bool) (s : String) : Prop :=
  ∀ line ∈ codeLines isBreak s.toList, holdsExports line = false

theorem ExportsNothing.isQuiet {isBreak : Char → Bool} {s : String} (h : ExportsNothing s) :
    IsQuiet isBreak s := fun _ hline ↦
  decide_eq_false fun hsign ↦ h (hsign.trans (isInfix_of_mem_codeLines hline))

theorem Entry.IsPlain.isQuiet {isBreak : Char → Bool} (hbreak : EndsLines isBreak) {e : Entry}
    (h : e.IsPlain) : ∀ line ∈ Module.entryLines e, IsQuiet isBreak line := by
  have hempty : ExportsNothing "" := by decide
  have hdocstring : IsQuiet isBreak e.docstring := by
    rw [IsQuiet, h.docstring isBreak hbreak]
    exact List.forall_mem_nil _
  have hclauses : ∀ line ∈ e.clauses.flatMap Module.clauseLines, IsQuiet isBreak line := by
    intro line hline
    obtain ⟨c, hc, hline⟩ := List.mem_flatMap.1 hline
    exact ((h.clauses c hc).exportsNothing line hline).isQuiet
  exact List.forall_mem_cons.2 ⟨hempty.isQuiet, List.forall_mem_cons.2 ⟨hdocstring, hclauses⟩⟩

/-- Nothing in a module begins an attribute, apart from the attributes that the layout writes. -/
structure Module.IsPlain (m : Module) : Prop where
  /-- The name begins none. -/
  name : ExportsNothing m.name
  /-- The block holds no code. -/
  docstring : ∀ isBreak, EndsLines isBreak → codeLines isBreak m.docstring.toList = []
  /-- The functions for the actions begin none. -/
  entries : ∀ e ∈ m.entries, e.IsPlain
  /-- The function that makes the requests begins none. -/
  request : m.request.IsPlain

/-- The lines of code in a module are those of its attributes, with some before and after. -/
theorem Module.exists_codeLines_text {isBreak : Char → Bool} (h : EndsLines isBreak) {m : Module}
    (hexports : ∀ e ∈ m.entries, ∀ x ∈ e.exports, x.IsNamed) :
    ∃ before after, codeLines isBreak m.text.toList =
        before ++ ((m.entries.flatMap fun e ↦ exportLines e.exports).map String.toList ++ after) ∧
      (m.IsPlain → ∀ line ∈ before ++ after, holdsExports line = false) := by
  have hattributes : (m.entries.flatMap fun e ↦ exportLines e.exports).flatMap
      (fun line ↦ codeLines isBreak line.toList) =
      (m.entries.flatMap fun e ↦ exportLines e.exports).map String.toList := by
    rw [List.map_eq_flatMap]
    refine List.flatMap_congr fun line hline ↦ ?_
    obtain ⟨e, he, hline⟩ := List.mem_flatMap.1 hline
    exact codeLines_of_mem_exportLines h (hexports e he) line hline
  rw [text, codeLines_text h, lines]
  simp only [List.append_assoc]
  rw [List.flatMap_append, List.flatMap_append, hattributes]
  refine ⟨_, _, rfl, fun hplain line hline ↦ ?_⟩
  rw [← List.flatMap_append, List.mem_flatMap] at hline
  obtain ⟨piece, hpiece, hline⟩ := hline
  suffices hquiet : IsQuiet isBreak piece from hquiet line hline
  clear hline
  revert piece
  have hdocstring : IsQuiet isBreak m.docstring := by
    rw [IsQuiet, hplain.docstring isBreak h]
    exact List.forall_mem_nil _
  have hentries : ∀ line ∈ m.entries.flatMap entryLines, IsQuiet isBreak line := by
    intro line hline
    obtain ⟨e, he, hline⟩ := List.mem_flatMap.1 hline
    exact (hplain.entries e he).isQuiet h line hline
  have hheading {title : String} (htitle : '-' ∉ title.toList) :
      ∀ line ∈ headingLines title, IsQuiet isBreak line :=
    fun line hline ↦ (exportsNothing_headingLines htitle line hline).isQuiet
  have hempty : IsQuiet isBreak "" := (by decide : ExportsNothing "").isQuiet
  simp only [List.forall_mem_append, List.forall_mem_cons]
  refine ⟨⟨?_, ?_, hempty, hdocstring, (exportsNothing_moduleLine hplain.name).isQuiet, hempty,
    by simp⟩, ⟨hempty, ?_, hempty, by simp⟩, hheading (by decide), hentries, ⟨hempty, by simp⟩,
    hheading (by decide), ⟨hempty, by simp⟩,
    fun line hline ↦ (hplain.request.exportsNothing line hline).isQuiet⟩
  all_goals exact ExportsNothing.isQuiet (by decide +kernel)

/-- A module exports what its entries export, whatever else. -/
theorem Module.exports_sublist_exportsIn {isBreak : Char → Bool} (h : EndsLines isBreak)
    {m : Module} (hexports : ∀ e ∈ m.entries, ∀ x ∈ e.exports, x.IsNamed) :
    (m.entries.flatMap Entry.exports).Sublist (exportsIn isBreak m.text) := by
  obtain ⟨before, after, hlines, -⟩ := exists_codeLines_text h hexports
  obtain ⟨goesOn, hsublist⟩ := exists_readExports_sublist false before
    ((m.entries.flatMap fun e ↦ exportLines e.exports).map String.toList ++ after)
  obtain ⟨stillOn, -, hread⟩ := exists_readExports_flatMap hexports goesOn after
  rw [exportsIn, hlines]
  rw [hread] at hsublist
  exact (List.sublist_append_left _ _).trans hsublist

/-- A module in which nothing else begins an attribute exports what its entries export, in order,
and nothing more. -/
theorem Module.exportsIn_text {isBreak : Char → Bool} (h : EndsLines isBreak) {m : Module}
    (hexports : ∀ e ∈ m.entries, ∀ x ∈ e.exports, x.IsNamed) (hplain : m.IsPlain) :
    exportsIn isBreak m.text = m.entries.flatMap Entry.exports := by
  obtain ⟨before, after, hlines, hquiet⟩ := exists_codeLines_text h hexports
  obtain ⟨hbefore, hafter⟩ := List.forall_mem_append.1 (hquiet hplain)
  obtain ⟨stillOn, hstill, hread⟩ := exists_readExports_flatMap hexports false after
  have hnone : readExports false after = [] := by
    have hlast := readExports_append hafter []
    rwa [List.append_nil, readExports] at hlast
  rw [exportsIn, hlines, readExports_append hbefore, hread, hstill rfl, hnone, List.append_nil]

end ServiceClient.Erlang
