import Mathlib.Data.List.Find
import Mathlib.Data.List.Nodup
import ServiceClient.Proofs.Uri.Variables

/-!
# What a template asks of the parameters

To bind the placeholders of a template, the last parameter that goes by the name of each is looked
up, from left to right, after the template has been read to its end. So parameters that answer alike
for these names give the same path or the same error, down to the wording, and it does not matter
which other parameters there are, in which order they come, or how their names begin.

An error is either that of the template, whatever the parameters are, or it names the first
placeholder that no parameter goes by.
-/

namespace ServiceClient.Uri.Path

/-- Two lists of parameters answer alike for a name: no parameter of either goes by it, or the last
ones that do have the same identifier. -/
def AnswerAlike (parameters others : List Parameter) (name : String) : Prop :=
  ((∀ p ∈ parameters, p.locationName ≠ .str name) ∧ ∀ q ∈ others, q.locationName ≠ .str name) ∨
    ∃ p q, IsLastNamed parameters name p ∧ IsLastNamed others name q ∧ p.codeName = q.codeName

variable {parameters others : List Parameter} {name template : String}

/-! ### Single look-ups -/

theorem codeName?_eq_none_iff :
    codeName? parameters name = none ↔ ∀ p ∈ parameters, p.locationName ≠ .str name := by
  simp only [codeName?, Option.map_eq_none_iff, List.find?_eq_none, List.mem_reverse, isNamed_iff]

theorem IsLastNamed.codeName?_eq {p : Parameter} (h : IsLastNamed parameters name p) :
    codeName? parameters name = some p.codeName := by
  obtain ⟨before, after, rfl, hname, hafter⟩ := h
  have hnone : after.reverse.find? (isNamed name) = none :=
    List.find?_eq_none.2 fun q hq hnamed ↦
      hafter q (List.mem_reverse.1 hq) (isNamed_iff.1 hnamed)
  rw [codeName?, List.reverse_append, List.reverse_cons, List.append_assoc, List.find?_append,
    hnone, Option.none_or, List.singleton_append, List.find?_cons_of_pos (isNamed_iff.2 hname)]
  rfl

theorem AnswerAlike.codeName?_eq (h : AnswerAlike parameters others name) :
    codeName? parameters name = codeName? others name := by
  rcases h with ⟨hnone, hnone'⟩ | ⟨p, q, hp, hq, heq⟩
  · rw [codeName?_eq_none_iff.2 hnone, codeName?_eq_none_iff.2 hnone']
  · rw [hp.codeName?_eq, hq.codeName?_eq, heq]

/-- Parameters with distinct location names answer alike in any order. -/
theorem codeName?_eq_of_perm (h : parameters.Perm others)
    (hdistinct : (parameters.map Parameter.locationName).Nodup) (name : String) :
    codeName? others name = codeName? parameters name := by
  cases hcode : codeName? parameters name with
  | none =>
    rw [codeName?_eq_none_iff] at hcode ⊢
    exact fun q hq ↦ hcode q (h.mem_iff.2 hq)
  | some codeName =>
    obtain ⟨p, hp, hname, rfl⟩ := exists_of_codeName? hcode
    obtain ⟨codeName, hother⟩ := exists_codeName?_iff.2 ⟨p, h.mem_iff.1 hp, hname⟩
    obtain ⟨q, hq, hname', rfl⟩ := exists_of_codeName? hother
    have heq : p = q :=
      List.inj_on_of_nodup_map hdistinct hp (h.mem_iff.2 hq) (hname.trans hname'.symm)
    rw [hother, heq]

/-- Parameters that do not go by a name can be left out when it is looked up. -/
theorem codeName?_filter {keep : Parameter → Bool}
    (hkeep : ∀ p ∈ parameters, p.locationName = .str name → keep p = true) :
    codeName? (parameters.filter keep) name = codeName? parameters name := by
  rw [codeName?, codeName?, ← List.filter_reverse, List.find?_filter]
  refine congrArg (Option.map Parameter.codeName) (List.find?_congr fun p hp ↦ ?_)
  cases hnamed : isNamed name p with
  | false => simp
  | true => simp [hkeep p (List.mem_reverse.1 hp) (isNamed_iff.1 hnamed)]

/-! ### All placeholders -/

/-- Parameters that answer alike for the names of some tokens bind them alike. -/
theorem bind_congr {tokens : List Token}
    (h : ∀ name ∈ placeholderNames tokens, codeName? parameters name = codeName? others name) :
    Path.bind tokens parameters = Path.bind tokens others := by
  have hstep : tokens.mapM (bindToken parameters) = tokens.mapM (bindToken others) := by
    refine mapM_congr_left fun t ht ↦ ?_
    cases t with
    | literal text => rfl
    | placeholder name multiSegment unbound =>
      rw [bindToken, bindToken, h name (List.mem_filterMap.2 ⟨_, ht, rfl⟩)]
  rw [Path.bind, Path.bind, hstep]

/-- Binding keeps the names of the placeholders. -/
theorem placeholderNames_of_forall₂ {tokens bound : List Token}
    (h : List.Forall₂ (fun t u ↦ bindToken parameters t = .ok u) tokens bound) :
    placeholderNames bound = placeholderNames tokens := by
  induction h with
  | nil => rfl
  | cons htu _ ih =>
    obtain ⟨text, rfl, rfl⟩ | ⟨name, multiSegment, unbound, codeName, rfl, rfl, -⟩ :=
      bindToken_cases htu
    · exact ih
    · exact congrArg (name :: ·) ih

/-- Binding fails for the first placeholder whose name is nobody's. -/
theorem mapM_bindToken_eq_error_iff {tokens : List Token} {defect : TemplateDefect} :
    tokens.mapM (bindToken parameters) = .error defect ↔
      ∃ name, (placeholderNames tokens).find? (fun name ↦ (codeName? parameters name).isNone) =
        some name ∧ defect = .unbound name := by
  induction tokens with
  | nil => simp [placeholderNames]
  | cons t tokens ih =>
    -- a token that can be bound leaves the outcome to the later ones
    have hbound {u : Token} (hu : bindToken parameters t = .ok u) :
        (t :: tokens).mapM (bindToken parameters) = .error defect ↔
          tokens.mapM (bindToken parameters) = .error defect := by
      rw [List.mapM_cons, hu, ok_bind]
      cases tokens.mapM (bindToken parameters) <;> simp
    cases t with
    | literal text => exact (hbound rfl).trans ih
    | placeholder name multiSegment unbound =>
      have hnames : placeholderNames (.placeholder name multiSegment unbound :: tokens) =
          name :: placeholderNames tokens := rfl
      cases hcode : codeName? parameters name with
      | none =>
        rw [hnames, List.find?_cons_of_pos (by rw [hcode]; rfl), List.mapM_cons, bindToken, hcode,
          error_bind]
        simp [eq_comm]
      | some codeName =>
        have hu : bindToken parameters (.placeholder name multiSegment unbound) =
            .ok (.placeholder name multiSegment codeName) := by rw [bindToken, hcode]
        rw [hbound hu, ih, hnames, List.find?_cons_of_neg (by simp [hcode])]

/-- The first placeholder that binding complains of is nobody's, and those before it are bound. -/
theorem bind_eq_error_iff {tokens : List Token} {defect : TemplateDefect} :
    Path.bind tokens parameters = .error defect ↔
      ∃ before name after, placeholderNames tokens = before ++ name :: after ∧
        (∀ n ∈ before, ∃ p ∈ parameters, p.locationName = .str n) ∧
        (∀ p ∈ parameters, p.locationName ≠ .str name) ∧ defect = .unbound name := by
  have hbind : Path.bind tokens parameters = .error defect ↔
      tokens.mapM (bindToken parameters) = .error defect := by
    rw [Path.bind]
    cases tokens.mapM (bindToken parameters) <;> simp
  rw [hbind, mapM_bindToken_eq_error_iff]
  constructor
  · rintro ⟨name, hfind, rfl⟩
    obtain ⟨hnone, before, after, hsplit, hbefore⟩ := List.find?_eq_some_iff_append.1 hfind
    refine ⟨before, name, after, hsplit, fun n hn ↦ exists_codeName?_iff.1 ?_,
      codeName?_eq_none_iff.1 (Option.isNone_iff_eq_none.1 hnone), rfl⟩
    exact Option.isSome_iff_exists.1 (by simpa using hbefore n hn)
  · rintro ⟨before, name, after, hsplit, hbefore, hnone, rfl⟩
    refine ⟨name, List.find?_eq_some_iff_append.2 ⟨?_, before, after, hsplit, fun n hn ↦ ?_⟩, rfl⟩
    · rw [codeName?_eq_none_iff.2 hnone]
      rfl
    · obtain ⟨codeName, hcode⟩ := exists_codeName?_iff.2 (hbefore n hn)
      rw [hcode]
      rfl

/-! ### Templates -/

/-- What a template is compiled to depends on its parameters through the look-ups of its names
alone. -/
theorem compile_str_congr (hkey : Keyable parameters) (hother : Keyable others)
    (h : ∀ names, Grammar names template.toList → ∀ name ∈ names,
      codeName? others name = codeName? parameters name) :
    Path.compile (.str template) others = Path.compile (.str template) parameters := by
  rw [compile_str hkey, compile_str hother]
  cases htokens : tokenize template with
  | error defect => rfl
  | ok tokens =>
    have hgrammar := (exists_tokensFrom_iff 0).1 ⟨tokens, htokens, rfl⟩
    rw [mapError_ok, ok_bind, ok_bind, bind_congr (h _ hgrammar)]

/-- A template in the grammar is refused for the first of its names that no parameter goes by. -/
theorem compile_str_eq_error_iff (hkey : Keyable parameters) {names : List String}
    (hnames : Grammar names template.toList) {fault : Fault} :
    Path.compile (.str template) parameters = .error fault ↔
      ∃ before name after, names = before ++ name :: after ∧
        (∀ n ∈ before, ∃ p ∈ parameters, p.locationName = .str n) ∧
        (∀ p ∈ parameters, p.locationName ≠ .str name) ∧
        fault = refuse (Text.quoted template) (.unbound name) := by
  obtain ⟨tokens, htokens, rfl⟩ := (exists_tokensFrom_iff 0).2 hnames
  rw [compile_str hkey, tokenize, htokens, mapError_ok, ok_bind, mapError_eq_error_iff]
  constructor
  · rintro ⟨defect, hbind, rfl⟩
    obtain ⟨before, name, after, hsplit, hbefore, hnone, rfl⟩ := bind_eq_error_iff.1 hbind
    exact ⟨before, name, after, hsplit, hbefore, hnone, rfl⟩
  · rintro ⟨before, name, after, hsplit, hbefore, hnone, rfl⟩
    exact ⟨_, bind_eq_error_iff.2 ⟨before, name, after, hsplit, hbefore, hnone, rfl⟩, rfl⟩

/-- A template is compiled alike with all parameters that answer alike for its names; in
particular, parameters with distinct location names may come in any order, and those that go by none
of its names may be left out. A defect of the template comes before any placeholder is bound; the
first placeholder that no parameter goes by is the one that an error names; and each placeholder
gets the variable of the last parameter that goes by its whole name. -/
theorem compile_depends_on_lookups (hkey : Keyable parameters) (template : String) :
    (∀ others, Keyable others →
      (∀ names, Grammar names template.toList → ∀ name ∈ names,
        AnswerAlike parameters others name) →
      compile (.str template) others = compile (.str template) parameters) ∧
    (∀ defect, tokenize template = .error defect →
      compile (.str template) parameters = .error (refuse (Text.quoted template) defect)) ∧
    (∀ names, Grammar names template.toList → ∀ fault,
      compile (.str template) parameters = .error fault ↔
        ∃ before name after, names = before ++ name :: after ∧
          (∀ n ∈ before, ∃ p ∈ parameters, p.locationName = .str n) ∧
          (∀ p ∈ parameters, p.locationName ≠ .str name) ∧
          fault = refuse (Text.quoted template) (.unbound name)) ∧
    (∀ others, parameters.Perm others → (parameters.map Parameter.locationName).Nodup →
      compile (.str template) others = compile (.str template) parameters) ∧
    (∀ keep : Parameter → Bool,
      (∀ names, Grammar names template.toList → ∀ name ∈ names,
        ∀ p ∈ parameters, p.locationName = .str name → keep p = true) →
      compile (.str template) (parameters.filter keep) = compile (.str template) parameters) ∧
    ∀ path, compile (.str template) parameters = .ok path →
      Grammar (placeholderNames path.tokens) template.toList ∧
        ∀ name multiSegment codeName,
          Token.placeholder name multiSegment codeName ∈ path.tokens →
          ∃ p, IsLastNamed parameters name p ∧ p.codeName = codeName := by
  refine ⟨fun others hother h ↦ ?_, fun defect hdefect ↦ ?_, fun names hnames fault ↦ ?_,
    fun others hperm hdistinct ↦ ?_, fun keep hkeep ↦ ?_, fun path hpath ↦ ⟨?_, ?_⟩⟩
  · exact compile_str_congr hkey hother fun names hnames name hname ↦
      (h names hnames name hname).codeName?_eq.symm
  · rw [compile_str hkey, hdefect, mapError_error, error_bind]
  · exact compile_str_eq_error_iff hkey hnames
  · exact compile_str_congr hkey (fun q hq ↦ hkey q (hperm.mem_iff.2 hq))
      fun _ _ name _ ↦ codeName?_eq_of_perm hperm hdistinct name
  · exact compile_str_congr hkey (fun q hq ↦ hkey q (List.mem_filter.1 hq).1)
      fun names hnames name hname ↦ codeName?_filter (hkeep names hnames name hname)
  · obtain ⟨-, tokens, htokens, hbound⟩ := tokens_of_compile_str hpath
    rw [placeholderNames_of_forall₂ hbound]
    exact (exists_tokensFrom_iff 0).1 ⟨tokens, htokens, rfl⟩
  · exact fun name multiSegment codeName hmem ↦ exists_isLastNamed_of_mem hpath hmem

/-- Of two parameters that go by one name the last is taken, a name is not confused with the
beginning of another, and of two placeholders that are nobody's the first is named. -/
theorem compile_depends_on_lookups_prefix :
    let parameters : List Parameter := [⟨"old_id", "OldId", .str "Id"⟩,
      ⟨"id_prefix", "IdPrefix", .str "IdPrefix"⟩, ⟨"id", "Id", .str "Id"⟩]
    let others : List Parameter := [⟨"id", "Id", .str "Id"⟩, ⟨"i", "I", .str "I"⟩,
      ⟨"id_prefix", "IdPrefix", .str "IdPrefix"⟩]
    Path.compile (.str "/items/\x7bId\x7d/\x7bIdPrefix+\x7d") others =
        Path.compile (.str "/items/\x7bId\x7d/\x7bIdPrefix+\x7d") parameters ∧
      Path.compile (.str "/\x7bId\x7d/\x7bKey\x7d/\x7bName\x7d") parameters =
        .error (refuse "'/\x7bId\x7d/\x7bKey\x7d/\x7bName\x7d'" (.unbound "Key")) := by
  intro parameters others
  have hkey : Keyable parameters := by simp [Keyable, parameters, Json.key?]
  have hother : Keyable others := by simp [Keyable, others, Json.key?]
  constructor
  · refine (compile_depends_on_lookups hkey _).1 others hother fun names hnames name hname ↦ ?_
    obtain ⟨tokens, htokens, rfl⟩ := (exists_tokensFrom_iff 0).2 hnames
    have hread : tokensFrom 0 "/items/\x7bId\x7d/\x7bIdPrefix+\x7d".toList =
        .ok [.literal "/items/", .placeholder "Id" false "", .literal "/",
          .placeholder "IdPrefix" true ""] := by
      decide +kernel
    obtain rfl := Except.ok.inj (htokens.symm.trans hread)
    obtain rfl | rfl : "Id" = name ∨ "IdPrefix" = name := by
      simpa [placeholderNames, Token.name?] using hname
    · exact .inr ⟨⟨"id", "Id", .str "Id"⟩, ⟨"id", "Id", .str "Id"⟩,
        ⟨[_, _], [], rfl, rfl, by simp⟩, ⟨[], [_, _], rfl, rfl, by simp⟩, rfl⟩
    · exact .inr ⟨⟨"id_prefix", "IdPrefix", .str "IdPrefix"⟩,
        ⟨"id_prefix", "IdPrefix", .str "IdPrefix"⟩,
        ⟨[_], [_], rfl, rfl, by simp⟩, ⟨[_, _], [], rfl, rfl, by simp⟩, rfl⟩
  · have hread : tokensFrom 0 "/\x7bId\x7d/\x7bKey\x7d/\x7bName\x7d".toList =
        .ok [.literal "/", .placeholder "Id" false "", .literal "/", .placeholder "Key" false "",
          .literal "/", .placeholder "Name" false ""] := by
      decide +kernel
    have hquoted : Text.quoted "/\x7bId\x7d/\x7bKey\x7d/\x7bName\x7d" =
        "'/\x7bId\x7d/\x7bKey\x7d/\x7bName\x7d'" := by
      decide +kernel
    have hnames := (exists_tokensFrom_iff 0).1 ⟨_, hread, rfl⟩
    rw [← hquoted]
    exact ((compile_depends_on_lookups hkey _).2.2.1 _ hnames _).2
      ⟨["Id"], "Key", ["Name"], rfl, by simp [parameters], by simp [parameters], rfl⟩

end ServiceClient.Uri.Path
