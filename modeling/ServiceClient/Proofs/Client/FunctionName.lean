import ServiceClient.Proofs.Client.Bound
import ServiceClient.Proofs.Identifier.Variable

/-!
# The names of functions

The functions of a client are named as their operations, in snake case. For an operation whose name
begins with a letter that is a word of small letters, digits and underscores, as both languages want
it; but unlike the identifiers of parameters, it is not kept apart from the words that a language
reserves. A function has a keyword for its name exactly when the keyword is the only word in the
name of its operation: `functionNames_legal_iff`. Such a service is built and written like any
other.
-/

namespace ServiceClient

namespace Identifier

/-- A text has some words exactly when they are what snake case joins. -/
theorem snakeChars_eq_intercalate_iff {cs : List Char} {words : List (List Char)}
    (h : ∀ word ∈ words, IsSnakeWord word) :
    snakeChars cs = ['_'].intercalate words ↔ snakeWords cs = words := by
  constructor
  · intro hjoined
    have hown : ∀ word ∈ snakeWords cs, IsSnakeWord word := fun _ ↦ isSnakeWord_of_mem_snakeWords
    rw [← snakeWords_intercalate hown, ← snakeChars_eq_intercalate, hjoined,
      snakeWords_intercalate h]
  · rintro rfl
    exact snakeChars_eq_intercalate cs

/-- A name in snake case is a single word exactly when the name has no other. -/
theorem snakeCase_eq_iff {name word : String} (h : IsSnakeWord word.toList) :
    snakeCase name = word ↔ snakeWords name.toList = [word.toList] := by
  rw [← String.toList_inj, toList_snakeCase,
    ← snakeChars_eq_intercalate_iff (List.forall_mem_singleton.2 h), List.intercalate_singleton]

/-- A name that begins with a letter is a variable in snake case. -/
theorem isVariable_snakeCase {name : String} (h : name.toList.head?.any isLetter = true) :
    isVariable .elixir (snakeCase name) = true := by
  rw [snakeCase, isVariable_ofList]
  rcases hchars : name.toList with - | ⟨c, rest⟩
  · rw [hchars] at h
    cases h
  · rw [hchars] at h
    exact isVariableText_snakeChars h rest

end Identifier

namespace Client

/-- The words that a language reserves, so that no function can be defined by them. -/
def Target.keywords : Target → List String
  | .elixir => [
    "after", "and", "catch", "do", "else", "end", "false", "fn", "in", "nil", "not", "or", "rescue",
    "true", "when"]
  | .erlang => [
    "after", "and", "andalso", "band", "begin", "bnot", "bor", "bsl", "bsr", "bxor", "case",
    "catch", "cond", "div", "end", "fun", "if", "let", "not", "of", "or", "orelse", "receive",
    "rem", "try", "when", "xor"]

/-- The only word in a name is a keyword, however it is written. -/
def Target.IsKeywordName (target : Target) (name : String) : Prop :=
  ∃ word ∈ target.keywords, Identifier.snakeWords name.toList = [word.toList]

instance (target : Target) (name : String) : Decidable (target.IsKeywordName name) :=
  inferInstanceAs (Decidable (∃ word ∈ target.keywords, _))

theorem Target.isSnakeWord_of_mem_keywords {target : Target} {word : String}
    (h : word ∈ target.keywords) : Identifier.IsSnakeWord word.toList := by
  have hwords : ∀ target : Target, ∀ word ∈ target.keywords,
      word.toList ≠ [] ∧ word.toList.all Identifier.isSnakeChar = true := by
    rintro (- | -) <;> decide
  obtain ⟨hne, hchars⟩ := hwords target word h
  exact ⟨hne, List.all_eq_true.1 hchars⟩

/-- Snake case gives a keyword exactly when the only word of the name is one. -/
theorem Target.snakeCase_mem_keywords_iff {target : Target} {name : String} :
    Identifier.snakeCase name ∈ target.keywords ↔ target.IsKeywordName name := by
  constructor
  · intro h
    exact ⟨_, h, (Identifier.snakeCase_eq_iff (isSnakeWord_of_mem_keywords h)).1 rfl⟩
  · rintro ⟨word, hword, hname⟩
    rwa [(Identifier.snakeCase_eq_iff (isSnakeWord_of_mem_keywords hword)).2 hname]

end Client

namespace Service

open Client
open Identifier (isLetter isVariable)

variable {transport : Transport} {target : Target} {moduleName : String}
  {endpoints api docs options : Json} {s : Service}

/-- When the names of the operations begin with letters, every function is named by a small letter
and further small letters, digits and underscores. These names are fit for functions exactly when
no operation has a keyword for the only word of its name. -/
theorem functionNames_legal_iff
    (hletters : ∀ operation ∈ (api.part "operations").entries,
      operation.1.toList.head?.any isLetter = true)
    (hbuild : build transport moduleName endpoints api docs options target.language = .ok s) :
    (∀ a ∈ s.actions, isVariable .elixir a.functionName = true) ∧
    ((∀ a ∈ s.actions, a.functionName ∉ target.keywords) ↔
      ∀ operation ∈ (api.part "operations").entries, ¬target.IsKeywordName operation.1) := by
  obtain ⟨_, _, hparts⟩ := exists_isBuilt hbuild
  refine ⟨fun a ha ↦ ?_, fun h operation hmem hkeyword ↦ ?_, fun h a ha hkeyword ↦ ?_⟩
  · obtain ⟨operation, hmem, hcompile⟩ := Action.exists_compile_of_mem hparts.actions_eq ha
    rw [(Action.names_of_compile hcompile).2]
    exact Identifier.isVariable_snakeCase (hletters _ hmem)
  · obtain ⟨a, ha, hcompile⟩ := Action.exists_action_of_mem hparts.actions_eq hmem
    refine h a ha ?_
    rw [(Action.names_of_compile hcompile).2]
    exact Target.snakeCase_mem_keywords_iff.2 hkeyword
  · obtain ⟨operation, hmem, hcompile⟩ := Action.exists_compile_of_mem hparts.actions_eq ha
    rw [(Action.names_of_compile hcompile).2] at hkeyword
    exact h _ hmem (Target.snakeCase_mem_keywords_iff.1 hkeyword)

/-- An API spec with operations of some names, for remote procedure calls. -/
def callApi (names : List String) : Json :=
  .obj [
    ("metadata", .obj [("endpointPrefix", .str "items")]),
    ("operations", .obj (names.map fun name ↦ (name, .empty)))]

/-- A keyword that is one word of several makes no difference. -/
theorem functionNames_legal_iff_endItem :
    ∃ s, build .rpc "demo" itemCatalog (callApi ["EndItem"]) .empty .null .erlang = .ok s ∧
      ∀ a ∈ s.actions, isVariable .elixir a.functionName = true ∧
        a.functionName ∉ Target.erlang.keywords := by
  have hbuild : (build .rpc "demo" itemCatalog (callApi ["EndItem"]) .empty .null
      .erlang).toOption.isSome := by
    decide +kernel
  have hnames : ∀ operation ∈ ((callApi ["EndItem"]).part "operations").entries,
      operation.1.toList.head?.any isLetter = true ∧ ¬Target.erlang.IsKeywordName operation.1 := by
    decide +kernel
  obtain ⟨s, hfound⟩ := Option.isSome_iff_exists.1 hbuild
  have hs : build .rpc "demo" itemCatalog (callApi ["EndItem"]) .empty .null
      Target.erlang.language = .ok s := toOption_eq_some_iff.1 hfound
  obtain ⟨hvariable, hlegal⟩ := functionNames_legal_iff
    (fun operation hmem ↦ (hnames operation hmem).1) hs
  have hfree := hlegal.2 fun operation hmem ↦ (hnames operation hmem).2
  exact ⟨s, hs, fun a ha ↦ ⟨hvariable a ha, hfree a ha⟩⟩

/-- An operation that is named by a keyword gives its function this name in either language, and
the client module is written. -/
theorem function_can_be_keyword :
    "End".toList.head?.any isLetter = true ∧
    ∀ target : Target, ∃ s text,
      build .rpc "demo" itemCatalog (callApi ["End"]) .empty .null target.language = .ok s ∧
      render ⟨target, .rpc⟩ s = .ok text ∧
      ∃ a ∈ s.actions, a.name = "End" ∧ a.functionName = "end" ∧ "end" ∈ target.keywords := by
  refine ⟨by decide, fun target ↦ ?_⟩
  have hbuild : (build .rpc "demo" itemCatalog (callApi ["End"]) .empty .null
      target.language).toOption.map (fun s ↦
        (s.actions.map fun a ↦ (a.name, a.functionName),
          (render ⟨target, .rpc⟩ s).toOption.isSome)) = some ([("End", "end")], true) := by
    rcases target with - | - <;> decide +kernel
  obtain ⟨s, hs, hparts⟩ := Option.map_eq_some_iff.1 hbuild
  obtain ⟨hnames, hrender⟩ := Prod.mk.inj hparts
  obtain ⟨text, htext⟩ := Option.isSome_iff_exists.1 hrender
  obtain ⟨a, ha, heq⟩ := List.mem_map.1 (hnames ▸ List.mem_singleton_self ("End", "end"))
  obtain ⟨hname, hfunction⟩ := Prod.mk.inj heq
  refine ⟨s, text, toOption_eq_some_iff.1 hs, toOption_eq_some_iff.1 htext, a, ha, hname,
    hfunction, ?_⟩
  rcases target with - | - <;> decide

end Service

end ServiceClient
