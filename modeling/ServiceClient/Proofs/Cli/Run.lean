import ServiceClient.Cli.Run
import ServiceClient.Json.Writer
import ServiceClient.Proofs.Action.Selection
import ServiceClient.Proofs.Files.Tree
import ServiceClient.Proofs.Service.Parts
import ServiceClient.Proofs.Source

/-!
# What a run does to the files

Everything that can be refused is refused before anything is written, and the text of the module is
there before its directory is made. So a run that ends with a status other than 0 changes nothing,
and a run that ends well has written one file. A run that ends with a fault can have made
directories, but changes no file, unless the fault is that the text cannot be encoded: a document
had an escape for half of a surrogate pair, the half is in the text, and the file has been opened
and is empty.
-/

namespace ServiceClient.Cli

open Files (Tree)

variable {tree changed : Tree} {args : Arguments} {documents : Documents} {service : Service}
  {layout : Client.Layout} {holdsHalves : Bool} {path : Files.Path} {text : String}

/-! ### Delivering a text -/

/-- A text is written when it has bytes and the file can be written. -/
theorem writeText_eq_none_iff : writeText tree holdsHalves path text = (changed, none) ↔
    (holdsHalves = true → ∀ c ∈ text.toList, Text.half? c = none) ∧
      tree.write path (Text.Utf8.encode text.toList) = .ok changed := by
  rw [writeText]
  constructor
  · intro h
    cases hbytes : Text.bytesOf holdsHalves text.toList with
    | ok bytes =>
      obtain ⟨hnone, rfl⟩ := Text.bytesOf_eq_ok_iff.1 hbytes
      simp only [hbytes] at h
      split at h
      · cases h
      · next written hwrite =>
        obtain rfl := (Prod.mk.inj h).1
        exact ⟨hnone, hwrite⟩
    | error halves =>
      simp only [hbytes] at h
      split at h
      · cases h
      · cases h
  · rintro ⟨hnone, hwrite⟩
    simp only [Text.bytesOf_eq_ok_iff.2 ⟨hnone, rfl⟩, hwrite]

/-- A text that is not written leaves the files as they are, or has no bytes and leaves its file
empty. -/
theorem cases_of_writeText {fault : Fault}
    (h : writeText tree holdsHalves path text = (changed, some fault)) :
    changed = tree ∨ ∃ halves, Text.bytesOf holdsHalves text.toList = .error halves ∧
      fault = .rejected (.unencodable halves) ∧ tree.write path [] = .ok changed := by
  rw [writeText] at h
  cases hbytes : Text.bytesOf holdsHalves text.toList with
  | ok bytes =>
    simp only [hbytes] at h
    split at h
    · exact .inl (Prod.mk.inj h).1.symm
    · cases h
  | error halves =>
    simp only [hbytes] at h
    split at h
    · exact .inl (Prod.mk.inj h).1.symm
    · next written hwrite =>
      obtain ⟨rfl, hfault⟩ := Prod.mk.inj h
      exact .inr ⟨halves, rfl, (Option.some.inj hfault).symm, hwrite⟩

/-- A text that is not delivered leaves every file as it is, or has no bytes and leaves its file
empty. -/
theorem cases_of_deliver {fault : Fault}
    (h : deliver tree holdsHalves path text = (changed, some fault)) :
    Tree.MadeOnWay path.root path.parts.dropLast tree changed ∨
      ∃ halves, Text.bytesOf holdsHalves text.toList = .error halves ∧
        fault = .rejected (.unencodable halves) ∧ Tree.WroteFile tree changed path [] := by
  have hway := tree.madeOnWay_ensureDirectory path.parent
  rw [deliver] at h
  split at h
  · obtain rfl := (Prod.mk.inj h).1
    exact .inl (.refl _ _ tree)
  · split at h
    · next made e hmade =>
      obtain rfl := (Prod.mk.inj h).1
      rw [hmade] at hway
      exact .inl hway
    · next made hmade =>
      rw [hmade] at hway
      split at h
      · obtain rfl := (Prod.mk.inj h).1
        exact .inl hway
      · obtain rfl | ⟨halves, hbytes, hfault, hwrite⟩ := cases_of_writeText h
        · exact .inl hway
        · exact .inr ⟨halves, hbytes, hfault, Tree.MadeOnWay.wroteFile hway hwrite⟩

/-- A text that holds a half leaves its file empty, if the file can be opened. -/
theorem exists_deliver_eq_unencodable {made : Tree}
    (hparent : checkPath true path.parent = .ok ())
    (hmade : tree.ensureDirectory path.parent = (made, none))
    (hpath : checkPath true path = .ok ()) (hwrite : made.write path [] = .ok changed)
    (hhalf : ∃ c ∈ text.toList, Text.half? c ≠ none) :
    ∃ halves, deliver tree true path text =
      (changed, some (.rejected (.unencodable halves))) := by
  obtain ⟨halves, hbytes⟩ := Text.exists_bytesOf_eq_error_iff.2 ⟨rfl, hhalf⟩
  refine ⟨halves, ?_⟩
  simp only [deliver, hparent, hmade, hpath, writeText, hbytes, hwrite]

/-- A text is delivered when its path and the text itself can be encoded, the directory is there or
can be made and the file can be written. -/
theorem deliver_eq_none_iff : deliver tree holdsHalves path text = (changed, none) ↔
    checkPath holdsHalves path.parent = .ok () ∧ checkPath holdsHalves path = .ok () ∧
      (holdsHalves = true → ∀ c ∈ text.toList, Text.half? c = none) ∧
      ∃ made, tree.ensureDirectory path.parent = (made, none) ∧
        made.write path (Text.Utf8.encode text.toList) = .ok changed := by
  rw [deliver]
  constructor
  · intro h
    split at h
    · cases h
    · next hparent =>
      split at h
      · cases h
      · next made hmade =>
        split at h
        · cases h
        · next hpath =>
          obtain ⟨hnone, hwrite⟩ := writeText_eq_none_iff.1 h
          exact ⟨hparent, hpath, hnone, made, hmade, hwrite⟩
  · rintro ⟨hparent, hpath, hnone, made, hmade, hwrite⟩
    simp only [hparent, hpath, hmade]
    exact writeText_eq_none_iff.2 ⟨hnone, hwrite⟩

/-- A text that is delivered was written at the path. -/
theorem wroteFile_of_deliver (h : deliver tree holdsHalves path text = (changed, none)) :
    Tree.WroteFile tree changed path (Text.Utf8.encode text.toList) := by
  obtain ⟨-, -, -, made, hmade, hwrite⟩ := deliver_eq_none_iff.1 h
  have hway := tree.madeOnWay_ensureDirectory path.parent
  rw [hmade] at hway
  exact Tree.MadeOnWay.wroteFile hway hwrite

/-! ### What is generated -/

/-- A run generated the client module of the service that the documents and the arguments describe:
it wrote the text of the module to the path for it in the output directory, and reported that path
and the number of operations. -/
structure IsGenerated (tree : Tree) (args : Arguments) (documents : Documents)
    (transport : Transport) (language : Language) (service : Service) (layout : Client.Layout)
    (text : String) (path : Files.Path) (report : Report) : Prop where
  /-- The documents are those that the arguments name. -/
  documents_eq : Documents.load tree args = .ok documents
  /-- The transport is that of the protocol. -/
  transport_eq : Transport.ofSpec documents.api = .ok transport
  /-- The language is the one that is asked for. -/
  language_eq : args.language = some language
  /-- The service is built from the documents. -/
  service_eq : Service.build transport args.moduleName documents.endpoints documents.api
    documents.docs (optionPairs args) language = .ok service
  /-- The layout is that for the language and the transport. -/
  layout_eq : Client.Layout.of language transport = .ok layout
  /-- The text is that of the module. -/
  text_eq : Client.render layout service = .ok text
  /-- The path is that of the module's file in the output directory. -/
  exists_directory : ∃ directory, args.output = some directory ∧
    path = directory.join (Client.fileName layout service)
  /-- The text was written at the path. -/
  wrote : Tree.WroteFile tree report.tree path (Text.Utf8.encode text.toList)
  /-- Reading the path gives the text. -/
  read_eq : report.tree.read path = .ok (Text.Utf8.encode text.toList)
  /-- The path and the number of operations are reported. -/
  stdout_eq : report.stdout = "Generated " ++ path.text ++ " (" ++
    toString (documents.api.part "operations").entries.length ++ " actions)\n"

/-- What is planned is the service that was built for the language, and the layout of its module. -/
theorem exists_build_of_plan (h : plan args documents = .ok (service, layout)) :
    ∃ transport language, Transport.ofSpec documents.api = .ok transport ∧
      args.language = some language ∧
      Service.build transport args.moduleName documents.endpoints documents.api documents.docs
        (optionPairs args) language = .ok service ∧
      Client.Layout.of language transport = .ok layout := by
  simp only [plan, bind_eq_ok_iff] at h
  obtain ⟨transport, htransport, -, -, built, hbuild, found, hlayout, h⟩ := h
  obtain ⟨rfl, rfl⟩ := Prod.mk.inj (Except.ok.inj h)
  rw [layoutOf] at hlayout
  split at hlayout
  · next language hlanguage =>
    rw [codeLanguage, hlanguage] at hbuild
    exact ⟨transport, language, htransport, hlanguage, hbuild, hlayout⟩
  · cases hlayout

/-- The module of a service has its path in the output directory, and its text. -/
theorem exists_directory_of_moduleOf (h : moduleOf args layout service = .ok (path, text)) :
    (∃ directory, args.output = some directory ∧
      path = directory.join (Client.fileName layout service)) ∧
    Client.render layout service = .ok text := by
  simp only [moduleOf, bind_eq_ok_iff] at h
  obtain ⟨found, hpath, rendered, htext, h⟩ := h
  obtain ⟨rfl, rfl⟩ := Prod.mk.inj (Except.ok.inj h)
  rw [modulePath] at hpath
  split at hpath
  · next directory hdirectory =>
    exact ⟨⟨directory, hdirectory, (Except.ok.inj hpath).symm⟩, htext⟩
  · cases hpath

/-- The service that is built has an action for each operation. -/
theorem length_actions_of_build {transport : Transport} {moduleName : String}
    {endpoints api docs options : Json} {language : Language}
    (h : Service.build transport moduleName endpoints api docs options language = .ok service) :
    service.actions.length = (api.part "operations").entries.length := by
  obtain ⟨_, _, hparts⟩ := Service.exists_isBuilt h
  exact Action.length_of_compileAll hparts.actions_eq

/-! ### How a run ends -/

/-- A run emptied the file of the client module: it opened the file, and then found that the text of
the module cannot be encoded. One of the documents has an escape for half of a surrogate pair, and
there is a half in the text. -/
structure IsEmptied (tree : Tree) (args : Arguments) (documents : Documents) (service : Service)
    (layout : Client.Layout) (text : String) (path : Files.Path) (report : Report) : Prop where
  /-- The documents are those that the arguments name. -/
  documents_eq : Documents.load tree args = .ok documents
  /-- One of them has an escape for half of a pair. -/
  holdsHalves : documents.holdsHalves = true
  /-- The service is planned. -/
  plan_eq : plan args documents = .ok (service, layout)
  /-- The path and the text are those of the module. -/
  module_eq : moduleOf args layout service = .ok (path, text)
  /-- There is a half in the text. -/
  exists_half : ∃ c ∈ text.toList, Text.half? c ≠ none
  /-- The file at the path is empty, and is the only one that was written. -/
  wrote : Tree.WroteFile tree report.tree path []

/-- A run with arguments ends in one of four ways: it is refused and changes nothing, it fails and
changes no file, it empties the file of a module, or it generates a module. -/
inductive Concludes (tree : Tree) (args : Arguments) (report : Report) : Prop
  /-- The run is refused. -/
  | refused (ending_eq : report.ending = .exit 1) (tree_eq : report.tree = tree)
  /-- The run fails. It can have made directories on the way to some path. -/
  | failed {fault : Fault} {root : String} {parts : List String}
    (ending_eq : report.ending = .fault fault) (way : Tree.MadeOnWay root parts tree report.tree)
  /-- The run empties the file of a module that cannot be encoded. -/
  | emptied {halves : Text.Halves} {documents : Documents} {service : Service}
    {layout : Client.Layout} {text : String} {path : Files.Path}
    (ending_eq : report.ending = .fault (.rejected (.unencodable halves)))
    (isEmptied : IsEmptied tree args documents service layout text path report)
  /-- The run generates a module. -/
  | generated {documents : Documents} {transport : Transport} {language : Language}
    {service : Service} {layout : Client.Layout} {text : String} {path : Files.Path}
    (ending_eq : report.ending = .exit 0)
    (isGenerated :
      IsGenerated tree args documents transport language service layout text path report)

theorem concludes_refuse (tree : Tree) (args : Arguments) (progress : String) (fault : Fault) :
    Concludes tree args (refuse tree progress fault) := by
  rw [refuse]
  split
  · exact .refused rfl rfl
  · exact .failed rfl (.refl "" [] tree)

theorem concludes_generate (hload : Documents.load tree args = .ok documents)
    (hplan : plan args documents = .ok (service, layout)) (progress : String) :
    Concludes tree args
      (generate tree args documents.holdsHalves progress service layout) := by
  rw [generate]
  split
  · exact .failed rfl (.refl "" [] tree)
  · next path text hmodule =>
    split
    · next changed fault hdeliver =>
      obtain hway | ⟨halves, hbytes, rfl, hwrote⟩ := cases_of_deliver hdeliver
      · exact .failed rfl hway
      · obtain ⟨hholds, hhalf⟩ := Text.exists_bytesOf_eq_error_iff.1 ⟨halves, hbytes⟩
        exact .emptied rfl {
          documents_eq := hload
          holdsHalves := hholds
          plan_eq := hplan
          module_eq := hmodule
          exists_half := hhalf
          wrote := hwrote }
    · next changed hdeliver =>
      obtain ⟨transport, language, htransport, hlanguage, hbuild, hlayout⟩ :=
        exists_build_of_plan hplan
      obtain ⟨hdirectory, htext⟩ := exists_directory_of_moduleOf hmodule
      have hwrote := wroteFile_of_deliver hdeliver
      exact .generated rfl {
        documents_eq := hload
        transport_eq := htransport
        language_eq := hlanguage
        service_eq := hbuild
        layout_eq := hlayout
        text_eq := htext
        exists_directory := hdirectory
        wrote := hwrote
        read_eq := hwrote.read_eq
        stdout_eq := by rw [length_actions_of_build hbuild] }

theorem concludes_runWith (tree : Tree) (args : Arguments) :
    Concludes tree args (runWith tree args) := by
  rw [runWith]
  split
  · next fault hload => exact concludes_refuse tree args "" fault
  · next documents hload =>
    dsimp only
    split
    · next fault hplan => exact concludes_refuse tree args _ fault
    · next service layout hplan => exact concludes_generate hload hplan _

/-- A run whose text is not delivered ends with the fault. -/
theorem run_of_deliver {words : List String} {fault : Fault}
    (hparse : Arguments.parse words = .ok args) (hload : Documents.load tree args = .ok documents)
    (hplan : plan args documents = .ok (service, layout))
    (hmodule : moduleOf args layout service = .ok (path, text))
    (hdeliver : deliver tree documents.holdsHalves path text = (changed, some fault)) :
    (run tree words).tree = changed ∧ (run tree words).ending = .fault fault := by
  simp only [run, hparse, runWith, hload, hplan, generate, hmodule, hdeliver, and_self]

/-! ### All runs -/

/-- A run whose arguments are not acted upon changes nothing. -/
theorem run_of_parse_error {words : List String} {stop : Stop}
    (h : Arguments.parse words = .error stop) (tree : Tree) :
    (run tree words).tree = tree ∧
      ((run tree words).ending = .exit 0 ∨ (run tree words).ending = .exit 2) := by
  cases stop with
  | help => simp only [run, h, true_and, true_or]
  | complaint text => simp only [run, h, true_and, or_true]

/-- The status that a run ends with, if it ends with one. -/
def Ending.status? : Ending → Option Nat
  | .exit status => some status
  | .fault _ => none

theorem Ending.status?_eq_some_iff {ending : Ending} {status : Nat} :
    ending.status? = some status ↔ ending = .exit status := by
  cases ending <;> simp [status?]

/-- A tree with three documents in the working directory. -/
def documentTree : Tree :=
  let file (name : String) (v : Json) : Files.Place × Files.Node :=
    ([name], .file (Text.Utf8.encode v.text.toList))
  ⟨[
    file "api" (.obj [
      ("metadata", .obj [("endpointPrefix", .str "my-items"), ("protocol", .str "json")]),
      ("operations", .obj [("GetItem", .empty)])]),
    file "docs" .empty,
    file "endpoints" (.obj [("services", .obj [("my-items", .empty)])])]⟩

/-- A tree with two more files: an API spec that gives half of a surrogate pair for the target
prefix, and a client from an earlier run. -/
def halfTree : Tree :=
  let spec := "\x7b\"metadata\": \x7b\"endpointPrefix\": \"my-items\", \"protocol\": \"json\", " ++
    "\"targetPrefix\": \"\\ud800\"\x7d\x7d"
  ⟨documentTree.entries ++ [
    (["half"], .file (Text.Utf8.encode spec.toList)),
    (["out"], .directory),
    (["out", "my_items.ex"], .file (Text.Utf8.encode "defmodule Items do".toList))]⟩

/-- The words of a run with that API spec. -/
def halfWords : List String :=
  ["Items", "--api=half", "--docs=docs", "--endpoints=endpoints", "--output=out"]

/-- The path of the module. -/
def halfPath : Files.Path := ⟨"", ["out", "my_items.ex"]⟩

/-- The line of the module with a target prefix of one character. -/
def targetPrefixLine (c : Char) : String :=
  "      target_prefix: \"" ++ String.singleton c ++ "\""

theorem mem_targetPrefixLine (c : Char) : c ∈ (targetPrefixLine c).toList := by
  unfold targetPrefixLine
  simp

/-- The run comes as far as the path and the text of the module, in which there is the half. -/
theorem exists_plan_halfTree :
    ∃ args documents service text, Arguments.parse halfWords = .ok args ∧
      Documents.load halfTree args = .ok documents ∧ documents.holdsHalves = true ∧
      plan args documents = .ok (service, ⟨.elixir, .rpc⟩) ∧
      moduleOf args ⟨.elixir, .rpc⟩ service = .ok (halfPath, text) ∧
      ∃ c ∈ text.toList, Text.half? c ≠ none := by
  have hfound : ((do
      let args ← (Arguments.parse halfWords).toOption
      let documents ← (Documents.load halfTree args).toOption
      let (service, layout) ← (plan args documents).toOption
      let path ← (modulePath args layout service).toOption
      let m ← (Elixir.Module.ofService .rpc service).toOption
      return (documents.holdsHalves, layout, path,
        decide (targetPrefixLine (Text.ofCodePoint 0xD800) ∈ m.lines)) :
        Option (Bool × Client.Layout × Files.Path × Bool))) =
      some (true, ⟨.elixir, .rpc⟩, halfPath, true) := by
    decide +kernel
  simp only [Option.bind_eq_bind, Option.bind_eq_some_iff, toOption_eq_some_iff, Option.pure_def,
    Option.some.injEq, Prod.mk.injEq] at hfound
  obtain ⟨args, hparse, documents, hload, ⟨service, _⟩, hplan, path, hpath, m, hm, hholds, rfl, rfl,
    hline⟩ := hfound
  have htext : Client.render ⟨.elixir, .rpc⟩ service = .ok m.text := by
    simp only [Client.render, hm, ok_bind, pure_eq_ok]
  refine ⟨args, documents, service, m.text, hparse, hload, hholds, hplan, ?_,
    Text.ofCodePoint 0xD800, ?_, ?_⟩
  · simp only [moduleOf, hpath, htext, ok_bind, pure_eq_ok]
  · exact Source.mem_toList_text (of_decide_eq_true hline) (mem_targetPrefixLine _)
  · have hhalf : Text.half? (Text.ofCodePoint 0xD800) = some 0xD800 :=
      Text.half?_ofCodePoint (by decide)
    simp [hhalf]

end ServiceClient.Cli
