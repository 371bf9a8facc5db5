import ServiceClient.Proofs.Cli.Run
import ServiceClient.Proofs.Client.FileName

/-!
# Runs that share an output directory

Clients for several services can be generated into one directory, a run for each. What a run finds
is then what the runs before it left. As long as they wrote none of the documents that it reads, it
plans the same module as it does alone; the directory is there after the first run; and each module
goes to a file of its own, directly in the directory. So all orders of the runs come to the same
files, and no client is lost.

The file of a module is named after the endpoint prefix, where a hyphen becomes an underscore. Two
prefixes that differ in nothing else share a file, and the later run replaces the client of the
earlier one. A prefix with a slash makes a path of several parts, which does not lead directly into
the directory. In a series neither is the case.
-/

namespace ServiceClient.Cli

open Client (fileStem)
open Files (IsName Place Tree)

variable {tree made : Tree} {words : List String} {args : Arguments} {documents : Documents}
  {directory : Files.Path} {home place : Place} {places : List Place}

/-! ### What one run does -/

theorem run_eq_runWith (h : Arguments.parse words = .ok args) (tree : Tree) :
    run tree words = runWith tree args := by
  simp only [run, h]

/-- A run that generates a module, taken apart. -/
structure Job where
  /-- The arguments. -/
  args : Arguments
  /-- The documents that are read. -/
  documents : Documents
  /-- The service that is built. -/
  service : Service
  /-- The layout of the module. -/
  layout : Client.Layout
  /-- The path of the module. -/
  path : Files.Path
  /-- The text of the module. -/
  text : String
  /-- The tree afterwards. -/
  changed : Tree

namespace Job

/-- The name of the file of the module. -/
def fileName (job : Job) : String := Client.fileName job.layout job.service

/-- The bytes of the file of the module. -/
def bytes (job : Job) : List UInt8 := Text.Utf8.encode job.text.toList

/-- A run does a job in a tree: it reads the documents, plans the service, renders the module and
delivers the text. -/
structure IsDone (job : Job) (tree : Tree) : Prop where
  /-- The documents are read. -/
  load_eq : Documents.load tree job.args = .ok job.documents
  /-- The service is planned. -/
  plan_eq : plan job.args job.documents = .ok (job.service, job.layout)
  /-- The module is rendered. -/
  module_eq : moduleOf job.args job.layout job.service = .ok (job.path, job.text)
  /-- The text is delivered. -/
  deliver_eq :
    deliver tree job.documents.holdsHalves job.path job.text = (job.changed, none)

theorem IsDone.tree_eq {job : Job} (h : job.IsDone tree) :
    (runWith tree job.args).tree = job.changed := by
  simp only [runWith, h.load_eq, h.plan_eq, generate, h.module_eq, h.deliver_eq]

theorem IsDone.ending_eq {job : Job} (h : job.IsDone tree) :
    (runWith tree job.args).ending = .exit 0 := by
  simp only [runWith, h.load_eq, h.plan_eq, generate, h.module_eq, h.deliver_eq]

end Job

theorem refuse_ending_ne (tree : Tree) (progress : String) (fault : Fault) :
    (refuse tree progress fault).ending ≠ .exit 0 := by
  intro h
  rw [refuse] at h
  split at h
  · cases h
  · cases h

/-- A run that ends well does a job. -/
theorem exists_isDone (h : (runWith tree args).ending = .exit 0) :
    ∃ job : Job, job.args = args ∧ job.IsDone tree := by
  rw [runWith] at h
  split at h
  · next fault hload => exact absurd h (refuse_ending_ne tree "" fault)
  · next documents hload =>
    dsimp only at h
    split at h
    · next fault hplan => exact absurd h (refuse_ending_ne tree _ fault)
    · next service layout hplan =>
      rw [generate] at h
      split at h
      · cases h
      · next path text hmodule =>
        split at h
        · cases h
        · next changed hdeliver =>
          exact ⟨⟨args, documents, service, layout, path, text, changed⟩, rfl, hload, hplan,
            hmodule, hdeliver⟩

/-- A document is loaded alike where what is read at its path is the same. -/
theorem load_eq_ok_of_read {other : Tree} {path? : Option Files.Path} {document : Json.Document}
    (hread : ∀ path ∈ path?, ∀ bytes, tree.read path = .ok bytes → other.read path = .ok bytes)
    (h : load tree path? = .ok document) : load other path? = .ok document := by
  cases path? with
  | none => cases h
  | some path =>
    simp only [load, bind_eq_ok_iff, mapError_eq_ok_iff] at h ⊢
    obtain ⟨_, hcheck, bytes, hbytes, hdocument⟩ := h
    exact ⟨_, hcheck, bytes, hread path rfl bytes hbytes, hdocument⟩

/-- The paths of the documents that a run reads. -/
def documentPaths (args : Arguments) : List Files.Path :=
  [args.api, args.docs, args.endpoints].filterMap id

/-- The documents are the same where what is read at their paths is the same. -/
theorem documents_load_of_read {other : Tree}
    (hread : ∀ path ∈ documentPaths args, ∀ bytes, tree.read path = .ok bytes →
      other.read path = .ok bytes)
    (h : Documents.load tree args = .ok documents) : Documents.load other args = .ok documents := by
  have hmem {path? : Option Files.Path} (hpath : path? ∈ [args.api, args.docs, args.endpoints]) :
      ∀ path ∈ path?, ∀ bytes, tree.read path = .ok bytes → other.read path = .ok bytes := by
    rintro path rfl
    exact hread path (List.mem_filterMap.2 ⟨some path, hpath, rfl⟩)
  simp only [Documents.load, bind_eq_ok_iff] at h ⊢
  obtain ⟨api, hapi, docs, hdocs, endpoints, hendpoints, h⟩ := h
  exact ⟨api, load_eq_ok_of_read (hmem (by simp)) hapi, docs,
    load_eq_ok_of_read (hmem (by simp)) hdocs, endpoints,
    load_eq_ok_of_read (hmem (by simp)) hendpoints, h⟩

/-! ### What a run asks for -/

/-- The service that a run builds, with the layout of its module. -/
def planned? (tree : Tree) (words : List String) : Option (Service × Client.Layout) := do
  let args ← (Arguments.parse words).toOption
  let documents ← (Documents.load tree args).toOption
  (plan args documents).toOption

theorem Job.IsDone.planned?_eq {job : Job} (h : job.IsDone tree)
    (hparse : Arguments.parse words = .ok job.args) :
    planned? tree words = some (job.service, job.layout) := by
  have hload := toOption_eq_some_iff.2 h.load_eq
  have hplan := toOption_eq_some_iff.2 h.plan_eq
  simp only [planned?, toOption_eq_some_iff.2 hparse, Option.bind_eq_bind, Option.bind_some,
    hload, hplan]

/-- The endpoint prefix of the service that a run builds. -/
def endpointPrefix? (tree : Tree) (words : List String) : Option String :=
  (planned? tree words).map fun found ↦ found.1.endpointPrefix

/-- The name of the file for the module of a run. -/
def fileName? (tree : Tree) (words : List String) : Option String :=
  (planned? tree words).map fun found ↦ Client.fileName found.2 found.1

/-- The text of the module of a run. -/
def moduleText? (tree : Tree) (words : List String) : Option String := do
  let (service, layout) ← planned? tree words
  (Client.render layout service).toOption

/-- The places that the documents of a run are at. -/
def documentPlaces (tree : Tree) (words : List String) : List Place :=
  match Arguments.parse words with
  | .ok args => (documentPaths args).filterMap fun path ↦ (tree.place path).toOption
  | .error _ => []

/-- The place that a run writes its module to when it is the only one. -/
def modulePlace? (tree : Tree) (words : List String) : Option Place := do
  let args ← (Arguments.parse words).toOption
  let directory ← args.output
  let name ← fileName? tree words
  ((run tree words).tree.place (directory.join name)).toOption

/-! ### Runs one after another -/

/-- The reports on runs that are made one after another. -/
def reports (tree : Tree) : List (List String) → List Report
  | [] => []
  | words :: later => run tree words :: reports (run tree words).tree later

/-- The tree after runs that are made one after another. -/
def treeAfter (tree : Tree) (runs : List (List String)) : Tree :=
  runs.foldl (fun t words ↦ (run t words).tree) tree

/-- Runs that generate clients for several services, in one language and into one directory. -/
structure IsSeries (tree : Tree) (directory : Files.Path) (language : Language)
    (runs : List (List String)) : Prop where
  /-- Each run asks for the directory and the language, and ends well when it is the only one. -/
  alone : ∀ words ∈ runs, ∃ args, Arguments.parse words = .ok args ∧
    args.output = some directory ∧ args.language = some language ∧
    (run tree words).ending = .exit 0
  /-- No endpoint prefix has a slash. -/
  slash_notMem : ∀ words ∈ runs, ∀ name ∈ endpointPrefix? tree words, '/' ∉ name.toList
  /-- The endpoint prefixes differ, also where a hyphen counts as an underscore. -/
  pairwise_stem : runs.Pairwise fun words words' ↦
    (endpointPrefix? tree words).map fileStem ≠ (endpointPrefix? tree words').map fileStem
  /-- No document of a run is a file that one of the runs writes. -/
  apart : ∀ reader ∈ runs, ∀ place ∈ documentPlaces tree reader, ∀ writer ∈ runs,
    modulePlace? tree writer ≠ some place

/-- What the runs of a series ask for and how each ends alone can be looked up. -/
theorem exists_parse_iff {language : Language} : (∃ args, Arguments.parse words = .ok args ∧
      args.output = some directory ∧ args.language = some language ∧
      (run tree words).ending = .exit 0) ↔
    (Arguments.parse words).toOption.map (fun args ↦ (args.output, args.language)) =
        some (some directory, some language) ∧
      (run tree words).ending.status? = some 0 := by
  rw [Option.map_eq_some_iff, Ending.status?_eq_some_iff]
  constructor
  · rintro ⟨args, hparse, houtput, hlanguage, hending⟩
    exact ⟨⟨args, toOption_eq_some_iff.2 hparse, Prod.ext houtput hlanguage⟩, hending⟩
  · rintro ⟨⟨args, hparse, hasked⟩, hending⟩
    obtain ⟨houtput, hlanguage⟩ := Prod.mk.inj hasked
    exact ⟨args, toOption_eq_some_iff.1 hparse, houtput, hlanguage, hending⟩

instance {language : Language} {runs : List (List String)} :
    Decidable (IsSeries tree directory language runs) :=
  decidable_of_iff
    ((∀ words ∈ runs,
        (Arguments.parse words).toOption.map (fun args ↦ (args.output, args.language)) =
            some (some directory, some language) ∧
          (run tree words).ending.status? = some 0) ∧
      (∀ words ∈ runs, ∀ name ∈ endpointPrefix? tree words, '/' ∉ name.toList) ∧
      (runs.Pairwise fun words words' ↦
        (endpointPrefix? tree words).map fileStem ≠ (endpointPrefix? tree words').map fileStem) ∧
      ∀ reader ∈ runs, ∀ place ∈ documentPlaces tree reader, ∀ writer ∈ runs,
        modulePlace? tree writer ≠ some place)
    ⟨fun ⟨halone, hslash, hstem, hapart⟩ ↦
      ⟨fun words hwords ↦ exists_parse_iff.2 (halone words hwords), hslash, hstem, hapart⟩,
    fun h ↦ ⟨fun words hwords ↦ exists_parse_iff.1 (h.alone words hwords), h.slash_notMem,
      h.pairwise_stem, h.apart⟩⟩

/-- A run has its module in a tree: at a place directly in the output directory. -/
structure HasModule (start tree : Tree) (directory : Files.Path) (home : Place)
    (words : List String) (name text : String) : Prop where
  /-- The name is that of the file. -/
  fileName?_eq : fileName? start words = some name
  /-- The text is that of the module. -/
  moduleText?_eq : moduleText? start words = some text
  /-- The output directory is there. -/
  hasDirectory : tree.HasDirectory directory home
  /-- The path of the file leads to a place in the directory. -/
  place_eq : tree.place (directory.join name) = .ok (home ++ [name])
  /-- The text is there. -/
  node?_eq : tree.node? (home ++ [name]) = some (.file (Text.Utf8.encode text.toList))

/-! ### One run of a series -/

/-- Making sure of a directory gives a tree in which it is there. -/
structure IsOpened (tree : Tree) (directory : Files.Path) (made : Tree) (home : Place) : Prop where
  /-- The directory is made if it is missing. -/
  ensureDirectory_eq : tree.ensureDirectory directory = (made, none)
  /-- The directory is there. -/
  hasDirectory : made.HasDirectory directory home

/-- What a run of a series does when it is the only one. -/
structure IsAlone (tree : Tree) (directory : Files.Path) (words : List String) (job : Job) :
    Prop where
  /-- The words are read as the arguments. -/
  parse_eq : Arguments.parse words = .ok job.args
  /-- The arguments name the output directory. -/
  output_eq : job.args.output = some directory
  /-- The run does the job. -/
  isDone : job.IsDone tree
  /-- The module goes to a file in the output directory. -/
  path_eq : job.path = directory.join job.fileName
  /-- The name of the file is one part of a path. -/
  isName : IsName job.fileName

namespace IsAlone

variable {job : Job} (h : IsAlone tree directory words job)
include h

theorem endpointPrefix?_eq : endpointPrefix? tree words = some job.service.endpointPrefix := by
  rw [endpointPrefix?, h.isDone.planned?_eq h.parse_eq, Option.map_some]

theorem fileName?_eq : fileName? tree words = some job.fileName := by
  rw [fileName?, h.isDone.planned?_eq h.parse_eq, Option.map_some, Job.fileName]

theorem moduleText?_eq : moduleText? tree words = some job.text := by
  have hrender := (exists_directory_of_moduleOf h.isDone.module_eq).2
  simp only [moduleText?, h.isDone.planned?_eq h.parse_eq, Option.bind_eq_bind, Option.bind_some,
    toOption_eq_some_iff.2 hrender]

theorem run_eq (tree : Tree) : run tree words = runWith tree job.args :=
  run_eq_runWith h.parse_eq tree

/-- The text is delivered to a file in the output directory. -/
theorem deliver_iff {other changed : Tree} :
    deliver other job.documents.holdsHalves job.path job.text = (changed, none) ↔
      checkPath job.documents.holdsHalves directory = .ok () ∧
        checkPath job.documents.holdsHalves job.path = .ok () ∧
        (job.documents.holdsHalves = true → ∀ c ∈ job.text.toList, Text.half? c = none) ∧
        ∃ made, other.ensureDirectory directory = (made, none) ∧
          made.write job.path job.bytes = .ok changed := by
  have hparent : job.path.parent = directory := by rw [h.path_eq, h.isName.parent_join]
  rw [deliver_eq_none_iff, hparent, Job.bytes]

/-- The directory is there once the run made sure of it. -/
theorem exists_isOpened : ∃ made home, IsOpened tree directory made home := by
  obtain ⟨-, -, -, made, hmade, -⟩ := h.deliver_iff.1 h.isDone.deliver_eq
  obtain ⟨home, hhome⟩ := Tree.hasDirectory_of_ensureDirectory hmade
  exact ⟨made, home, hmade, hhome⟩

/-- The path of the module leads to a place directly in the directory. -/
theorem place_eq {other : Tree} (hhome : other.HasDirectory directory home) :
    other.place job.path = .ok (home ++ [job.fileName]) := by
  rw [h.path_eq, hhome.place_join h.isName]

variable (hopened : IsOpened tree directory made home)
include hopened

/-- The run puts its module in the directory, where no directory was. -/
theorem changed_eq : made.node? (home ++ [job.fileName]) ≠ some .directory ∧
    job.changed = made.put (home ++ [job.fileName]) (.file job.bytes) := by
  obtain ⟨-, -, -, made', hmade, hwrite⟩ := h.deliver_iff.1 h.isDone.deliver_eq
  rw [hopened.ensureDirectory_eq] at hmade
  obtain rfl := (Prod.mk.inj hmade).1
  obtain ⟨place, hplace, hfree, hchanged⟩ := Tree.exists_put_of_write hwrite
  obtain rfl := Except.ok.inj ((h.place_eq hopened.hasDirectory).symm.trans hplace)
  exact ⟨hfree, hchanged⟩

theorem modulePlace?_eq : modulePlace? tree words = some (home ++ [job.fileName]) := by
  obtain ⟨hfree, hchanged⟩ := h.changed_eq hopened
  have hhome := hopened.hasDirectory.mono (Tree.keepsDirectories_put hfree (.file job.bytes))
  rw [← hchanged, ← h.isDone.tree_eq, ← h.run_eq] at hhome
  have hplace := toOption_eq_some_iff.2 (hhome.place_join h.isName)
  simp only [modulePlace?, toOption_eq_some_iff.2 h.parse_eq, Option.bind_eq_bind,
    Option.bind_some, h.output_eq, h.fileName?_eq, hplace]

/-- In a tree where the directory is there and only files differ, but for the documents, the run
puts the same module at the same place. -/
theorem isDone_of_differInFiles {other : Tree} (hdiffer : Tree.DifferInFiles places made other)
    (hplace : home ++ [job.fileName] ∈ places)
    (hapart : ∀ place ∈ documentPlaces tree words, place ∉ places) :
    Job.IsDone { job with changed := other.put (home ++ [job.fileName]) (.file job.bytes) }
      other := by
  have hway := tree.madeOnWay_ensureDirectory directory
  rw [hopened.ensureDirectory_eq] at hway
  obtain ⟨hparent, hpath, hnone, -⟩ := h.deliver_iff.1 h.isDone.deliver_eq
  have hhome := hopened.hasDirectory.mono hdiffer.keepsDirectories
  have hwrite := Tree.write_eq_put (h.place_eq hhome) (hdiffer.isFree_after _ hplace) job.bytes
  refine ⟨documents_load_of_read (fun path hpath bytes hread ↦ ?_) h.isDone.load_eq,
    h.isDone.plan_eq, h.isDone.module_eq,
    h.deliver_iff.2 ⟨hparent, hpath, hnone, other, hhome.ensureDirectory_eq, hwrite⟩⟩
  -- The documents are files that were there before the directory was made, at none of the places.
  refine Tree.read_of_madeOnWay hway hdiffer hread fun place hplace ↦ hapart place ?_
  rw [documentPlaces, h.parse_eq]
  exact List.mem_filterMap.2 ⟨path, hpath, toOption_eq_some_iff.2 hplace⟩

end IsAlone

/-! ### A series of runs -/

/-- The place and the bytes of the module of a run. -/
def moduleFile? (tree : Tree) (words : List String) : Option (Place × List UInt8) := do
  let place ← modulePlace? tree words
  let text ← moduleText? tree words
  return (place, Text.Utf8.encode text.toList)

theorem modulePlace?_eq_of_moduleFile? {bytes : List UInt8}
    (h : moduleFile? tree words = some (place, bytes)) :
    modulePlace? tree words = some place := by
  simp only [moduleFile?, Option.bind_eq_bind, Option.bind_eq_some_iff, Option.pure_def,
    Option.some.injEq] at h
  obtain ⟨found, hplace, text, -, h⟩ := h
  rw [hplace, (Prod.mk.inj h).1]

theorem IsAlone.moduleFile?_eq {job : Job} (h : IsAlone tree directory words job)
    (hopened : IsOpened tree directory made home) :
    moduleFile? tree words = some (home ++ [job.fileName], job.bytes) := by
  simp only [moduleFile?, h.modulePlace?_eq hopened, h.moduleText?_eq, Option.bind_eq_bind,
    Option.bind_some, Option.pure_def, Job.bytes]

namespace IsSeries

variable {language : Language} {runs order : List (List String)}

theorem exists_isAlone (h : IsSeries tree directory language runs) (hwords : words ∈ runs) :
    ∃ job, IsAlone tree directory words job ∧
      ∃ transport, Client.Layout.of language transport = .ok job.layout := by
  obtain ⟨args, hparse, houtput, hlanguage, hending⟩ := h.alone words hwords
  rw [run_eq_runWith hparse] at hending
  obtain ⟨job, rfl, hdone⟩ := exists_isDone hending
  obtain ⟨⟨directory', houtput', hpath⟩, -⟩ := exists_directory_of_moduleOf hdone.module_eq
  obtain rfl := Option.some.inj (houtput.symm.trans houtput')
  obtain ⟨transport, language', -, hlanguage', -, hlayout⟩ := exists_build_of_plan hdone.plan_eq
  obtain rfl := Option.some.inj (hlanguage.symm.trans hlanguage')
  have hslash := h.slash_notMem words hwords job.service.endpointPrefix
    (by rw [endpointPrefix?, hdone.planned?_eq hparse]; rfl)
  exact ⟨job, ⟨hparse, houtput, hdone, hpath, Client.isName_fileName hslash job.layout⟩, transport,
    hlayout⟩

/-- The files of the modules have different names, since their suffixes are the same. -/
theorem nodup_fileName? (h : IsSeries tree directory language runs) :
    (runs.map (fileName? tree)).Nodup := by
  rw [List.Nodup, List.pairwise_map]
  refine h.pairwise_stem.imp_of_mem fun {words words'} hwords hwords' hstem hname ↦ hstem ?_
  obtain ⟨job, halone, _, hlayout⟩ := h.exists_isAlone hwords
  obtain ⟨job', halone', _, hlayout'⟩ := h.exists_isAlone hwords'
  rw [halone.fileName?_eq, halone'.fileName?_eq, Option.some.injEq, Job.fileName, Job.fileName,
    Client.fileName_eq_iff hlayout hlayout'] at hname
  rw [halone.endpointPrefix?_eq, halone'.endpointPrefix?_eq, Option.map_some, Option.map_some,
    hname]

variable (h : IsSeries tree directory language runs) (hopened : IsOpened tree directory made home)
include h hopened

/-- The places of the modules differ. -/
theorem nodup_modulePlace? : (runs.filterMap (modulePlace? tree)).Nodup := by
  rw [List.Nodup, List.pairwise_filterMap]
  have hnames := h.nodup_fileName?
  rw [List.Nodup, List.pairwise_map] at hnames
  refine hnames.imp_of_mem fun {words words'} hwords hwords' hne place hplace place' hplace' ↦ ?_
  obtain ⟨job, halone, -⟩ := h.exists_isAlone hwords
  obtain ⟨job', halone', -⟩ := h.exists_isAlone hwords'
  rw [halone.modulePlace?_eq hopened, Option.some.injEq] at hplace
  rw [halone'.modulePlace?_eq hopened, Option.some.injEq] at hplace'
  rw [halone.fileName?_eq, halone'.fileName?_eq] at hne
  rintro rfl
  have hlast := List.append_cancel_left (hplace.trans hplace'.symm)
  exact hne (congrArg some (List.cons.inj hlast).1)

/-- No directory is where the modules go. -/
theorem isFree : made.IsFree (runs.filterMap (modulePlace? tree)) := by
  intro place hplace
  obtain ⟨words, hwords, hplace⟩ := List.mem_filterMap.1 hplace
  obtain ⟨job, halone, -⟩ := h.exists_isAlone hwords
  rw [halone.modulePlace?_eq hopened, Option.some.injEq] at hplace
  exact hplace ▸ (halone.changed_eq hopened).1

/-- The places of the files are those of the modules. -/
theorem map_moduleFile? (hsub : ∀ words ∈ order, words ∈ runs) :
    (order.filterMap (moduleFile? tree)).map Prod.fst = order.filterMap (modulePlace? tree) := by
  rw [List.map_filterMap]
  refine List.filterMap_congr fun words hwords ↦ ?_
  obtain ⟨job, halone, -⟩ := h.exists_isAlone (hsub words hwords)
  rw [halone.moduleFile?_eq hopened, halone.modulePlace?_eq hopened, Option.map_some]

/-- The first run puts its module in the directory that it makes sure of. -/
theorem exists_put_of_first (hwords : words ∈ runs) :
    ∃ place bytes, moduleFile? tree words = some (place, bytes) ∧
      (run tree words).tree = made.put place (.file bytes) ∧
      (run tree words).ending = .exit 0 := by
  obtain ⟨job, halone, -⟩ := h.exists_isAlone hwords
  refine ⟨_, _, halone.moduleFile?_eq hopened, ?_, ?_⟩
  · rw [halone.run_eq, halone.isDone.tree_eq, (halone.changed_eq hopened).2]
  · rw [halone.run_eq, halone.isDone.ending_eq]

/-- A later run puts its module in the directory that is there. -/
theorem exists_put_of_later (hwords : words ∈ runs) {other : Tree}
    (hdiffer : Tree.DifferInFiles (runs.filterMap (modulePlace? tree)) made other) :
    ∃ place bytes, moduleFile? tree words = some (place, bytes) ∧
      (run other words).tree = other.put place (.file bytes) ∧
      (run other words).ending = .exit 0 := by
  obtain ⟨job, halone, -⟩ := h.exists_isAlone hwords
  have hplace := List.mem_filterMap.2 ⟨words, hwords, halone.modulePlace?_eq hopened⟩
  have hdone := halone.isDone_of_differInFiles hopened hdiffer hplace fun place hread hmem ↦ by
    obtain ⟨writer, hwriter, hwrite⟩ := List.mem_filterMap.1 hmem
    exact h.apart words hwords place hread writer hwriter hwrite
  refine ⟨_, _, halone.moduleFile?_eq hopened, ?_, ?_⟩
  · rw [halone.run_eq, hdone.tree_eq]
  · rw [halone.run_eq, hdone.ending_eq]

/-- Runs that find the directory there put their modules in it, one after another. The induction is
on the runs; each leaves a tree that differs in the files of modules alone. -/
theorem treeAfter_of_differInFiles (hsub : ∀ words ∈ order, words ∈ runs) {other : Tree}
    (hdiffer : Tree.DifferInFiles (runs.filterMap (modulePlace? tree)) made other) :
    treeAfter other order = other.putAll (order.filterMap (moduleFile? tree)) ∧
      ∀ report ∈ reports other order, report.ending = .exit 0 := by
  induction order generalizing other with
  | nil => exact ⟨rfl, nofun⟩
  | cons words later ih =>
    obtain ⟨hwords, hlater⟩ := List.forall_mem_cons.1 hsub
    obtain ⟨place, bytes, hfile, htree, hending⟩ := h.exists_put_of_later hopened hwords hdiffer
    have hplace := List.mem_filterMap.2 ⟨words, hwords, modulePlace?_eq_of_moduleFile? hfile⟩
    obtain ⟨hafter, hreports⟩ := ih hlater (hdiffer.put hplace bytes)
    rw [List.filterMap_cons_some hfile, treeAfter, List.foldl_cons, htree]
    rw [reports, htree]
    exact ⟨hafter, List.forall_mem_cons.2 ⟨hending, hreports⟩⟩

/-- After all runs, in whatever order, the directory is there with all modules in it. -/
theorem treeAfter_eq (hne : order ≠ []) (hsub : ∀ words ∈ order, words ∈ runs) :
    treeAfter tree order = made.putAll (order.filterMap (moduleFile? tree)) ∧
      ∀ report ∈ reports tree order, report.ending = .exit 0 := by
  cases order with
  | nil => exact absurd rfl hne
  | cons words later =>
    -- Only the first run can find the directory missing; all others come to a tree that has it.
    obtain ⟨hwords, hlater⟩ := List.forall_mem_cons.1 hsub
    obtain ⟨place, bytes, hfile, htree, hending⟩ := h.exists_put_of_first hopened hwords
    have hplace := List.mem_filterMap.2 ⟨words, hwords, modulePlace?_eq_of_moduleFile? hfile⟩
    have hdiffer := (Tree.DifferInFiles.refl (h.isFree hopened)).put hplace bytes
    obtain ⟨hafter, hreports⟩ := h.treeAfter_of_differInFiles hopened hlater hdiffer
    rw [List.filterMap_cons_some hfile, treeAfter, List.foldl_cons, htree]
    rw [reports, htree]
    exact ⟨hafter, List.forall_mem_cons.2 ⟨hending, hreports⟩⟩

/-- The files of all modules can be put in the directory, and in any order. -/
theorem isFree_nodup_of_perm (horder : order.Perm runs) :
    made.IsFree ((order.filterMap (moduleFile? tree)).map Prod.fst) ∧
      ((order.filterMap (moduleFile? tree)).map Prod.fst).Nodup := by
  have hperm := horder.filterMap (modulePlace? tree)
  rw [h.map_moduleFile? hopened fun words hwords ↦ horder.mem_iff.1 hwords]
  exact ⟨fun place hplace ↦ h.isFree hopened place (hperm.mem_iff.1 hplace),
    hperm.nodup_iff.2 (h.nodup_modulePlace? hopened)⟩

/-- A run has its module in the tree where all files have been put. -/
theorem exists_hasModule (hwords : words ∈ runs) (horder : order.Perm runs) :
    ∃ name text, HasModule tree (made.putAll (order.filterMap (moduleFile? tree))) directory home
      words name text := by
  obtain ⟨job, halone, -⟩ := h.exists_isAlone hwords
  obtain ⟨hfree, hnodup⟩ := h.isFree_nodup_of_perm hopened horder
  have hmem := List.mem_filterMap.2
    ⟨words, horder.mem_iff.2 hwords, halone.moduleFile?_eq hopened⟩
  have hhome := hopened.hasDirectory.mono (Tree.keepsDirectories_putAll hfree)
  exact ⟨_, job.text, halone.fileName?_eq, halone.moduleText?_eq, hhome,
    hhome.place_join halone.isName, Tree.node?_putAll_of_mem hfree hnodup hmem⟩

end IsSeries

/-- A series of runs loses no client. In whatever order the runs are made, each of them ends well,
the files and directories afterwards are the same, and each run has its module in a file of its own,
directly in the output directory. -/
theorem series_loses_no_client {language : Language} {runs : List (List String)}
    (h : IsSeries tree directory language runs) :
    (runs.map (fileName? tree)).Nodup ∧ ∃ home, ∀ order, order.Perm runs →
      (∀ report ∈ reports tree order, report.ending = .exit 0) ∧
      (∀ place, (treeAfter tree order).node? place = (treeAfter tree runs).node? place) ∧
      ∀ words ∈ runs, ∃ name text,
        HasModule tree (treeAfter tree order) directory home words name text := by
  refine ⟨h.nodup_fileName?, ?_⟩
  cases runs with
  | nil =>
    -- Without runs no directory is made, and any place will do for it.
    refine ⟨[], fun order horder ↦ ?_⟩
    obtain rfl := List.perm_nil.1 horder
    exact ⟨nofun, fun _ ↦ rfl, nofun⟩
  | cons first later =>
    obtain ⟨job, halone, -⟩ := h.exists_isAlone List.mem_cons_self
    obtain ⟨made, home, hopened⟩ := halone.exists_isOpened
    refine ⟨home, fun order horder ↦ ?_⟩
    have hne : order ≠ [] := by
      rintro rfl
      exact List.cons_ne_nil first later (List.nil_perm.1 horder)
    obtain ⟨hafter, hreports⟩ := h.treeAfter_eq hopened hne fun words ↦ horder.mem_iff.1
    obtain ⟨hafter', -⟩ := h.treeAfter_eq hopened (List.cons_ne_nil first later) fun _ ↦ id
    obtain ⟨hfree, hnodup⟩ := h.isFree_nodup_of_perm hopened (.refl (first :: later))
    rw [hafter, hafter']
    exact ⟨hreports,
      Tree.node?_putAll_perm hfree hnodup (horder.filterMap (moduleFile? tree)),
      fun words hwords ↦ h.exists_hasModule hopened hwords horder⟩

/-- A tree with the specs of four services, whose endpoint prefixes are different. -/
def servicesTree : Tree :=
  let file (name : String) (v : Json) : Place × Files.Node :=
    ([name], .file (Text.Utf8.encode v.text.toList))
  let spec (name : String) : Json := .obj [
    ("metadata", .obj [("endpointPrefix", .str name), ("protocol", .str "json")]),
    ("operations", .obj [("GetItem", .empty)])]
  ⟨[
    file "items" (spec "my-items"), file "orders" (spec "my-orders"),
    file "things" (spec "my_items"), file "parts" (spec "my/items"), file "docs" .empty,
    file "endpoints" (.obj [("services", .obj [
      ("my-items", .empty), ("my-orders", .empty), ("my_items", .empty), ("my/items", .empty)])])]⟩

/-- The words of a run for one of these services. -/
def wordsFor (moduleName spec : String) : List String :=
  [moduleName, "--api=" ++ spec, "--docs=docs", "--endpoints=endpoints", "--output=out"]

/-- The clients for two of these services are generated in either order. -/
theorem series_loses_no_client_items_orders :
    let runs := [wordsFor "Items" "items", wordsFor "Orders" "orders"]
    IsSeries servicesTree ⟨"", ["out"]⟩ .elixir runs ∧
      ∃ home, ∀ words ∈ runs, ∃ name text,
        HasModule servicesTree (treeAfter servicesTree runs.reverse) ⟨"", ["out"]⟩ home words name
          text := by
  intro runs
  have hseries : IsSeries servicesTree ⟨"", ["out"]⟩ .elixir runs := by decide +kernel
  obtain ⟨-, home, hall⟩ := series_loses_no_client hseries
  exact ⟨hseries, home, (hall runs.reverse (List.reverse_perm runs)).2.2⟩

/-- Without the conditions on endpoint prefixes a client can be lost, and can be put elsewhere. The
three runs end well alone, their prefixes differ and none of them writes a document. But there is
one file in the output directory after the first two, and none after the third, which writes to a
directory below. -/
theorem series_can_lose_client :
    let first := wordsFor "Items" "items"
    let second := wordsFor "Things" "things"
    let third := wordsFor "Parts" "parts"
    let places (runs : List (List String)) : List Place :=
      (treeAfter servicesTree runs).entries.map Prod.fst
    (∀ words ∈ [first, second, third], ((Arguments.parse words).toOption.map fun args ↦
        (args.output, args.language)) = some (some ⟨"", ["out"]⟩, some .elixir) ∧
      (run servicesTree words).ending.status? = some 0) ∧
    [first, second, third].map (endpointPrefix? servicesTree) =
      [some "my-items", some "my_items", some "my/items"] ∧
    [first, second, third].flatMap (documentPlaces servicesTree) =
      [["items"], ["docs"], ["endpoints"], ["things"], ["docs"], ["endpoints"],
        ["parts"], ["docs"], ["endpoints"]] ∧
    [first, second, third].map (modulePlace? servicesTree) =
      [some ["out", "my_items.ex"], some ["out", "my_items.ex"],
        some ["out", "my", "items.ex"]] ∧
    places [first, second] = places [] ++ [["out"], ["out", "my_items.ex"]] ∧
    places [third] = places [] ++ [["out"], ["out", "my"], ["out", "my", "items.ex"]] := by
  decide +kernel

end ServiceClient.Cli
