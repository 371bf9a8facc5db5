import ServiceClient.Cli.Arguments
import ServiceClient.Cli.Help
import ServiceClient.Client
import ServiceClient.Json.Document
import ServiceClient.Service.Build

/-!
# Running the command

The command reads three documents, builds the service, writes its client module and says so. As a
function it goes from the arguments and a file tree to a report: the tree afterwards, what was
printed, and how the run ended.

What can be wrong with the documents is found before anything is written, with one exception: the
text of the module is encoded when its file is open, which has emptied the file, and it has no
encoding if it holds half of a surrogate pair. A defect of the spec or an input that is refused ends
the run with status 1 and one line of complaint; any other fault, and whatever goes wrong once the
service is built, is passed on as it is.

Texts are read and written as UTF-8, whatever the locale says. A write to an open file is complete.
-/

namespace ServiceClient.Cli

/-- How a run ends. -/
inductive Ending
  /-- With a status. -/
  | exit (status : Nat)
  /-- With a fault that the command does not report itself. -/
  | fault (fault : Fault)

/-- What a run comes to. -/
structure Report where
  /-- The files and directories afterwards. -/
  tree : Files.Tree
  /-- What was printed. -/
  stdout : String := ""
  /-- What was printed as a complaint or as progress. -/
  stderr : String := ""
  /-- How the run ended. -/
  ending : Ending

/-- A fault where a path cannot be handed to a file system: its text, which holds halves or not, has
no bytes, or it holds the null character. -/
def checkPath (holdsHalves : Bool) (path : Files.Path) : Outcome Unit :=
  match Text.stop? holdsHalves Text.isEscapedByte path.text.toList with
  | some halves => .error (.rejected (.unencodable halves))
  | none =>
    if path.text.toList.contains '\x00' then .error (.rejected .nullCharacter) else .ok ()

/-- The document at a path. Without a path there is nothing to open. -/
def load (tree : Files.Tree) : Option Files.Path → Outcome Json.Document
  | some path => do
    checkPath false path
    Json.Document.ofBytes (← (tree.read path).mapError .file)
  | none => .error .unfit

/-- The documents that a service is built from. -/
structure Documents where
  /-- The API spec. -/
  api : Json
  /-- The documentation spec. -/
  docs : Json
  /-- The endpoint catalog. -/
  endpoints : Json
  /-- Whether one of the documents has an escape for half of a surrogate pair on its own. -/
  holdsHalves : Bool

/-- The documents that the arguments name, loaded in a fixed order. -/
def Documents.load (tree : Files.Tree) (args : Arguments) : Outcome Documents := do
  let api ← Cli.load tree args.api
  let docs ← Cli.load tree args.docs
  let endpoints ← Cli.load tree args.endpoints
  return {
    api := api.value
    docs := docs.value
    endpoints := endpoints.value
    holdsHalves := api.holdsHalves || docs.holdsHalves || endpoints.holdsHalves }

/-- The options for the client as a sequence of pairs, where an empty item stands for one without a
value. -/
def optionPairs (args : Arguments) : Json :=
  .arr (args.options.map fun option? ↦
    match option? with
    | some (key, value) => .arr [.str key, .str value]
    | none => .arr [])

/-- The language that code is made for, which without a language is none that has a client. -/
def codeLanguage (args : Arguments) : Language := args.language.getD (.other "")

/-- The layout of the module that the arguments ask for. -/
def layoutOf (args : Arguments) (transport : Transport) : Outcome Client.Layout :=
  match args.language with
  | some language => Client.Layout.of language transport
  | none => .error .unfit

/-- The service that the arguments ask for, and the layout of its module. The options are looked at
first. -/
def plan (args : Arguments) (d : Documents) : Outcome (Service × Client.Layout) := do
  let transport ← Transport.ofSpec d.api
  let _ ← Options.ofJson (optionPairs args)
  let service ← Service.build transport args.moduleName d.endpoints d.api d.docs (optionPairs args)
    (codeLanguage args)
  return (service, ← layoutOf args transport)

/-! ### Progress -/

/-- A line of progress from the builder. -/
def builderLine (level text : String) : String :=
  level ++ " aws_codegen.context_builder: " ++ text ++ "\n"

/-- The line about a compiled action. -/
def compiledLine (a : Action) : String :=
  builderLine "DEBUG" ("compiled " ++ a.name ++ " -> " ++ a.functionName ++ "/" ++ toString a.arity)

/-- The lines about a service that is being built: one for each action, as far as the actions
compile, and one when all of them are there. -/
def buildLines (args : Arguments) (d : Documents) : List String :=
  let found : Outcome (List String) := do
    let transport ← Transport.ofSpec d.api
    let _ ← Options.ofJson (optionPairs args)
    let identity ← Service.identify (← Spec.metadata d.api) d.endpoints
    let operations ← (← Spec.operations d.api).fields
    -- An action is reported as soon as it is compiled, even if a later one fails.
    let (actions, fault?) :=
      Action.compileInOrder transport (codeLanguage args) d.api d.docs operations
    let built :=
      if fault?.isSome then []
      else
        match Action.arrange d.api actions with
        | .ok sorted => [builderLine "INFO" ("built " ++ transport.name ++ " context for " ++
            identity.endpointPrefix ++ " (" ++ toString sorted.length ++ " actions, global=" ++
            (Json.bool identity.isGlobal).literal ++ ")")]
        | .error _ => []
    return actions.map compiledLine ++ built
  match found with
  | .ok lines => lines
  | .error _ => []

/-- The line about a written module. -/
def writtenLine (path : Files.Path) (layout : Client.Layout) : String :=
  "INFO aws_codegen.codegen: wrote " ++ path.text ++ " from " ++ layout.name ++ "\n"

/-! ### Runs -/

/-- Whether the command reports a fault itself. -/
def isReported : Fault → Bool
  | .spec _ | .rejected _ => true
  | _ => false

/-- The report on a run that ends before anything is written. -/
def refuse (tree : Files.Tree) (progress : String) (fault : Fault) : Report :=
  if isReported fault then
    { tree
      stderr := progress ++ "error: " ++ fault.message?.getD "" ++ "\n"
      ending := .exit 1 }
  else { tree, stderr := progress, ending := .fault fault }

/-- Opens a file and writes a text to it, which holds halves or not: the tree afterwards, and the
fault if there is one. To open the file is to empty it, and that is done before the text is
encoded. -/
def writeText (tree : Files.Tree) (holdsHalves : Bool) (path : Files.Path) (text : String) :
    Files.Tree × Option Fault :=
  let (bytes, fault?) :=
    match Text.bytesOf holdsHalves text.toList with
    | .ok bytes => (bytes, none)
    | .error halves => ([], some (.rejected (.unencodable halves)))
  match tree.write path bytes with
  | .error e => (tree, some (.file e))
  | .ok written => (written, fault?)

/-- Writes a text to a file in a directory that is made if it is missing: the tree afterwards, and
the fault if there is one. The path and the text hold halves or not. -/
def deliver (tree : Files.Tree) (holdsHalves : Bool) (path : Files.Path) (text : String) :
    Files.Tree × Option Fault :=
  match checkPath holdsHalves path.parent with
  | .error fault => (tree, some fault)
  | .ok () =>
    match tree.ensureDirectory path.parent with
    | (made, some e) => (made, some (.file e))
    | (made, none) =>
      match checkPath holdsHalves path with
      | .error fault => (made, some fault)
      | .ok () => writeText made holdsHalves path text

/-- The path of the module of a service. Without an output directory there is none. -/
def modulePath (args : Arguments) (layout : Client.Layout) (service : Service) :
    Outcome Files.Path :=
  match args.output with
  | some directory => .ok (directory.join (Client.fileName layout service))
  | none => .error .unfit

/-- The path and the text of the module of a service. -/
def moduleOf (args : Arguments) (layout : Client.Layout) (service : Service) :
    Outcome (Files.Path × String) := do
  return (← modulePath args layout service, ← Client.render layout service)

/-- Writes the module of a service, built from documents that hold halves or not. -/
def generate (tree : Files.Tree) (args : Arguments) (holdsHalves : Bool) (progress : String)
    (service : Service) (layout : Client.Layout) : Report :=
  match moduleOf args layout service with
  | .error fault => { tree, stderr := progress, ending := .fault fault }
  | .ok (path, text) =>
    match deliver tree holdsHalves path text with
    | (changed, some fault) => { tree := changed, stderr := progress, ending := .fault fault }
    | (changed, none) => {
      tree := changed
      stdout :=
        "Generated " ++ path.text ++ " (" ++ toString service.actions.length ++ " actions)\n"
      stderr := progress ++ if args.verbose then writtenLine path layout else ""
      ending := .exit 0 }

/-- Runs the command with arguments that have been read. -/
def runWith (tree : Files.Tree) (args : Arguments) : Report :=
  match Documents.load tree args with
  | .error fault => refuse tree "" fault
  | .ok documents =>
    let progress := if args.verbose then String.join (buildLines args documents) else ""
    match plan args documents with
    | .error fault => refuse tree progress fault
    | .ok (service, layout) =>
      generate tree args documents.holdsHalves progress service layout

/-- Runs the command. -/
def run (tree : Files.Tree) (words : List String) : Report :=
  match Arguments.parse words with
  | .error .help => { tree, stdout := help, ending := .exit 0 }
  | .error (.complaint text) => {
    tree
    stderr := usage ++ program ++ ": error: " ++ text ++ "\n"
    ending := .exit 2 }
  | .ok args => runWith tree args

end ServiceClient.Cli
