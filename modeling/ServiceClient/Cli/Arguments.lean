import ServiceClient.Fault
import ServiceClient.Language
import ServiceClient.Text.Digit

/-!
# Command line arguments

The command takes one positional argument, the module name, and options. Reading the arguments has
two phases. First each word is classified: as a separator, after which every word is plain; as the
use of an option; or as plain text. An option can be abbreviated as long as no other one begins in
the same way, a value can follow it after an equals sign, and one-letter flags can be written
together, also after an equals sign. A word that looks like an option and is none is kept for a
complaint at the end.

Then the words are consumed from left to right. An option that needs a value takes the plain word
after it, the first plain word that is left over is the module name, and all others are in excess.
Help is given as soon as it is asked for. What is missing is complained about before what is in
excess.

A separator never serves as a value. Where one follows an equals sign, the option counts as used and
is left without a value; what comes of that is decided where the value is needed.
-/

namespace ServiceClient.Cli

/-- The options of the command. -/
inductive Key
  /-- Help is asked for. -/
  | help
  /-- The path of the API spec. -/
  | api
  /-- The path of the documentation spec. -/
  | docs
  /-- The path of the endpoint catalog. -/
  | endpoints
  /-- The path of the output directory. -/
  | output
  /-- The target language. -/
  | language
  /-- An option for the client. -/
  | option
  /-- Progress is to be reported. -/
  | verbose
  deriving DecidableEq

namespace Key

/-- The options with their spellings, in the order of the help. -/
def spellings : List (String × Key) := [
  ("-h", .help), ("--help", .help), ("--api", .api), ("--docs", .docs),
  ("--endpoints", .endpoints), ("--output", .output), ("--language", .language),
  ("--option", .option), ("-v", .verbose), ("--verbose", .verbose)]

/-- The option with a given spelling. -/
def ofSpelling? (spelling : String) : Option Key := spellings.lookup spelling

/-- The name of an option in complaints: its spellings. -/
def label (key : Key) : String :=
  String.intercalate "/" ((spellings.filter fun s ↦ s.2 = key).map Prod.fst)

/-- Whether an option needs a value. -/
def needsValue : Key → Bool
  | .help | .verbose => false
  | _ => true

end Key

/-- Why the arguments are not acted upon. -/
inductive Stop
  /-- Help was asked for. -/
  | help
  /-- The arguments are wrong. -/
  | complaint (text : String)
  deriving DecidableEq

/-- A complaint about an option. -/
def complain {α : Type} (key : Key) (text : String) : Except Stop α :=
  .error (.complaint ("argument " ++ key.label ++ ": " ++ text))

/-! ### Classifying words -/

/-- A word of the command line. -/
inductive Word
  /-- Plain text. -/
  | plain (text : String)
  /-- The separator after which all words are plain. -/
  | separator
  /-- An option, whether it is spelled with one letter, and a value written in the same word. -/
  | use (key : Key) (short : Bool) (attached : Option String)
  /-- A word that looks like an option and is none. -/
  | unknown (text : String)
  deriving DecidableEq

/-- The characters before the first equals sign, and those after it if there is one. -/
def cutAtEquals (word : List Char) : List Char × Option (List Char) :=
  match word.dropWhile (· ≠ '=') with
  | [] => (word, none)
  | _ :: value => (word.takeWhile (· ≠ '='), some value)

/-- Whether a spelling has one letter. -/
def isShort (spelling : String) : Bool := spelling.length = 2

/-- What a word that begins with two hyphens can be short for. -/
def completions (word : List Char) : List (String × Word) :=
  let (start, value?) := cutAtEquals word
  (Key.spellings.filter fun s ↦ start.isPrefixOf s.1.toList).map fun s ↦
    (s.1, .use s.2 (isShort s.1) (value?.map String.ofList))

/-- What a word that begins with one hyphen can be: a flag of one letter, and more letters. -/
def flags (word : List Char) : List (String × Word) :=
  (Key.spellings.filter fun s ↦ s.1.toList = word.take 2).map fun s ↦
    (s.1, .use s.2 true (some (String.ofList (word.drop 2))))

/-- Whether a word is a negative number, with or without a point. -/
def isNegativeNumber (word : List Char) : Bool :=
  let body := if word.getLast? = some '\n' then word.dropLast else word
  match body with
  | '-' :: rest =>
    match rest.dropWhile Text.isDecimalDigit with
    | [] => !rest.isEmpty
    | '.' :: places => !places.isEmpty && places.all Text.isDecimalDigit
    | _ => false
  | _ => false

/-- A word that begins with a hyphen, has another character and is no spelling of an option. -/
def classifyHyphened (word : List Char) : Except Stop Word :=
  let text := String.ofList word
  let (start, value?) := cutAtEquals word
  match value?, Key.ofSpelling? (String.ofList start) with
  | some value, some key =>
    .ok (.use key (isShort (String.ofList start)) (some (String.ofList value)))
  | _, _ =>
    match if word.take 2 = ['-', '-'] then completions word else flags word with
    | [(_, found)] => .ok found
    | [] =>
      if isNegativeNumber word ∨ word.contains ' ' then .ok (.plain text) else .ok (.unknown text)
    | several =>
      .error (.complaint ("ambiguous option: " ++ text ++ " could match " ++
        String.intercalate ", " (several.map Prod.fst)))

/-- What a word before the separator is. -/
def classify (text : String) : Except Stop Word :=
  match text.toList with
  | '-' :: rest =>
    match Key.ofSpelling? text with
    | some key => .ok (.use key (isShort text) none)
    | none => if rest.isEmpty then .ok (.plain text) else classifyHyphened ('-' :: rest)
  | _ => .ok (.plain text)

/-- The word after which all words are plain. -/
def separator : String := "--"

/-- What the words of a command line are. -/
def classifyAll : List String → Except Stop (List Word)
  | [] => .ok []
  | text :: rest =>
    if text = separator then .ok (.separator :: rest.map .plain)
    else do
      let word ← classify text
      let words ← classifyAll rest
      return word :: words

/-! ### Consuming words -/

/-- What has been read from the words so far. What is required is there once it has been read; an
option that was left without a value has none inside. -/
structure Progress where
  /-- The module name. -/
  moduleName : Option String := none
  /-- The path of the API spec. -/
  api : Option (Option Files.Path) := none
  /-- The path of the documentation spec. -/
  docs : Option (Option Files.Path) := none
  /-- The path of the endpoint catalog. -/
  endpoints : Option (Option Files.Path) := none
  /-- The path of the output directory. -/
  output : Option (Option Files.Path) := none
  /-- The target language. -/
  language : Option Language := some .elixir
  /-- The options for the client, in order. -/
  options : List (Option (String × String)) := []
  /-- Whether progress is reported. -/
  verbose : Bool := false
  /-- The words in excess. -/
  excess : List String := []

/-- The name and the value of an option for the client, which an equals sign separates. -/
def parseOption (text : String) : Outcome (String × String) :=
  match cutAtEquals text.toList with
  | (c :: name, some value) => .ok (String.ofList (c :: name), String.ofList value)
  | _ => .error (.badOption text)

/-- The supported languages as literals. -/
def languageChoices : String :=
  String.intercalate ", " (Language.supported.map fun l ↦ Text.quoted l.name)

namespace Progress

/-- Takes an option with its value. -/
def setValue (p : Progress) (key : Key) (value : String) : Except Stop Progress :=
  match key with
  | .api => .ok { p with api := some (some (.ofText value)) }
  | .docs => .ok { p with docs := some (some (.ofText value)) }
  | .endpoints => .ok { p with endpoints := some (some (.ofText value)) }
  | .output => .ok { p with output := some (some (.ofText value)) }
  | .language =>
    if Language.ofName value ∈ Language.supported then
      .ok { p with language := some (.ofName value) }
    else
      complain key
        ("invalid choice: " ++ Text.quoted value ++ " (choose from " ++ languageChoices ++ ")")
  | .option =>
    match parseOption value with
    | .ok pair => .ok { p with options := p.options ++ [some pair] }
    | .error fault => complain key (fault.message?.getD "")
  | .help | .verbose => .ok p

/-- Takes an option that is left without a value. -/
def leaveValue (p : Progress) : Key → Progress
  | .api => { p with api := some none }
  | .docs => { p with docs := some none }
  | .endpoints => { p with endpoints := some none }
  | .output => { p with output := some none }
  | .language => { p with language := none }
  | .option => { p with options := p.options ++ [none] }
  | .help | .verbose => p

/-- Takes an option that has no value. -/
def setFlag (p : Progress) (key : Key) : Except Stop Progress :=
  match key with
  | .help => .error .help
  | _ => .ok { p with verbose := true }

/-- Takes a word in excess. -/
def addExcess (p : Progress) (text : String) : Progress := { p with excess := p.excess ++ [text] }

end Progress

/-- The complaint about a value that an option has no use for. -/
def ignoredValue {α : Type} (key : Key) (value : List Char) : Except Stop α :=
  complain key ("ignored explicit argument " ++ Text.quoted (String.ofList value))

/-- A flag together with those whose letters follow it in one word. The first letter that is no flag
makes the rest of the word a value, for which the flag before it has no use. -/
def flagsTogether (key : Key) : List Char → Except Stop (List Key)
  | [] => ignoredValue key []
  | c :: rest =>
    match Key.ofSpelling? (String.ofList ['-', c]), rest with
    | none, _ => ignoredValue key (c :: rest)
    | some next, [] => .ok [key, next]
    | some next, _ => do return key :: (← flagsTogether next rest)

/-- Takes an option that is written in one word with a value or with other flags. -/
def useAttached (p : Progress) (key : Key) (short : Bool) (value : String) :
    Except Stop Progress :=
  if key.needsValue then
    if value = separator then .ok (p.leaveValue key) else p.setValue key value
  else if short then do (← flagsTogether key value.toList).foldlM Progress.setFlag p
  else ignoredValue key value.toList

/-- Consumes words from left to right. A separator goes with the module name, on either side. -/
def consume (p : Progress) : List Word → Except Stop Progress
  | [] => .ok p
  | .use key short (some attached) :: rest => do consume (← useAttached p key short attached) rest
  -- Only a plain word can be a value: one that looks like an option leaves the value missing.
  | .use key _ none :: .plain value :: rest =>
    if key.needsValue then do consume (← p.setValue key value) rest
    else do consume (← p.setFlag key) (.plain value :: rest)
  | .use key _ none :: rest =>
    if key.needsValue then complain key "expected one argument"
    else do consume (← p.setFlag key) rest
  | .unknown text :: rest => consume (p.addExcess text) rest
  -- The separator on one side of the module name is taken together with it.
  | .plain text :: .separator :: rest =>
    if p.moduleName.isSome then consume (p.addExcess text) (.separator :: rest)
    else consume { p with moduleName := some text } rest
  | .plain text :: rest =>
    if p.moduleName.isSome then consume (p.addExcess text) rest
    else consume { p with moduleName := some text } rest
  | .separator :: .plain text :: rest =>
    if p.moduleName.isSome then consume (p.addExcess separator) (.plain text :: rest)
    else consume { p with moduleName := some text } rest
  | .separator :: rest => consume (p.addExcess separator) rest

/-! ### The arguments -/

/-- The arguments of the command. An option that was left without a value has none. -/
structure Arguments where
  /-- The name of the client module. -/
  moduleName : String
  /-- The path of the API spec. -/
  api : Option Files.Path
  /-- The path of the documentation spec. -/
  docs : Option Files.Path
  /-- The path of the endpoint catalog. -/
  endpoints : Option Files.Path
  /-- The path of the output directory. -/
  output : Option Files.Path
  /-- The target language. -/
  language : Option Language
  /-- The options for the client, in order. -/
  options : List (Option (String × String))
  /-- Whether progress is reported. -/
  verbose : Bool

/-- The names of what is required and missing. -/
def Progress.missing (p : Progress) : List String :=
  (if p.moduleName.isNone then ["module_name"] else []) ++
    (if p.api.isNone then [Key.label .api] else []) ++
    (if p.docs.isNone then [Key.label .docs] else []) ++
    (if p.endpoints.isNone then [Key.label .endpoints] else []) ++
    (if p.output.isNone then [Key.label .output] else [])

/-- The arguments, once all words have been consumed. -/
def Progress.finish (p : Progress) : Except Stop Arguments :=
  match p.moduleName, p.api, p.docs, p.endpoints, p.output with
  | some moduleName, some api, some docs, some endpoints, some output =>
    if p.excess.isEmpty then
      .ok {
        moduleName, api, docs, endpoints, output
        language := p.language
        options := p.options
        verbose := p.verbose }
    else .error (.complaint ("unrecognized arguments: " ++ String.intercalate " " p.excess))
  | _, _, _, _, _ =>
    .error (.complaint
      ("the following arguments are required: " ++ String.intercalate ", " p.missing))

/-- Reads a command line, without the name of the program. -/
def Arguments.parse (words : List String) : Except Stop Arguments := do
  (← consume {} (← classifyAll words)).finish

end ServiceClient.Cli
