import ServiceClient.Language
import ServiceClient.Parameter
import ServiceClient.Uri.Percent

/-!
# Paths

A path is a template whose placeholders are bound to variables. It can be evaluated, given the
values of the variables, and written as source of the target language, where the same evaluation
happens when the client runs: every placeholder becomes a call that encodes the value of its
variable.

A placeholder is bound to the last parameter whose location name is the placeholder's. All that
binding asks of the parameters is what the placeholders look up.
-/

namespace ServiceClient.Uri

/-- A request path whose placeholders are bound to variables. -/
structure Path where
  /-- The parts of the path. -/
  tokens : List Token
  deriving DecidableEq

namespace Path

/-- Whether a parameter is the one that a placeholder names. -/
def isNamed (name : String) (p : Parameter) : Bool :=
  match p.locationName with
  | .str s => s = name
  | _ => false

/-- The variable that a placeholder stands for. -/
def codeName? (parameters : List Parameter) (name : String) : Option String :=
  (parameters.reverse.find? (isNamed name)).map Parameter.codeName

/-- A token with its placeholder bound. -/
def bindToken (parameters : List Parameter) : Token → Except TemplateDefect Token
  | .literal text => .ok (.literal text)
  | .placeholder name multiSegment _ =>
    match codeName? parameters name with
    | some codeName => .ok (.placeholder name multiSegment codeName)
    | none => .error (.unbound name)

/-- The path of some tokens, whose placeholders are bound from left to right. -/
def bind (tokens : List Token) (parameters : List Parameter) : Except TemplateDefect Path := do
  return ⟨← tokens.mapM (bindToken parameters)⟩

/-- The path of a template, which is read to its end before the first placeholder is bound. -/
def ofTemplate (template : String) (parameters : List Parameter) : Except TemplateDefect Path := do
  bind (← tokenize template) parameters

/-- The fault that a defect of a template is. -/
def refuse (shown : String) (defect : TemplateDefect) : Fault :=
  .spec { defect := .template defect shown }

/-- The text that an array stands for in place of a template, whose items are its characters. -/
def pieces (shown : String) (offset : Nat) : List Json → Outcome (List Json)
  | [] => .ok []
  | item :: rest =>
    match item with
    | .str "\x7d" => .error (refuse shown (.unmatched offset))
    | .str "\x7b" => .error .wanting
    | _ => do return item :: (← pieces shown (offset + 1) rest)

/-- The text of a piece. -/
def pieceText : Json → Outcome String
  | .str s => .ok s
  | _ => .error .unfit

/-- The tokens of the template that a value is. A template is a string; an array or an object can
stand in for one as long as no placeholder is looked for in it. -/
def readTokens (template : Json) : Outcome (List Token) := do
  match template with
  | .str text => (tokenize text).mapError (refuse (Text.quoted text))
  | .arr [] => return []
  | .arr items =>
    let texts ← (← pieces template.literal 0 items).mapM pieceText
    return [.literal (String.join texts)]
  | .obj [] => return []
  | .obj _ => throw (.missingKey "0")
  | _ => throw .unfit

/-- The path that a value describes. -/
def compile (requestUri : Json) (parameters : List Parameter) : Outcome Path := do
  -- Every parameter has to be fit to be looked up, even if no placeholder asks for it.
  let _ ← parameters.mapM fun p ↦ p.locationName.key?
  let tokens ← readTokens requestUri
  (bind tokens parameters).mapError (refuse requestUri.literal)

/-- The placeholders of a path. -/
def placeholders (path : Path) : List Token := path.tokens.filter Token.isPlaceholder

/-- The text of a token, given the values of the variables. A variable without a value is named. -/
def renderToken (values : String → Option String) : Token → Except String String
  | .literal text => .ok text
  | .placeholder _ multiSegment codeName =>
    match values codeName with
    | some value => .ok (Percent.encode multiSegment value)
    | none => .error codeName

/-- The text of a path, given the values of the variables. -/
def render (path : Path) (values : String → Option String) : Except String String := do
  return String.join (← path.tokens.mapM (renderToken values))

/-- The text of a path, given an object with the values of the variables. Any value can be
displayed. -/
def renderFrom (path : Path) (values : Json) : Outcome String :=
  match values with
  | .obj fields =>
    (path.render fun name ↦ (fields.lookup name).map Json.display).mapError fun name ↦
      .missingKey (Text.quoted name)
  | _ =>
    if path.placeholders.isEmpty then
      (path.render fun _ ↦ none).mapError fun _ ↦ .unfit
    else .error .unfit

/-- The arguments of the call that encodes a variable. -/
def callArguments (multiSegment : Bool) (codeName : String) : String :=
  codeName ++ if multiSegment then ", true" else ""

/-- A token as source, for the inside of a string literal. Elixir interpolates the call that encodes
the variable; elsewhere the call stands between two literals. -/
def sourceToken (language : Language) : Token → String
  | .literal text => text
  | .placeholder _ multiSegment codeName =>
    match language with
    | .elixir => "#\x7bAWS.Util.encode_uri(" ++ callArguments multiSegment codeName ++ ")\x7d"
    | _ => "\", aws_util:encode_uri(" ++ callArguments multiSegment codeName ++ "), \""

/-- A path as source, for the inside of a string literal. -/
def source (path : Path) (language : Language) : String :=
  String.join (path.tokens.map (sourceToken language))

end Path

end ServiceClient.Uri
