import ServiceClient.Text.Quoted

/-!
# Request URI templates

A template is literal text with placeholders in braces. A placeholder names a member; a plus sign
after the name lets the value span several segments of the path. `tokenize` reads a template from
left to right, on brace boundaries, so that a name is always read whole and no name is found inside
another. `write` is its inverse: it gives back the text that tokens stand for.

The reading stops at the first brace that starts no placeholder, and the defect says why, with the
offset of that brace.
-/

namespace ServiceClient.Uri

/-- A part of a template. -/
inductive Token
  /-- Text that stands for itself. -/
  | literal (text : String)
  /-- A place for the value of the member with the given name. The code name is the variable that
  holds the value, and empty while the placeholder is unbound. -/
  | placeholder (name : String) (multiSegment : Bool) (codeName : String)
  deriving DecidableEq

/-- Whether a token is a placeholder. -/
def Token.isPlaceholder : Token → Bool
  | .literal _ => false
  | .placeholder .. => true

/-- Why a template is refused. -/
inductive TemplateDefect
  /-- A closing brace that closes nothing. -/
  | unmatched (offset : Nat)
  /-- An opening brace without a closing one. -/
  | unterminated (offset : Nat)
  /-- An opening brace before another was closed. -/
  | nested (offset : Nat)
  /-- Braces around something that is no name. -/
  | invalid (body : String)
  /-- A placeholder that no parameter is bound to. -/
  | unbound (name : String)
  deriving DecidableEq

/-- The wording of a defect, given the template as a literal. -/
def TemplateDefect.message (shown : String) : TemplateDefect → String
  | .unmatched offset => "unmatched '\x7d' at offset " ++ toString offset ++ " in " ++ shown
  | .unterminated offset =>
    "unterminated placeholder at offset " ++ toString offset ++ " in " ++ shown
  | .nested offset => "nested '\x7b' at offset " ++ toString offset ++ " in " ++ shown
  | .invalid body => "invalid placeholder \x7b" ++ body ++ "\x7d in " ++ shown
  | .unbound name =>
    "placeholder \x7b" ++ name ++ "\x7d in " ++ shown ++ " has no matching path parameter"

/-- Whether a character is neither brace. -/
def isText (c : Char) : Bool := c ≠ '\x7b' && c ≠ '\x7d'

/-- The placeholder with the given text between its braces, of which the first is at an offset. -/
def placeholder (offset : Nat) (body : List Char) : Except TemplateDefect Token :=
  if body.contains '\x7b' then .error (.nested offset)
  else
    let multiSegment := body.getLast? = some '+'
    let name := if multiSegment then body.dropLast else body
    if name.isEmpty ∨ name.contains '+' then .error (.invalid (String.ofList body))
    else .ok (.placeholder (String.ofList name) multiSegment "")

/-- The tokens of the part of a template that begins at an offset. -/
def tokensFrom (offset : Nat) (cs : List Char) : Except TemplateDefect (List Token) :=
  match cs with
  | [] => .ok []
  | c :: rest =>
    if c = '\x7d' then .error (.unmatched offset)
    else if c = '\x7b' then
      let body := rest.takeWhile (· ≠ '\x7d')
      if body.length = rest.length then .error (.unterminated offset)
      else do
        let token ← placeholder offset body
        let tokens ← tokensFrom (offset + body.length + 2) (rest.drop (body.length + 1))
        return token :: tokens
    else do
      let text := rest.takeWhile isText
      let tokens ← tokensFrom (offset + text.length + 1) (rest.drop text.length)
      return .literal (String.ofList (c :: text)) :: tokens
termination_by cs.length
decreasing_by all_goals simp only [List.length_drop, List.length_cons]; omega

/-- The tokens of a template, every placeholder unbound. -/
def tokenize (template : String) : Except TemplateDefect (List Token) :=
  tokensFrom 0 template.toList

/-- The text that a token is written as in a template. -/
def Token.write : Token → String
  | .literal text => text
  | .placeholder name multiSegment _ =>
    "\x7b" ++ name ++ (if multiSegment then "+" else "") ++ "\x7d"

/-- The template that tokens are written as. -/
def write (tokens : List Token) : String := String.join (tokens.map Token.write)

end ServiceClient.Uri
