/-!
# Text inside a heredoc

Elixir documentation stands in a heredoc, where a backslash escapes, a number sign with an opening
brace starts an interpolation, and three quotes end the text. `escape` takes these meanings away in
three passes: every backslash is doubled, then a backslash goes before each number sign that an
opening brace follows, then one goes before each quote of a group of three. The groups are counted
from the left, so of four quotes in a row the last stays as it is.
-/

namespace ServiceClient.Doc.Heredoc

/-- Text with every backslash doubled. -/
def escapeBackslashes : List Char → List Char
  | [] => []
  | '\\' :: rest => '\\' :: '\\' :: escapeBackslashes rest
  | c :: rest => c :: escapeBackslashes rest

/-- Text with a backslash before each start of an interpolation. -/
def escapeInterpolations : List Char → List Char
  | [] => []
  | '#' :: '\x7b' :: rest => '\\' :: '#' :: '\x7b' :: escapeInterpolations rest
  | c :: rest => c :: escapeInterpolations rest

/-- Text with a backslash before each quote of a group of three. -/
def escapeTripleQuotes : List Char → List Char
  | [] => []
  | '"' :: '"' :: '"' :: rest =>
    '\\' :: '"' :: '\\' :: '"' :: '\\' :: '"' :: escapeTripleQuotes rest
  | c :: rest => c :: escapeTripleQuotes rest

/-- Text that a heredoc takes literally. -/
def escapeChars (cs : List Char) : List Char :=
  escapeTripleQuotes (escapeInterpolations (escapeBackslashes cs))

/-- Text that a heredoc takes literally. -/
def escape (text : String) : String := String.ofList (escapeChars text.toList)

end ServiceClient.Doc.Heredoc
