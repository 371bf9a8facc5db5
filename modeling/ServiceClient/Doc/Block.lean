import ServiceClient.Doc.Heredoc
import ServiceClient.Language
import ServiceClient.Markup.Plain
import ServiceClient.Text.Wrap

/-!
# Documentation blocks

The documentation of a service or an operation as it stands in the generated module: plain text
filled to seventy-six columns, with a blank line between paragraphs. Elixir has it in a heredoc,
whose special characters are escaped; elsewhere every line is a comment.
-/

namespace ServiceClient.Doc

/-- The number of columns that a line of documentation may take. -/
def width : Nat := 76

/-- The lines of a plain text: each paragraph filled, and an empty line between neighbours. -/
def lines (text : List Char) : List (List Char) :=
  [[]].intercalate ((Text.splitParagraphs text).map (Text.wrap width))

/-- A line as a comment. An empty line keeps only the comment sign. -/
def commentLine (line : List Char) : List Char := Text.trimRight ('%' :: '%' :: ' ' :: line)

/-- Lines as they stand in a module of the given language. -/
def layOut (language : Language) (lines : List (List Char)) : List Char :=
  match language with
  | .elixir => Heredoc.escapeChars (Text.joinLines lines)
  | _ => Text.joinLines (lines.map commentLine)

/-- The block for some markup. -/
def block (language : Language) (markup : String) : Except Markup.Entity.TooManyDigits String := do
  let text ← Markup.plainChars markup.toList
  return String.ofList (layOut language (lines text))

end ServiceClient.Doc
