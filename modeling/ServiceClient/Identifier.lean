import ServiceClient.Language
import ServiceClient.Text.Ascii
import ServiceClient.Text.Blank
import ServiceClient.Text.Digit
import ServiceClient.Text.Upper

/-!
# Identifiers

The names of operations and members, which are written in every style, become identifiers of the
target language. `snakeCase` finds the words of a name in six passes over its characters, each of
which is a function of its own:

* `breakAcronyms` cuts a run of capitals before its last one when a small letter follows;
* `breakWords` cuts between a small letter or a digit and a capital;
* `unifySeparators` turns points, hyphens and blanks into underscores;
* `keepNameChars` deletes what is no ASCII letter, digit or underscore;
* `mergeUnderscores` leaves one underscore of several in a row;
* `trimUnderscores` removes the underscores at both ends.

The result is in small letters. Functions are named in snake case in both languages. Parameters are
named in snake case too, except in Erlang, where a variable begins with a capital; a name that the
generated code uses itself, or that is a reserved word, gets a suffix.
-/

namespace ServiceClient.Identifier

open ServiceClient.Text (isCapital isSmall isDigit toSmall)

/-- A run of capitals with an underscore before the last, if it has at least two. -/
def breakRun (run : List Char) : List Char :=
  match run.reverse with
  | last :: previous :: first => (previous :: first).reverse ++ ['_', last]
  | _ => run

/-- Text with an underscore before the last capital of each run that a small letter follows. The
run of capitals that has just been read is given first. -/
def breakAcronymsAfter (run : List Char) : List Char → List Char
  | [] => run
  | c :: rest =>
    if isCapital c then breakAcronymsAfter (run ++ [c]) rest
    else if isSmall c then breakRun run ++ c :: breakAcronymsAfter [] rest
    else run ++ c :: breakAcronymsAfter [] rest

/-- Text with an underscore before the last capital of each run that a small letter follows. -/
def breakAcronyms (cs : List Char) : List Char := breakAcronymsAfter [] cs

/-- Text with an underscore between a small letter, or a digit of any script, and a capital that
follows it. -/
def breakWords : List Char → List Char
  | [] => []
  | c :: rest =>
    match rest with
    | [] => [c]
    | next :: _ =>
      if (isSmall c || Text.isDecimalDigit c) && isCapital next then c :: '_' :: breakWords rest
      else c :: breakWords rest

/-- Text with underscores for points, hyphens and blanks. -/
def unifySeparators (cs : List Char) : List Char :=
  cs.map fun c ↦ if c = '.' ∨ c = '-' ∨ Text.isBlank c then '_' else c

/-- Whether a character may stand in an identifier. -/
def isNameChar (c : Char) : Bool := isCapital c || isSmall c || isDigit c || c = '_'

/-- Text without the characters that may not stand in an identifier. -/
def keepNameChars (cs : List Char) : List Char := cs.filter isNameChar

/-- Text with one underscore in place of several in a row. -/
def mergeUnderscores : List Char → List Char
  | [] => []
  | c :: rest =>
    if c = '_' ∧ rest.head? = some '_' then mergeUnderscores rest else c :: mergeUnderscores rest

/-- Text without the underscores at its ends. -/
def trimUnderscores (cs : List Char) : List Char :=
  ((cs.dropWhile (· = '_')).reverse.dropWhile (· = '_')).reverse

/-- The characters of a name in snake case. -/
def snakeChars (cs : List Char) : List Char :=
  (trimUnderscores (mergeUnderscores (keepNameChars (unifySeparators
    (breakWords (breakAcronyms cs)))))).map toSmall

/-- A name in snake case. -/
def snakeCase (name : String) : String := String.ofList (snakeChars name.toList)

/-- A name with its first character in upper case. -/
def upcaseFirst (name : String) : String := String.ofList (Text.upcaseFirst name.toList)

/-- The names that a function body binds in Elixir, and the reserved words of that language. -/
def reservedInElixir : List String := [
  "client", "input", "options", "url_path", "headers", "query_params",
  "after", "and", "catch", "do", "else", "end", "false", "fn", "in", "nil", "not", "or", "rescue",
  "true", "when"]

/-- The names that a function body binds in Erlang. -/
def reservedInErlang : List String := [
  "Client", "Input", "Input0", "Options", "Path", "Headers", "Headers0", "HeadersMapping", "H", "V"]

/-- The names that a parameter may not have. -/
def reserved : Language → List String
  | .erlang => reservedInErlang
  | _ => reservedInElixir

/-- The identifier of a parameter before reserved names are avoided. -/
def base : Language → String → String
  | .erlang, name => upcaseFirst name
  | _, name => snakeCase name

/-- What is added to a reserved name. -/
def suffix : Language → String
  | .erlang => "Param"
  | _ => "_param"

/-- The identifier of the parameter that stands for a member. -/
def ofName (language : Language) (name : String) : String :=
  let ident := base language name
  if ident ∈ reserved language then ident ++ suffix language else ident

end ServiceClient.Identifier
