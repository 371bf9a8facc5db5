import ServiceClient.Markup.Entity
import ServiceClient.Text.Blank
import ServiceClient.Text.Split

/-!
# Markup as plain text

Documentation is written in HTML. Its plain text is a sequence of paragraphs, in which every run of
blanks is a single space and no blank stands at either end. `plain` finds it in four steps: the
boundary between two paragraph elements becomes a blank line, the tags are removed, the character
references are replaced, and the paragraphs between the blank lines are tidied, with the empty ones
left out.

A tag is a `<`, at least one character other than `>`, and a `>`. Tags are found from left to right
and only once, so text that is no tag until another has been removed stays.
-/

namespace ServiceClient.Markup

/-- The length of the boundary between two paragraphs that some characters begin with: the end of
one, blanks, and the start of the next. -/
def boundary? : List Char → Option Nat
  | '<' :: '/' :: 'p' :: '>' :: rest =>
    match rest.dropWhile Text.isBlank with
    | '<' :: 'p' :: '>' :: _ => some ((rest.takeWhile Text.isBlank).length + 7)
    | _ => none
  | _ => none

/-- Markup with a blank line in place of each boundary between paragraphs. The number says how many
characters still belong to a boundary that has been replaced. -/
def breakParagraphsFrom : Nat → List Char → List Char
  | _, [] => []
  | skip + 1, _ :: rest => breakParagraphsFrom skip rest
  | 0, c :: rest =>
    match boundary? (c :: rest) with
    | some length => '\n' :: '\n' :: breakParagraphsFrom (length - 1) rest
    | none => c :: breakParagraphsFrom 0 rest

/-- Markup with a blank line in place of each boundary between paragraphs. -/
def breakParagraphs (cs : List Char) : List Char := breakParagraphsFrom 0 cs

/-- The length of the tag that some characters begin with. -/
def tag? (cs : List Char) : Option Nat :=
  match cs with
  | '<' :: rest =>
    let body := rest.takeWhile (· ≠ '>')
    if body.isEmpty ∨ body.length = rest.length then none else some (body.length + 2)
  | _ => none

/-- Markup without its tags. The number says how many characters still belong to a tag that is being
removed. -/
def removeTagsFrom : Nat → List Char → List Char
  | _, [] => []
  | skip + 1, _ :: rest => removeTagsFrom skip rest
  | 0, c :: rest =>
    match tag? (c :: rest) with
    | some length => removeTagsFrom (length - 1) rest
    | none => c :: removeTagsFrom 0 rest

/-- Markup without its tags. -/
def removeTags (cs : List Char) : List Char := removeTagsFrom 0 cs

/-- The tidied paragraphs of a text, without the empty ones. -/
def paragraphs (cs : List Char) : List (List Char) :=
  ((Text.splitParagraphs cs).map fun p ↦ Text.trim (Text.collapse p)).filter (!·.isEmpty)

/-- The plain text of some markup. -/
def plainChars (cs : List Char) : Except Entity.TooManyDigits (List Char) := do
  let decoded ← Entity.decode (removeTags (breakParagraphs cs))
  return Text.joinParagraphs (paragraphs decoded)

/-- The plain text of some markup. -/
def plain (markup : String) : Except Entity.TooManyDigits String :=
  (plainChars markup.toList).map String.ofList

end ServiceClient.Markup
