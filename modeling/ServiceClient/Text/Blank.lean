import ServiceClient.Text.CharSet

/-!
# Blank characters

Whitespace in the widest sense, every character with the `White_Space` property and the four
information separators U+001C to U+001F, and the operations on text that speak of it: trimming
either end, and collapsing each run of blanks to a single space.
-/

namespace ServiceClient.Text

/-- The blank characters. -/
def blankCharacters : CharSet where
  ranges := [
    (0x9, 0xD), (0x1C, 0x20), (0x85, 0x85), (0xA0, 0xA0), (0x1680, 0x1680), (0x2000, 0x200A),
    (0x2028, 0x2029), (0x202F, 0x202F), (0x205F, 0x205F), (0x3000, 0x3000)]

/-- Whether a character is blank. -/
def isBlank (c : Char) : Bool := blankCharacters.mem c

/-- Text without the blanks at its start. -/
def trimLeft (cs : List Char) : List Char := cs.dropWhile isBlank

/-- Text without the blanks at its end. -/
def trimRight : List Char → List Char
  | [] => []
  | c :: rest =>
    match trimRight rest with
    | [] => if isBlank c then [] else [c]
    | kept => c :: kept

/-- Text without the blanks at either end. -/
def trim (cs : List Char) : List Char := trimRight (trimLeft cs)

/-- Text with each run of blanks replaced by one space. The flag says whether the character before
was blank. -/
def collapseFrom : Bool → List Char → List Char
  | _, [] => []
  | afterBlank, c :: rest =>
    if isBlank c then
      if afterBlank then collapseFrom true rest else ' ' :: collapseFrom true rest
    else c :: collapseFrom false rest

/-- Text with each run of blanks replaced by one space. -/
def collapse (cs : List Char) : List Char := collapseFrom false cs

@[simp] theorem collapse_nil : collapse [] = [] := rfl

@[simp] theorem trim_nil : trim [] = [] := rfl

end ServiceClient.Text
