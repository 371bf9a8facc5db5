import ServiceClient.Text.Blank
import ServiceClient.Text.Chunk

/-!
# Filling lines

`wrap` divides a paragraph into lines of at most a given width. Each line takes chunks while they
fit. A chunk that is wider than a whole line is broken: what fits stays on the current line, up to
its last hyphen if there is one that follows something other than hyphens. A line neither begins,
unless it is the first, nor ends with a chunk of blanks, and a line that is left empty is none.

A chunk can be broken where no room is left; the empty piece then counts as the blank end of the
line, and the blank chunk before it stays.
-/

namespace ServiceClient.Text

/-- Whether a chunk holds nothing but blanks. -/
def isBlankChunk (chunk : List Char) : Bool := chunk.all isBlank

/-- The chunks that fit into some room, and the others. -/
def takeFitting : Nat → List (List Char) → List (List Char) × List (List Char)
  | _, [] => ([], [])
  | room, chunk :: rest =>
    if chunk.length ≤ room then
      let (taken, left) := takeFitting (room - chunk.length) rest
      (chunk :: taken, left)
    else ([], chunk :: rest)

/-- Where a chunk that is wider than the room is broken: after the last hyphen within the room that
follows something other than hyphens, and otherwise where the room ends. -/
def breakPoint (room : Nat) (chunk : List Char) : Nat :=
  let upToHyphen := ((chunk.take room).reverse.dropWhile (· ≠ '-')).reverse
  if room < chunk.length ∧ (upToHyphen.dropLast.any (· ≠ '-')) then upToHyphen.length else room

/-- The chunks of one line together with what a chunk wider than any line adds to it, and the chunks
that are left. -/
def lineOf (width : Nat) (all : List (List Char)) : List (List Char) × List (List Char) :=
  let (taken, left) := takeFitting width all
  match left with
  | [] => (taken, [])
  | chunk :: rest =>
    -- A chunk wider than any line fills the room that is left; what remains begins the next line.
    if width < chunk.length then
      let point := breakPoint (width - taken.flatten.length) chunk
      (taken ++ [chunk.take point], chunk.drop point :: rest)
    else (taken, left)

/-- The chunks of a line without a blank one at its end. -/
def dropBlankEnd (line : List (List Char)) : List (List Char) :=
  match line.getLast? with
  | some chunk => if isBlankChunk chunk then line.dropLast else line
  | none => line

/-- The chunks without a blank one at their start. -/
def dropBlankStart : List (List Char) → List (List Char)
  | [] => []
  | chunk :: rest => if isBlankChunk chunk then rest else chunk :: rest

/-- The work that chunks are: their characters, and one for each of them. -/
def work (chunks : List (List Char)) : Nat := chunks.flatten.length + chunks.length

/-- The lines that chunks fill. The fuel bounds the number of steps, each of which takes up a part
of the work. -/
def fill (width : Nat) : Nat → Bool → List (List Char) → List (List Char)
  | 0, _, _ => []
  | fuel + 1, isFirst, all =>
    match if isFirst then all else dropBlankStart all with
    | [] => []
    | next =>
      let (line, left) := lineOf width next
      let kept := dropBlankEnd line
      -- A line of blanks alone is no line, and the one after it still counts as the first.
      if kept.isEmpty then fill width fuel isFirst left
      else kept.flatten :: fill width fuel false left

/-- The lines of a paragraph, none wider than the given width. -/
def wrap (width : Nat) (paragraph : List Char) : List (List Char) :=
  let all := chunks paragraph
  fill width (work all) true all

end ServiceClient.Text
