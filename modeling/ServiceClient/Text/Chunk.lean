import ServiceClient.Text.Word

/-!
# Chunks of a paragraph

A line may end only between two chunks of its paragraph. A chunk is a run of spaces, a run of
hyphens that serves as a dash between two words, or a word or part of a word. A word is broken after
a hyphen that stands between letters, at least two on either side, where a second hyphen may take
the place of a letter's neighbour; and it ends before a dash.

Where a chunk ends can depend on what stands before it, so the text before a place is passed along,
nearest character first. `flatten_chunks` says that chunks leave nothing out.
-/

namespace ServiceClient.Text

/-- Whether a character is one of the six ASCII blanks. -/
def isSpace (c : Char) : Bool :=
  c = ' ' || c = '\t' || c = '\n' || c = '\x0b' || c = '\x0c' || c = '\r'

/-- Whether a dash may follow a character: word characters and the marks that end words. -/
def canPrecedeDash (c : Char) : Bool :=
  isWordChar c || c = '!' || c = '"' || c = '\'' || c = '&' || c = '.' || c = ',' || c = '?'

/-- Whether a dash comes next: two hyphens or more between a character that can precede a dash and a
word character. -/
def dashNext (before after : List Char) : Bool :=
  match before with
  | [] => false
  | b :: _ =>
    canPrecedeDash b && decide (2 ≤ (after.takeWhile (· = '-')).length) &&
      match after.dropWhile (· = '-') with
      | [] => false
      | c :: _ => isWordChar c

/-- Whether the text before a hyphen allows a break after it: two letters, or a letter, a hyphen and
a letter. -/
def breakableBefore : List Char → Bool
  | a :: b :: rest =>
    isWordLetter a &&
      (isWordLetter b || (b = '-' && match rest with | [] => false | c :: _ => isWordLetter c))
  | _ => false

/-- Whether the text after a hyphen allows a break before it: two letters, with a hyphen between
them or none. -/
def breakableAfter : List Char → Bool
  | a :: '-' :: b :: _ => isWordLetter a && isWordLetter b
  | a :: b :: _ => isWordLetter a && isWordLetter b
  | _ => false

/-- The rest of a word of which at least one character has been read, and the text after it. -/
def wordRest (before : List Char) : List Char → List Char × List Char
  | [] => ([], [])
  | c :: rest =>
    if c = '-' && breakableBefore before && breakableAfter rest then ([c], rest)
    else if isSpace c || dashNext before (c :: rest) then ([], c :: rest)
    else
      let (word, after) := wordRest (c :: before) rest
      (c :: word, after)

/-- The chunk that begins with a character, and the text after it. -/
def chunkFrom (before : List Char) (c : Char) (rest : List Char) : List Char × List Char :=
  if isSpace c then (c :: rest.takeWhile isSpace, rest.dropWhile isSpace)
  else if dashNext before (c :: rest) then
    (c :: rest.takeWhile (· = '-'), rest.dropWhile (· = '-'))
  else
    let (word, after) := wordRest (c :: before) rest
    (c :: word, after)

theorem wordRest_append (before cs : List Char) :
    (wordRest before cs).1 ++ (wordRest before cs).2 = cs := by
  induction cs generalizing before with
  | nil => rfl
  | cons c rest ih =>
    unfold wordRest
    split
    · rfl
    · split
      · rfl
      · simp [ih]

/-- A chunk and the text after it are the text. -/
theorem chunkFrom_append (before : List Char) (c : Char) (rest : List Char) :
    (chunkFrom before c rest).1 ++ (chunkFrom before c rest).2 = c :: rest := by
  unfold chunkFrom
  split
  · simp
  · split
    · simp
    · simp [wordRest_append]

/-- A chunk is never empty. -/
theorem chunkFrom_ne_nil (before : List Char) (c : Char) (rest : List Char) :
    (chunkFrom before c rest).1 ≠ [] := by
  unfold chunkFrom
  split
  · simp
  · split <;> simp

theorem length_chunkFrom_lt (before : List Char) (c : Char) (rest : List Char) :
    (chunkFrom before c rest).2.length < (c :: rest).length := by
  have happ := congrArg List.length (chunkFrom_append before c rest)
  have hpos := List.length_pos_iff.2 (chunkFrom_ne_nil before c rest)
  rw [List.length_append] at happ
  omega

/-- The chunks of a text that follows some other text. -/
def chunksAfter (before : List Char) : List Char → List (List Char)
  | [] => []
  | c :: rest =>
    (chunkFrom before c rest).1 ::
      chunksAfter ((chunkFrom before c rest).1.reverse ++ before) (chunkFrom before c rest).2
termination_by cs => cs.length
decreasing_by exact length_chunkFrom_lt before c rest

/-- The chunks of a paragraph. -/
def chunks (paragraph : List Char) : List (List Char) := chunksAfter [] paragraph

/-- The chunks of a paragraph make up the paragraph. -/
theorem flatten_chunksAfter (before cs : List Char) : (chunksAfter before cs).flatten = cs := by
  fun_induction chunksAfter before cs with
  | case1 => rfl
  | case2 before c rest ih => rw [List.flatten_cons, ih, chunkFrom_append]

/-- The chunks of a paragraph make up the paragraph. -/
theorem flatten_chunks (paragraph : List Char) : (chunks paragraph).flatten = paragraph :=
  flatten_chunksAfter [] paragraph

end ServiceClient.Text
