import ServiceClient.Text.Split

/-!
# Source text

Generated source is a list of lines. A line is indented where it is put, so that an expression can
be written without knowing how deep it will stand; an empty line stays empty. What is spliced into a
line is not looked at.
-/

namespace ServiceClient.Source

/-- A number of spaces. -/
def spaces (n : Nat) : String := String.ofList (List.replicate n ' ')

/-- Lines moved to the right. -/
def indent (n : Nat) (lines : List String) : List String :=
  lines.map fun line ↦ if line = "" then line else spaces n ++ line

/-- Lines with a comma at the end of each but the last. -/
def commaSeparated : List String → List String
  | [] => []
  | [last] => [last]
  | line :: rest => (line ++ ",") :: commaSeparated rest

/-- The text of some lines, each ended by a newline. -/
def text (lines : List String) : String := String.join (lines.map (· ++ "\n"))

/-- The lines of a block of documentation, moved to the right. The first line is moved even if it is
empty. -/
def indentBlock (n : Nat) (block : String) : List String :=
  match (Text.splitOn '\n' block.toList).map String.ofList with
  | [] => []
  | first :: rest => (spaces n ++ first) :: indent n rest

end ServiceClient.Source
