import ServiceClient.Text.Split

/-!
# File paths

A path is kept in a normal form: the slashes it begins with, and its parts. Empty parts and single
points are left out of it, two points stay, since what they lead to depends on the files. Exactly
two slashes at the start are kept; any other number but none counts as one.
-/

namespace ServiceClient.Files

/-- A path in normal form. -/
structure Path where
  /-- Nothing for a relative path, and otherwise one slash or two. -/
  root : String
  /-- The parts between the slashes. -/
  parts : List String
  deriving DecidableEq

namespace Path

/-- The parts of a text between its slashes, without those that mean nothing. -/
def partsOf (text : String) : List String :=
  ((Text.splitOn '/' text.toList).map String.ofList).filter fun part ↦ part ≠ "" && part ≠ "."

/-- The slashes that a text begins with, as far as they count. -/
def rootOf (text : String) : String :=
  match (text.toList.takeWhile (· = '/')).length with
  | 0 => ""
  | 2 => "//"
  | _ => "/"

/-- The normal form of a path. -/
def ofText (text : String) : Path := ⟨rootOf text, partsOf text⟩

/-- The text of a path. A path with neither root nor parts is a single point. -/
def text (path : Path) : String :=
  if path.root = "" ∧ path.parts = [] then "."
  else path.root ++ String.intercalate "/" path.parts

/-- A path continued by a text, which is taken on its own if it begins with a slash. -/
def join (path : Path) (text : String) : Path :=
  if rootOf text = "" then ⟨path.root, path.parts ++ partsOf text⟩ else ofText text

/-- The path without its last part. -/
def parent (path : Path) : Path := ⟨path.root, path.parts.dropLast⟩

@[simp] theorem join_relative {text : String} (path : Path) (h : rootOf text = "") :
    path.join text = ⟨path.root, path.parts ++ partsOf text⟩ := if_pos h

end Path

end ServiceClient.Files
