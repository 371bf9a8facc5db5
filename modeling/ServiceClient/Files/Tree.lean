import ServiceClient.Files.Path
import ServiceClient.Text.Quoted

/-!
# File trees

The files and directories that the program works on, as a list of places with what is there. A place
is a sequence of names that leads from the working directory down; what lies above it, which a
leading pair of points reaches, is only known to be directories. Absolute places begin with a slash
as their first name; the root is a directory, above which there is nothing, and what lies below it
exists only as far as it is listed.

A tree has no links and no special files, and nobody is denied anything: permissions, quotas and
limits on the length of names are left out. Names are texts, so two names are one only if their
texts are, also where a file system would compare bytes.

An operation that fails answers with the error that a file system reports, whose text names the path
it was asked for. Only making several directories can fail halfway; it answers with the tree as
well.
-/

namespace ServiceClient.Files

/-- Why an operation on files fails. -/
inductive Reason
  /-- A part of the path does not exist. -/
  | missing
  /-- There is something at the path already. -/
  | occupied
  /-- A part of the path that should be a directory is a file. -/
  | notDirectory
  /-- The path is a directory. -/
  | directory
  deriving DecidableEq

/-- A failed operation: the reason, and the text of the path. -/
structure Error where
  /-- Why it fails. -/
  reason : Reason
  /-- The path that was asked for. -/
  path : String
  deriving DecidableEq

/-- The wording of an error. -/
def Error.message (e : Error) : String :=
  let cause :=
    match e.reason with
    | .missing => "[Errno 2] No such file or directory: "
    | .occupied => "[Errno 17] File exists: "
    | .notDirectory => "[Errno 20] Not a directory: "
    | .directory => "[Errno 21] Is a directory: "
  cause ++ Text.quoted e.path

/-- What can be at a place. -/
inductive Node
  /-- A directory. -/
  | directory
  /-- A file with its bytes. -/
  | file (bytes : List UInt8)
  deriving DecidableEq

/-- The names that lead to a place. -/
abbrev Place := List String

/-- Files and directories by place. -/
structure Tree where
  /-- The places that are taken, with what is there. -/
  entries : List (Place × Node)
  deriving DecidableEq

namespace Tree

/-- The tree with nothing in it. -/
def empty : Tree := ⟨[]⟩

/-- Whether a place is the working directory or lies above it. -/
def isAbove (place : Place) : Bool := place.all (· = "..")

/-- The place that absolute paths start from. -/
def root : Place := ["/"]

/-- Whether a place is a directory whatever a tree lists. -/
def isStanding (place : Place) : Bool := isAbove place || place = root

/-- What is at a place. -/
def node? (tree : Tree) (place : Place) : Option Node :=
  if isStanding place then some .directory else tree.entries.lookup place

/-- The tree with something put at a place. -/
def put (tree : Tree) (place : Place) (node : Node) : Tree :=
  if (tree.entries.lookup place).isSome then
    ⟨tree.entries.map fun entry ↦ if entry.1 = place then (place, node) else entry⟩
  else ⟨tree.entries ++ [(place, node)]⟩

/-- The place that a name leads to from a directory. -/
def step (place : Place) (name : String) : Place :=
  if name = ".." then
    if isAbove place then place ++ [".."] else if place = root then root else place.dropLast
  else place ++ [name]

/-- The place that names lead to, where each but the last has to lead to a directory. -/
def walk (tree : Tree) (start : Place) : List String → Except Reason Place
  | [] => .ok start
  | [name] => .ok (step start name)
  | name :: rest =>
    let place := step start name
    match tree.node? place with
    | some .directory => walk tree place rest
    | some (.file _) => .error .notDirectory
    | none => .error .missing

/-- The place that a path starts from. -/
def origin (path : Path) : Place := if path.root = "" then [] else root

/-- The place that a path leads to. -/
def place (tree : Tree) (path : Path) : Except Reason Place := tree.walk (origin path) path.parts

/-- Whether there is a directory at a path. -/
def isDirectory (tree : Tree) (path : Path) : Bool :=
  match tree.place path with
  | .ok p => decide (tree.node? p = some .directory)
  | .error _ => false

/-- The bytes of the file at a path. -/
def read (tree : Tree) (path : Path) : Except Error (List UInt8) :=
  match tree.place path with
  | .error reason => .error ⟨reason, path.text⟩
  | .ok p =>
    match tree.node? p with
    | some (.file bytes) => .ok bytes
    | some .directory => .error ⟨.directory, path.text⟩
    | none => .error ⟨.missing, path.text⟩

/-- The tree with a file at a path, new or in place of an older one. -/
def write (tree : Tree) (path : Path) (bytes : List UInt8) : Except Error Tree :=
  match tree.place path with
  | .error reason => .error ⟨reason, path.text⟩
  | .ok p =>
    match tree.node? p with
    | some .directory => .error ⟨.directory, path.text⟩
    | _ => .ok (tree.put p (.file bytes))

/-- The tree with a new directory at a path, if the directory above exists. -/
def makeDirectory (tree : Tree) (path : Path) : Except Reason Tree :=
  match tree.place path with
  | .error reason => .error reason
  | .ok p =>
    match tree.node? p with
    | some _ => .error .occupied
    | none => .ok (tree.put p .directory)

/-- What making a directory comes to where one that is there already serves as well: the tree, and
an error if there is one. -/
def settle (tree : Tree) (path : Path) : Except Reason Tree → Tree × Option Error
  | .ok made => (made, none)
  | .error .missing => (tree, some ⟨.missing, path.text⟩)
  | .error reason =>
    if tree.isDirectory path then (tree, none) else (tree, some ⟨reason, path.text⟩)

/-- The tree with a directory at a path that is given by its parts, the last first, and an error if
there is one. The directories above are made where the path does not lead through existing ones, and
they stay when a later step fails. -/
def makeDirectories (tree : Tree) (root : String) : List String → Tree × Option Error
  | [] => tree.settle ⟨root, []⟩ (tree.makeDirectory ⟨root, []⟩)
  | name :: above =>
    let path : Path := ⟨root, (name :: above).reverse⟩
    match tree.makeDirectory path with
    -- The directory above is made first, and it stays even if this one then cannot be made.
    | .error .missing =>
      match makeDirectories tree root above with
      | (made, none) => made.settle path (made.makeDirectory path)
      | failed => failed
    | outcome => tree.settle path outcome

/-- The tree with a directory at a path and above it, and an error if there is one. -/
def ensureDirectory (tree : Tree) (path : Path) : Tree × Option Error :=
  tree.makeDirectories path.root path.parts.reverse

end Tree

end ServiceClient.Files
