import ServiceClient.Cli.Run

/-!
# The command

The outer layer of the command: it gathers the files that the arguments name into a tree, runs the
command on it, and brings the files on disk to the state of the tree that comes out.
-/

namespace ServiceClient.Main

open ServiceClient.Files

/-- The place of a path, as a path on disk. -/
def diskPath (place : Place) : String := String.intercalate "/" place

/-- What is on disk at a place. What can be opened and not be read is a directory. -/
def nodeOnDisk? (place : Place) : IO (Option Node) := do
  let path := diskPath place
  try
    return some (.file (← IO.FS.readBinFile path).toList)
  catch _ =>
    try
      let _ ← IO.FS.Handle.mk path .read
      return some .directory
    catch _ => return none

/-- The tree with what is on disk along a path that starts at a place. -/
def gatherAlong (tree : Tree) (place : Place) : List String → IO Tree
  | [] => return tree
  | name :: rest => do
    let next := Tree.step place name
    let tree ← match ← nodeOnDisk? next with
      | some node => pure (if Tree.isStanding next then tree else tree.put next node)
      | none => pure tree
    gatherAlong tree next rest

/-- The tree with what is on disk along a path. -/
def gather (tree : Tree) (path : Path) : IO Tree :=
  gatherAlong tree (Tree.origin path) path.parts

/-- Makes what differs between two trees on disk. -/
def apply (before after : Tree) : IO Unit := do
  for (place, node) in after.entries do
    if before.node? place ≠ some node then
      match node with
      | .directory => IO.FS.createDirAll (diskPath place)
      | .file bytes => IO.FS.writeBinFile (diskPath place) ⟨bytes.toArray⟩

end ServiceClient.Main

/-- Runs the command on the files of the working directory. -/
def main (words : List String) : IO UInt32 := do
  let mut tree := ServiceClient.Files.Tree.empty
  match ServiceClient.Cli.Arguments.parse words with
  | .ok args =>
    for path in [args.api, args.docs, args.endpoints, args.output].filterMap id do
      tree ← ServiceClient.Main.gather tree path
  | .error _ => pure ()
  let report := ServiceClient.Cli.run tree words
  ServiceClient.Main.apply tree report.tree
  IO.print report.stdout
  IO.eprint report.stderr
  match report.ending with
  | .exit status => return UInt32.ofNat status
  | .fault fault =>
    IO.eprintln (fault.message?.getD "the documents are not of the expected form")
    return 1
