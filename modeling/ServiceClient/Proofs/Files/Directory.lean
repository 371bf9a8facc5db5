import Mathlib.Data.List.TakeWhile
import ServiceClient.Proofs.Files.Tree
import ServiceClient.Proofs.Text.Split

/-!
# Files of one directory

A text without slashes that is neither empty nor made of points names one entry of a directory: a
path continued by it leads to that entry, and the path without its last part is the path of the
directory again. Once making sure of a directory has succeeded it is there, and making sure of it
again changes nothing.

`putAll` puts several files one after another. Where their places differ and no directory is at any
of them, each of the files is there afterwards and the order does not matter.
-/

namespace ServiceClient.Files

/-- A text that names one entry of a directory. -/
structure IsName (name : String) : Prop where
  /-- It is one part of a path. -/
  slash_notMem : '/' ∉ name.toList
  /-- It is more than two points. -/
  two_lt_length : 2 < name.toList.length

namespace IsName

variable {name : String}

theorem ne_of_length_le {other : String} (h : IsName name) (hother : other.toList.length ≤ 2) :
    name ≠ other := by
  rintro rfl
  exact absurd h.two_lt_length (Nat.not_lt.2 hother)

theorem partsOf_eq (h : IsName name) : Path.partsOf name = [name] := by
  have hempty : name ≠ "" := h.ne_of_length_le (by decide)
  have hpoint : name ≠ "." := h.ne_of_length_le (by decide)
  simp [Path.partsOf, Text.splitOn_of_notMem h.slash_notMem, hempty, hpoint]

theorem rootOf_eq (h : IsName name) : Path.rootOf name = "" := by
  have hnone : name.toList.takeWhile (· = '/') = [] := by
    rw [List.takeWhile_eq_nil_iff]
    intro hlength hhead
    exact h.slash_notMem (of_decide_eq_true hhead ▸ List.getElem_mem hlength)
  rw [Path.rootOf, hnone]
  rfl

theorem join_eq (h : IsName name) (path : Path) :
    path.join name = ⟨path.root, path.parts ++ [name]⟩ := by
  rw [Path.join_relative path h.rootOf_eq, h.partsOf_eq]

theorem parent_join (h : IsName name) (path : Path) : (path.join name).parent = path := by
  rw [h.join_eq, Path.parent, List.dropLast_concat]

theorem step_eq (h : IsName name) (home : Place) : Tree.step home name = home ++ [name] := by
  rw [Tree.step, if_neg (h.ne_of_length_le (by decide))]

end IsName

namespace Tree

variable {tree made before after : Tree} {path : Path} {place home : Place} {name : String}
  {bytes : List UInt8} {root : String} {parts : List String}

/-! ### Directories that are there -/

/-- A path leads to a place where a directory is. -/
structure HasDirectory (tree : Tree) (path : Path) (home : Place) : Prop where
  /-- The path leads to the place. -/
  place_eq : tree.place path = .ok home
  /-- A directory is there. -/
  node?_eq : tree.node? home = some .directory

theorem HasDirectory.mono (h : before.HasDirectory path home)
    (hkeeps : KeepsDirectories before after) : after.HasDirectory path home :=
  ⟨hkeeps.place_eq_ok h.place_eq, hkeeps home h.node?_eq⟩

theorem isDirectory_iff : tree.isDirectory path = true ↔ ∃ home, tree.HasDirectory path home := by
  rw [isDirectory]
  constructor
  · intro h
    split at h
    · next home hplace => exact ⟨home, hplace, of_decide_eq_true h⟩
    · cases h
  · rintro ⟨home, hplace, hnode⟩
    simp only [hplace, hnode, decide_true]

/-- Names that lead to a directory lead to its entries when they are continued. -/
theorem walk_concat {start : Place} {names : List String} (hwalk : tree.walk start names = .ok home)
    (hhome : tree.node? home = some .directory) (name : String) :
    tree.walk start (names ++ [name]) = .ok (step home name) := by
  fun_induction tree.walk start names with
  | case1 =>
    obtain rfl := Except.ok.inj hwalk
    rfl
  | case2 start first =>
    obtain rfl := Except.ok.inj hwalk
    rw [List.singleton_append, walk]
    · simp only [hhome]
      rfl
    · exact List.cons_ne_nil name []
  | case3 start first rest hrest next hnext ih =>
    rw [List.cons_append, walk]
    · simp only [next, hnext]
      exact ih hwalk
    · exact List.append_ne_nil_of_right_ne_nil rest (List.cons_ne_nil name [])
  | case4 => cases hwalk
  | case5 => cases hwalk

/-- An entry of a directory has its place in it. -/
theorem HasDirectory.place_join (h : tree.HasDirectory path home) (hname : IsName name) :
    tree.place (path.join name) = .ok (home ++ [name]) := by
  have hwalk := walk_concat h.place_eq h.node?_eq name
  rw [hname.step_eq] at hwalk
  rw [hname.join_eq]
  exact hwalk

/-! ### Making sure of a directory -/

theorem hasDirectory_of_makeDirectory (h : tree.makeDirectory path = .ok made) :
    ∃ home, made.HasDirectory path home := by
  rw [makeDirectory] at h
  split at h
  · cases h
  · next place hplace =>
    split at h
    · cases h
    · next hnone =>
      obtain rfl := Except.ok.inj h
      have hfree : tree.node? place ≠ some .directory := by simp [hnone]
      have hkeeps := keepsDirectories_put hfree .directory
      exact ⟨place, hkeeps.place_eq_ok hplace, by rw [node?_put hfree, if_pos rfl]⟩

theorem hasDirectory_of_settle (h : tree.settle path (tree.makeDirectory path) = (made, none)) :
    ∃ home, made.HasDirectory path home := by
  cases hmake : tree.makeDirectory path with
  | ok new =>
    rw [hmake] at h
    obtain rfl := (Prod.mk.inj h).1
    exact hasDirectory_of_makeDirectory hmake
  | error reason =>
    rw [hmake, settle.eq_def] at h
    split at h
    · next heq => cases heq
    · cases h
    · split at h
      · next hdirectory =>
        obtain rfl := (Prod.mk.inj h).1
        exact isDirectory_iff.1 hdirectory
      · cases h

/-- Where making sure of a directory succeeds, the directory is there. -/
theorem hasDirectory_of_ensureDirectory (h : tree.ensureDirectory path = (made, none)) :
    ∃ home, made.HasDirectory path home := by
  obtain ⟨root, parts⟩ := path
  rw [ensureDirectory] at h
  obtain ⟨reversed, rfl⟩ : ∃ reversed : List String, parts = reversed.reverse :=
    ⟨_, parts.reverse_reverse.symm⟩
  rw [List.reverse_reverse] at h
  -- Whatever is made above, the last step that succeeds settles the directory itself.
  cases reversed with
  | nil => exact hasDirectory_of_settle h
  | cons name above =>
    rw [makeDirectories] at h
    split at h
    · split at h
      · exact hasDirectory_of_settle h
      · next hfailed => exact absurd h (hfailed made)
    · exact hasDirectory_of_settle h

/-- Making sure of a directory that is there changes nothing. -/
theorem HasDirectory.ensureDirectory_eq (h : tree.HasDirectory path home) :
    tree.ensureDirectory path = (tree, none) := by
  have hmake : tree.makeDirectory path = .error .occupied := by
    simp only [makeDirectory, h.place_eq, h.node?_eq]
  have hsettle : tree.settle path (tree.makeDirectory path) = (tree, none) := by
    rw [hmake, settle]
    · rw [if_pos (isDirectory_iff.2 ⟨home, h⟩)]
    · intro hmissing
      cases hmissing
  obtain ⟨root, parts⟩ := path
  obtain ⟨reversed, rfl⟩ : ∃ reversed : List String, parts = reversed.reverse :=
    ⟨_, parts.reverse_reverse.symm⟩
  rw [ensureDirectory, List.reverse_reverse]
  cases reversed with
  | nil => exact hsettle
  | cons name above =>
    simp only [makeDirectories]
    split
    · next hmissing =>
      rw [hmake] at hmissing
      cases hmissing
    · exact hsettle

/-! ### Changing files -/

/-- A file is read where the path leads to it. -/
theorem read_eq_ok_iff : tree.read path = .ok bytes ↔
    ∃ place, tree.place path = .ok place ∧ tree.node? place = some (.file bytes) := by
  rw [read]
  constructor
  · intro h
    split at h
    · cases h
    · next place hplace =>
      split at h
      · next found hnode =>
        obtain rfl := Except.ok.inj h
        exact ⟨place, hplace, hnode⟩
      · cases h
      · cases h
  · rintro ⟨place, hplace, hnode⟩
    simp only [hplace, hnode]

/-- A file can be written where the path leads to no directory. -/
theorem write_eq_put (hplace : tree.place path = .ok place)
    (hfree : tree.node? place ≠ some .directory) (bytes : List UInt8) :
    tree.write path bytes = .ok (tree.put place (.file bytes)) := by
  simp only [write, hplace]

/-- No directory is at any of some places. -/
def IsFree (tree : Tree) (places : List Place) : Prop :=
  ∀ place ∈ places, tree.node? place ≠ some .directory

/-- A file that is put somewhere leaves places free. -/
theorem IsFree.put {places : List Place} (h : tree.IsFree places)
    (hplace : tree.node? place ≠ some .directory) (bytes : List UInt8) :
    (tree.put place (.file bytes)).IsFree places := by
  intro other hother
  rw [node?_put hplace]
  split
  · nofun
  · exact h other hother

/-- Two trees differ at some places at most, and neither has a directory at any of them. -/
structure DifferInFiles (places : List Place) (before after : Tree) : Prop where
  /-- All other places are the same. -/
  node?_eq : ∀ place ∉ places, after.node? place = before.node? place
  /-- Before, no directory is at the places. -/
  isFree_before : before.IsFree places
  /-- Afterwards, no directory is at the places. -/
  isFree_after : after.IsFree places

namespace DifferInFiles

variable {places : List Place}

theorem refl (h : tree.IsFree places) : DifferInFiles places tree tree := ⟨fun _ _ ↦ rfl, h, h⟩

/-- A file can be put at one of the places. -/
theorem put (h : DifferInFiles places before after) (hplace : place ∈ places)
    (bytes : List UInt8) : DifferInFiles places before (after.put place (.file bytes)) where
  node?_eq other hother := by
    have hne : other ≠ place := by
      rintro rfl
      exact hother hplace
    rw [node?_put (h.isFree_after place hplace), if_neg hne, h.node?_eq other hother]
  isFree_before := h.isFree_before
  isFree_after := h.isFree_after.put (h.isFree_after place hplace) bytes

theorem keepsDirectories (h : DifferInFiles places before after) :
    KeepsDirectories before after := by
  intro place hdirectory
  by_cases hplace : place ∈ places
  · exact absurd hdirectory (h.isFree_before place hplace)
  · rw [h.node?_eq place hplace, hdirectory]

end DifferInFiles

/-- What is read at a path is still read when directories were made and other files changed. -/
theorem read_of_madeOnWay {places : List Place} (hway : MadeOnWay root parts before made)
    (h : DifferInFiles places made after) (hread : before.read path = .ok bytes)
    (hapart : ∀ place, before.place path = .ok place → place ∉ places) :
    after.read path = .ok bytes := by
  obtain ⟨place, hplace, hfile⟩ := read_eq_ok_iff.1 hread
  have hkeeps := hway.keepsDirectories.trans h.keepsDirectories
  refine read_eq_ok_iff.2 ⟨place, hkeeps.place_eq_ok hplace, ?_⟩
  rw [h.node?_eq place (hapart place hplace)]
  exact hway.node?_eq_file_iff.2 hfile

/-! ### Writing files one after another -/

/-- The tree with files put at places, one after another. -/
def putAll (tree : Tree) (files : List (Place × List UInt8)) : Tree :=
  files.foldl (fun t file ↦ t.put file.1 (.file file.2)) tree

variable {files files' : List (Place × List UInt8)}

/-- Putting files leaves all other places as they are. -/
theorem node?_putAll_of_notMem (hfree : tree.IsFree (files.map Prod.fst))
    (h : place ∉ files.map Prod.fst) : (tree.putAll files).node? place = tree.node? place := by
  induction files generalizing tree with
  | nil => rfl
  | cons file later ih =>
    rw [List.map_cons, List.mem_cons, not_or] at h
    have hfirst := hfree file.1 List.mem_cons_self
    have hlater : tree.IsFree (later.map Prod.fst) :=
      fun other hother ↦ hfree other (List.mem_cons_of_mem _ hother)
    rw [putAll, List.foldl_cons]
    exact (ih (hlater.put hfirst file.2) h.2).trans (by rw [node?_put hfirst, if_neg h.1])

/-- Putting files keeps every directory. -/
theorem keepsDirectories_putAll (hfree : tree.IsFree (files.map Prod.fst)) :
    KeepsDirectories tree (tree.putAll files) := by
  intro place hdirectory
  have hplace : place ∉ files.map Prod.fst := fun hmem ↦ hfree place hmem hdirectory
  rw [node?_putAll_of_notMem hfree hplace, hdirectory]

/-- Each of the files is there when all are put, if their places differ. -/
theorem node?_putAll_of_mem (hfree : tree.IsFree (files.map Prod.fst))
    (hnodup : (files.map Prod.fst).Nodup) (h : (place, bytes) ∈ files) :
    (tree.putAll files).node? place = some (.file bytes) := by
  induction files generalizing tree with
  | nil => cases h
  | cons file later ih =>
    rw [List.map_cons, List.nodup_cons] at hnodup
    have hfirst := hfree file.1 List.mem_cons_self
    have hlater : tree.IsFree (later.map Prod.fst) :=
      fun other hother ↦ hfree other (List.mem_cons_of_mem _ hother)
    rw [putAll, List.foldl_cons]
    rcases List.mem_cons.1 h with rfl | h
    · exact (node?_putAll_of_notMem (hlater.put hfirst bytes) hnodup.1).trans
        (by rw [node?_put hfirst, if_pos rfl])
    · exact ih (hlater.put hfirst file.2) hnodup.2 h

/-- Files at different places can be put in any order. -/
theorem node?_putAll_perm (hfree : tree.IsFree (files.map Prod.fst))
    (hnodup : (files.map Prod.fst).Nodup) (hperm : files'.Perm files) (place : Place) :
    (tree.putAll files').node? place = (tree.putAll files).node? place := by
  have hplaces := hperm.map Prod.fst
  have hfree' : tree.IsFree (files'.map Prod.fst) :=
    fun other hother ↦ hfree other (hplaces.mem_iff.1 hother)
  -- What is at a place depends on which file goes there, not on when it is put.
  by_cases hplace : place ∈ files.map Prod.fst
  · obtain ⟨⟨_, bytes⟩, hfile, rfl⟩ := List.mem_map.1 hplace
    rw [node?_putAll_of_mem hfree hnodup hfile,
      node?_putAll_of_mem hfree' (hplaces.nodup_iff.2 hnodup) (hperm.mem_iff.2 hfile)]
  · rw [node?_putAll_of_notMem hfree hplace,
      node?_putAll_of_notMem hfree' fun hmem ↦ hplace (hplaces.mem_iff.1 hmem)]

end Tree

end ServiceClient.Files
