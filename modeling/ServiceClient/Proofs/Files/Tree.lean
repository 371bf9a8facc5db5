import ServiceClient.Files.Tree

/-!
# What operations do to a file tree

Where a path leads depends on directories alone, so it leads there still when nothing becomes of
them. Making directories keeps every file: `MadeOnWay` says that some places on the way to a path,
where nothing was before, are directories now, and that this is all. Writing a file after that
changes one place more, and reading the path then gives what was written.
-/

namespace ServiceClient.Files.Tree

variable {tree before middle after : Tree} {place : Place} {node : Node} {root : String}
  {parts : List String} {path : Path}

/-! ### Putting something at a place -/

/-- The entries with something else at a place. -/
def replace (entries : List (Place × Node)) (place : Place) (node : Node) : List (Place × Node) :=
  entries.map fun entry ↦ if entry.1 = place then (place, node) else entry

theorem lookup_replace_self {entries : List (Place × Node)}
    (h : (entries.lookup place).isSome = true) :
    (replace entries place node).lookup place = some node := by
  induction entries with
  | nil => cases h
  | cons entry entries ih =>
    rw [replace, List.map_cons]
    by_cases hentry : entry.1 = place
    · rw [if_pos hentry, List.lookup_cons_self]
    · have hne : (place == entry.1) = false := beq_eq_false_iff_ne.2 fun heq ↦ hentry heq.symm
      rw [List.lookup_cons, hne] at h
      rw [if_neg hentry, List.lookup_cons, hne]
      exact ih h

theorem lookup_replace_of_ne {other : Place} (hother : other ≠ place)
    (entries : List (Place × Node)) :
    (replace entries place node).lookup other = entries.lookup other := by
  induction entries with
  | nil => rfl
  | cons entry entries ih =>
    have hcons (first : Place × Node) :
        (first :: replace entries place node).lookup other = (first :: entries).lookup other := by
      rw [List.lookup_cons, List.lookup_cons, ih]
    rw [replace, List.map_cons]
    refine (hcons _).trans ?_
    split
    · next hentry =>
      rw [List.lookup_cons, List.lookup_cons, hentry, beq_eq_false_iff_ne.2 hother]
    · rfl

theorem lookup_put (tree : Tree) (place : Place) (node : Node) (other : Place) :
    (tree.put place node).entries.lookup other =
      if other = place then some node else tree.entries.lookup other := by
  rw [put]
  split
  · next hsome =>
    split
    · next hother =>
      rw [hother]
      exact lookup_replace_self hsome
    · next hother => exact lookup_replace_of_ne hother tree.entries
  · next hnone =>
    rw [List.lookup_append]
    split
    · next hother =>
      rw [hother, Option.not_isSome_iff_eq_none.1 hnone, List.lookup_cons_self]
      rfl
    · next hother =>
      rw [List.lookup_cons, beq_eq_false_iff_ne.2 hother]
      exact Option.or_none

/-- A directory stands where a place is a directory whatever the tree lists. -/
theorem isStanding_of_node?_ne (h : tree.node? place ≠ some .directory) :
    isStanding place = false := by
  rw [node?] at h
  split at h
  · exact absurd rfl h
  · next hstanding => exact Bool.eq_false_iff.2 hstanding

/-- What is put where no directory is is there, and whatever is elsewhere stays. -/
theorem node?_put (h : tree.node? place ≠ some .directory) (node : Node) (other : Place) :
    (tree.put place node).node? other =
      if other = place then some node else tree.node? other := by
  have hstanding := isStanding_of_node?_ne h
  rw [node?, node?, lookup_put]
  by_cases hother : other = place
  · simp [hother, hstanding]
  · simp only [hother, if_false]

/-! ### Where paths lead -/

/-- No directory is gone. -/
def KeepsDirectories (before after : Tree) : Prop :=
  ∀ place, before.node? place = some .directory → after.node? place = some .directory

theorem KeepsDirectories.trans (h : KeepsDirectories before middle)
    (h' : KeepsDirectories middle after) : KeepsDirectories before after :=
  fun place hplace ↦ h' place (h place hplace)

/-- Nothing is lost that is put where no directory is. -/
theorem keepsDirectories_put (h : tree.node? place ≠ some .directory) (node : Node) :
    KeepsDirectories tree (tree.put place node) := by
  intro other hother
  have hne : other ≠ place := by
    rintro rfl
    exact h hother
  rw [node?_put h, if_neg hne, hother]

/-- Names lead to the same place as long as no directory is gone. -/
theorem KeepsDirectories.walk_eq_ok (h : KeepsDirectories before after) {start : Place}
    {names : List String} (hwalk : before.walk start names = .ok place) :
    after.walk start names = .ok place := by
  fun_induction before.walk start names with
  | case1 => exact hwalk
  | case2 => exact hwalk
  | case3 start name rest hrest next hnext ih =>
    have hdirectory : after.node? (step start name) = some .directory := h next hnext
    rw [walk]
    · simp only [hdirectory]
      exact ih hwalk
    · exact hrest
  | case4 => cases hwalk
  | case5 => cases hwalk

/-- A path leads to the same place as long as no directory is gone. -/
theorem KeepsDirectories.place_eq_ok (h : KeepsDirectories before after)
    (hplace : before.place path = .ok place) : after.place path = .ok place :=
  h.walk_eq_ok hplace

/-! ### Making directories -/

/-- Directories were made on the way to a path, where nothing was, and nothing else was changed. -/
def MadeOnWay (root : String) (parts : List String) (before after : Tree) : Prop :=
  ∀ place, after.node? place = before.node? place ∨
    before.node? place = none ∧ after.node? place = some .directory ∧
      ∃ above, above <+: parts ∧ after.place ⟨root, above⟩ = .ok place

namespace MadeOnWay

theorem refl (root : String) (parts : List String) (tree : Tree) :
    MadeOnWay root parts tree tree := fun _ ↦ .inl rfl

theorem mono (h : MadeOnWay root parts before after) {longer : List String}
    (hparts : parts <+: longer) : MadeOnWay root longer before after := by
  intro place
  obtain hsame | ⟨hnone, hmade, above, habove, hplace⟩ := h place
  · exact .inl hsame
  · exact .inr ⟨hnone, hmade, above, habove.trans hparts, hplace⟩

theorem keepsDirectories (h : MadeOnWay root parts before after) :
    KeepsDirectories before after := by
  intro place hplace
  obtain hsame | ⟨hnone, -⟩ := h place
  · rw [hsame, hplace]
  · rw [hplace] at hnone
    cases hnone

theorem trans (h : MadeOnWay root parts before middle)
    (h' : MadeOnWay root parts middle after) : MadeOnWay root parts before after := by
  intro place
  obtain hsame' | ⟨hnone', hmade', hway'⟩ := h' place
  · obtain hsame | ⟨hnone, hmade, above, habove, hplace⟩ := h place
    · exact .inl (hsame'.trans hsame)
    · exact .inr ⟨hnone, hsame'.trans hmade, above, habove,
        h'.keepsDirectories.place_eq_ok hplace⟩
  · obtain hsame | ⟨-, hmade, -⟩ := h place
    · exact .inr ⟨hsame.symm.trans hnone', hmade', hway'⟩
    · rw [hmade] at hnone'
      cases hnone'

/-- Every file is there as before, and there are no others. -/
theorem node?_eq_file_iff (h : MadeOnWay root parts before after) {bytes : List UInt8} :
    after.node? place = some (.file bytes) ↔ before.node? place = some (.file bytes) := by
  obtain hsame | ⟨hnone, hmade, -⟩ := h place
  · rw [hsame]
  · simp [hnone, hmade]

end MadeOnWay

/-- Making a directory puts it where nothing was. -/
theorem madeOnWay_of_makeDirectory (h : tree.makeDirectory ⟨root, parts⟩ = .ok after) :
    MadeOnWay root parts tree after := by
  rw [makeDirectory] at h
  split at h
  · cases h
  · next place hplace =>
    split at h
    · cases h
    · next hnone =>
      obtain rfl := Except.ok.inj h
      have hfree : tree.node? place ≠ some .directory := by simp [hnone]
      intro other
      rw [node?_put hfree]
      split
      · next hother =>
        subst hother
        exact .inr ⟨hnone, rfl, parts, List.prefix_rfl,
          (keepsDirectories_put hfree .directory).place_eq_ok hplace⟩
      · exact .inl rfl

theorem madeOnWay_settle (tree : Tree) (root : String) (parts : List String) :
    MadeOnWay root parts tree
      (tree.settle ⟨root, parts⟩ (tree.makeDirectory ⟨root, parts⟩)).1 := by
  cases hmake : tree.makeDirectory ⟨root, parts⟩ with
  | ok made => exact madeOnWay_of_makeDirectory hmake
  | error reason =>
    have hsame : (tree.settle ⟨root, parts⟩ (.error reason)).1 = tree := by
      cases reason with
      | missing => rfl
      | _ => simp only [settle]; split <;> rfl
    rw [hsame]
    exact .refl root parts tree

/-- Making a directory and those above it only makes directories on the way, even if it fails. The
induction is on the parts that are above. -/
theorem madeOnWay_makeDirectories (tree : Tree) (root : String) (reversed : List String) :
    MadeOnWay root reversed.reverse tree (tree.makeDirectories root reversed).1 := by
  induction reversed with
  | nil => exact madeOnWay_settle tree root []
  | cons name above ih =>
    have habove : above.reverse <+: (name :: above).reverse := by
      rw [List.reverse_cons]
      exact List.prefix_append _ _
    have hway := ih.mono habove
    rw [makeDirectories]
    split
    · split
      · next made hmade =>
        rw [hmade] at hway
        exact hway.trans (madeOnWay_settle made root _)
      · exact hway
    · exact madeOnWay_settle tree root _

/-- Making sure of a directory only makes directories on the way to it, even if it fails. -/
theorem madeOnWay_ensureDirectory (tree : Tree) (path : Path) :
    MadeOnWay path.root path.parts tree (tree.ensureDirectory path).1 := by
  have hway := madeOnWay_makeDirectories tree path.root path.parts.reverse
  rw [List.reverse_reverse] at hway
  exact hway

/-! ### Writing a file -/

/-- A file that is written is put where the path leads, unless that is a directory. -/
theorem exists_put_of_write {bytes : List UInt8} (h : tree.write path bytes = .ok after) :
    ∃ place, tree.place path = .ok place ∧ tree.node? place ≠ some .directory ∧
      after = tree.put place (.file bytes) := by
  rw [write] at h
  split at h
  · cases h
  · next place hplace =>
    split at h
    · cases h
    · next hfree => exact ⟨place, hplace, hfree, (Except.ok.inj h).symm⟩

/-- A file was written at a path: the path leads to a place with its bytes, where no directory was,
and apart from that directories were made on the way to it. -/
def WroteFile (before after : Tree) (path : Path) (bytes : List UInt8) : Prop :=
  ∃ place, after.place path = .ok place ∧ after.node? place = some (.file bytes) ∧
    before.node? place ≠ some .directory ∧
    ∀ other ≠ place, after.node? other = before.node? other ∨
      before.node? other = none ∧ after.node? other = some .directory ∧
        ∃ above, above <+: path.parts.dropLast ∧ after.place ⟨path.root, above⟩ = .ok other

/-- Directories are made, then a file is written. -/
theorem MadeOnWay.wroteFile (h : MadeOnWay path.root path.parts.dropLast before middle)
    {bytes : List UInt8} (hwrite : middle.write path bytes = .ok after) :
    WroteFile before after path bytes := by
  obtain ⟨place, hplace, hfree, rfl⟩ := exists_put_of_write hwrite
  have hkeeps := keepsDirectories_put hfree (.file bytes)
  refine ⟨place, hkeeps.place_eq_ok hplace, by simp [node?_put hfree], fun hdirectory ↦
    hfree (h.keepsDirectories place hdirectory), fun other hother ↦ ?_⟩
  rw [node?_put hfree, if_neg hother]
  obtain hsame | ⟨hnone, hmade, above, habove, hway⟩ := h other
  · exact .inl hsame
  · exact .inr ⟨hnone, hmade, above, habove, hkeeps.place_eq_ok hway⟩

/-- Reading the path gives the bytes that were written. -/
theorem WroteFile.read_eq {bytes : List UInt8} (h : WroteFile before after path bytes) :
    after.read path = .ok bytes := by
  obtain ⟨place, hplace, hfile, -⟩ := h
  simp only [read, hplace, hfile]

end ServiceClient.Files.Tree
