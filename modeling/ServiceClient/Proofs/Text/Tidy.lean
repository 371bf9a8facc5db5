import Mathlib.Data.List.Chain
import ServiceClient.Proofs.Text.Blank

/-!
# Tidy text

Text is tidy when no blank stands at either end and the only blanks in it are single spaces.
Collapsing and trimming make a text tidy (`isTidyText_trim_collapse`) and leave a tidy one alone
(`IsTidyText.trim_collapse`).

All that happens to a text on the way is that blanks are dropped or replaced by other blanks:
`Thinned`. So whatever is not blank stays, in its order, and no two such characters come together
that had no blank between them.
-/

namespace ServiceClient.Text

/-- No blank stands at either end of a text, and the only blanks in it are single spaces. -/
structure IsTidyText (cs : List Char) : Prop where
  /-- The first character is not blank. -/
  head : ∀ c ∈ cs.head?, isBlank c = false
  /-- The last character is not blank. -/
  last : ∀ c ∈ cs.getLast?, isBlank c = false
  /-- The only blank is the space. -/
  space : ∀ c ∈ cs, isBlank c = true → c = ' '
  /-- After a blank stands no other. -/
  single : cs.IsChain fun c d ↦ isBlank c = true → isBlank d = false

/-- A text becomes another one when blanks are dropped or replaced by blanks. -/
inductive Thinned : List Char → List Char → Prop
  /-- The empty text stays. -/
  | nil : Thinned [] []
  /-- A character is kept. -/
  | keep (c : Char) {cs ds : List Char} (h : Thinned cs ds) : Thinned (c :: cs) (c :: ds)
  /-- A blank is dropped. -/
  | drop {c : Char} {cs ds : List Char} (hc : isBlank c = true) (h : Thinned cs ds) :
      Thinned (c :: cs) ds
  /-- A blank is replaced by another one. -/
  | replace {c d : Char} {cs ds : List Char} (hc : isBlank c = true) (hd : isBlank d = true)
      (h : Thinned cs ds) : Thinned (c :: cs) (d :: ds)

variable {cs ds es : List Char} {c : Char}

/-! ### Thinned text -/

@[refl] theorem Thinned.refl (cs : List Char) : Thinned cs cs := by
  induction cs with
  | nil => exact .nil
  | cons c cs ih => exact .keep c ih

theorem Thinned.append {cs' ds' : List Char} (h : Thinned cs ds) (h' : Thinned cs' ds') :
    Thinned (cs ++ cs') (ds ++ ds') := by
  induction h with
  | nil => exact h'
  | keep c _ ih => exact .keep c ih
  | drop hc _ ih => exact .drop hc ih
  | replace hc hd _ ih => exact .replace hc hd ih

theorem Thinned.trans (h : Thinned cs ds) (h' : Thinned ds es) : Thinned cs es := by
  induction h generalizing es with
  | nil => exact h'
  | keep c _ ih =>
    cases h' with
    | keep _ h' => exact .keep c (ih h')
    | drop hc h' => exact .drop hc (ih h')
    | replace hc hd h' => exact .replace hc hd (ih h')
  | drop hc _ ih => exact .drop hc (ih h')
  | replace hc hd _ ih =>
    cases h' with
    | keep _ h' => exact .replace hc hd (ih h')
    | drop _ h' => exact .drop hc (ih h')
    | replace _ he h' => exact .replace hc he (ih h')

/-- What is not blank was there before. -/
theorem Thinned.mem (h : Thinned cs ds) (hblank : isBlank c = false) (hc : c ∈ ds) : c ∈ cs := by
  induction h with
  | nil => exact hc
  | keep d _ ih =>
    rcases List.mem_cons.1 hc with rfl | hc
    · exact List.mem_cons_self
    · exact List.mem_cons_of_mem d (ih hc)
  | drop _ _ ih => exact List.mem_cons_of_mem _ (ih hc)
  | replace _ hd _ ih =>
    rcases List.mem_cons.1 hc with rfl | hc
    · rw [hd] at hblank
      cases hblank
    · exact List.mem_cons_of_mem _ (ih hc)

/-- A character that is not blank stays in front. -/
theorem Thinned.exists_cons (h : Thinned (c :: cs) ds) (hc : isBlank c = false) :
    ∃ ds', ds = c :: ds' ∧ Thinned cs ds' := by
  cases h with
  | keep _ h => exact ⟨_, rfl, h⟩
  | drop hblank _ =>
    rw [hblank] at hc
    cases hc
  | replace hblank _ _ =>
    rw [hblank] at hc
    cases hc

theorem thinned_collapseFrom (afterBlank : Bool) (cs : List Char) :
    Thinned cs (collapseFrom afterBlank cs) := by
  induction cs generalizing afterBlank with
  | nil => exact .nil
  | cons c cs ih =>
    rw [collapseFrom]
    split
    · next hc =>
      split
      · exact .drop hc (ih true)
      · exact .replace hc (by decide) (ih true)
    · exact .keep c (ih false)

theorem thinned_trimLeft (cs : List Char) : Thinned cs (trimLeft cs) := by
  induction cs with
  | nil => exact .nil
  | cons c cs ih =>
    rw [trimLeft]
    cases hc : isBlank c with
    | true =>
      rw [List.dropWhile_cons_of_pos hc]
      exact .drop hc ih
    | false =>
      rw [List.dropWhile_cons_of_neg (by simp [hc])]

theorem thinned_trimRight (cs : List Char) : Thinned cs (trimRight cs) := by
  induction cs with
  | nil => exact .nil
  | cons c cs ih =>
    rw [trimRight]
    split
    · next hnone =>
      rw [hnone] at ih
      split
      · next hc => exact .drop hc ih
      · exact .keep c ih
    · exact .keep c ih

/-- Collapsing and trimming drop and replace blanks only. -/
theorem thinned_trim_collapse (cs : List Char) : Thinned cs (trim (collapse cs)) :=
  (thinned_collapseFrom false cs).trans ((thinned_trimLeft _).trans (thinned_trimRight _))

/-! ### What collapsing and trimming achieve -/

/-- In collapsed text no two blanks stand together, and none follows one that was there before. -/
theorem isChain_collapseFrom (afterBlank : Bool) (cs : List Char) :
    (collapseFrom afterBlank cs).IsChain (fun c d ↦ isBlank c = true → isBlank d = false) ∧
      (afterBlank = true → ∀ c ∈ (collapseFrom afterBlank cs).head?, isBlank c = false) := by
  induction cs generalizing afterBlank with
  | nil => simp [collapseFrom]
  | cons c cs ih =>
    rw [collapseFrom]
    split
    · split
      · next hafter => exact ⟨(ih true).1, fun _ ↦ (ih true).2 rfl⟩
      · next hafter =>
        exact ⟨List.isChain_cons.2 ⟨fun d hd _ ↦ (ih true).2 rfl d hd, (ih true).1⟩,
          fun h ↦ absurd h hafter⟩
    · next hc =>
      refine ⟨List.isChain_cons.2 ⟨fun d _ hblank ↦ absurd hblank hc, (ih false).1⟩, ?_⟩
      rintro - d hd
      rw [← Option.some.inj hd]
      exact Bool.not_eq_true _ ▸ hc

/-- Trimmed text does not end with a blank. -/
theorem isBlank_eq_false_of_mem_getLast?_trimRight {cs : List Char} :
    ∀ c ∈ (trimRight cs).getLast?, isBlank c = false := by
  induction cs with
  | nil => simp [trimRight]
  | cons d cs ih =>
    rw [trimRight]
    split
    · split
      · simp
      · next hd => simpa using hd
    · next hkept =>
      obtain ⟨e, rest, hrest⟩ := List.exists_cons_of_ne_nil hkept
      rwa [hrest, List.getLast?_cons_cons, ← hrest]

/-- Collapsing and trimming make a text tidy. -/
theorem isTidyText_trim_collapse (cs : List Char) : IsTidyText (trim (collapse cs)) where
  head := isBlank_eq_false_of_mem_head?_trim
  last := isBlank_eq_false_of_mem_getLast?_trimRight
  space _ hc := eq_space_of_mem_collapseFrom (mem_of_mem_trim hc)
  single := by
    have hinfix : trim (collapse cs) <:+: collapse cs :=
      (isPrefix_trimRight _).isInfix.trans (List.dropWhile_suffix isBlank).isInfix
    exact List.IsChain.infix (isChain_collapseFrom false cs).1 hinfix

/-! ### What they leave alone -/

theorem collapseFrom_of_isChain {afterBlank : Bool} (hspace : ∀ c ∈ cs, isBlank c = true → c = ' ')
    (hsingle : cs.IsChain fun c d ↦ isBlank c = true → isBlank d = false)
    (hafter : afterBlank = true → ∀ c ∈ cs.head?, isBlank c = false) :
    collapseFrom afterBlank cs = cs := by
  induction cs generalizing afterBlank with
  | nil => rfl
  | cons c cs ih =>
    obtain ⟨hnext, hrest⟩ := List.isChain_cons.1 hsingle
    have hlater : ∀ d ∈ cs, isBlank d = true → d = ' ' :=
      fun d hd ↦ hspace d (List.mem_cons_of_mem c hd)
    rw [collapseFrom]
    cases hc : isBlank c with
    | true =>
      have hfirst : afterBlank = false := by
        rw [← Bool.not_eq_true]
        intro hblank
        exact absurd hc (by simp [hafter hblank c rfl])
      obtain rfl := hspace c List.mem_cons_self hc
      rw [hfirst, if_pos rfl, if_neg Bool.false_ne_true,
        ih hlater hrest fun _ d hd ↦ hnext d hd hc]
    | false =>
      rw [if_neg Bool.false_ne_true, ih hlater hrest fun h ↦ absurd h Bool.false_ne_true]

/-- Text that does not end with a blank stays as it is. -/
theorem trimRight_eq_self (h : ∀ c ∈ cs.getLast?, isBlank c = false) : trimRight cs = cs := by
  induction cs with
  | nil => rfl
  | cons c cs ih =>
    cases cs with
    | nil => exact trimRight_cons (h c rfl) []
    | cons d rest =>
      rw [List.getLast?_cons_cons] at h
      rw [trimRight, ih h]

/-- Collapsing and trimming leave tidy text alone. -/
theorem IsTidyText.trim_collapse (h : IsTidyText cs) : trim (collapse cs) = cs := by
  have hcollapse : collapse cs = cs :=
    collapseFrom_of_isChain h.space h.single fun hafter ↦ absurd hafter Bool.false_ne_true
  have hleft : trimLeft cs = cs := by
    cases cs with
    | nil => rfl
    | cons c cs => exact List.dropWhile_cons_of_neg (by simp [h.head c rfl])
  rw [hcollapse, trim, hleft, trimRight_eq_self h.last]

end ServiceClient.Text
