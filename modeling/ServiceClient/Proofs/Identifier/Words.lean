import Mathlib.Data.List.DropRight
import ServiceClient.Identifier
import ServiceClient.Proofs.Text.Split

/-!
# The words of a name

The six passes of `snakeCase` find words, and which words those are can be said without passes. A
name is cut at every separator, which is dropped, and between two characters that the text around
them tells apart: a small letter or a digit and a capital, or two capitals before a small letter.
What is left of the pieces without characters that no identifier may hold are the words, apart from
the pieces of which nothing is left. `snakeCase_eq_words` joins them.

The proof follows the passes. The first three put an underscore at each cut (`intercalate_pieces`),
the fourth acts on the pieces one by one, and the next two remove just the underscores next to empty
pieces (`trimUnderscores_mergeUnderscores`).
-/

namespace ServiceClient.Identifier

open Text (isCapital isSmall isDigit isDecimalDigit isBlank toSmall)

/-- Whether a character separates words. -/
def isSeparator (c : Char) : Bool := c = '_' || c = '.' || c = '-' || isBlank c

/-- Whether a character may stand in a word. -/
def isWordChar (c : Char) : Bool := isCapital c || isSmall c || isDigit c

/-- Whether a character is a small letter or a digit of any script, before a capital. -/
def endsWord (c : Char) (rest : List Char) : Bool :=
  (isSmall c || isDecimalDigit c) && rest.head?.any isCapital

/-- Whether a character is a capital, before another one and then a small letter. -/
def endsAcronym (c : Char) (rest : List Char) : Bool :=
  isCapital c && rest.head?.any isCapital && rest.tail.head?.any isSmall

/-- Whether a name is cut between a character and what follows it. -/
def cutsBefore (c : Char) (rest : List Char) : Bool := endsWord c rest || endsAcronym c rest

/-- The pieces of a name between its cuts. -/
def pieces : List Char → List (List Char)
  | [] => [[]]
  | c :: rest =>
    if isSeparator c then [] :: pieces rest
    else if cutsBefore c rest then [c] :: pieces rest
    else Text.consFirst c (pieces rest)

/-- The words of a name, in small letters. -/
def words (name : String) : List String :=
  (((pieces name.toList).map (List.filter isWordChar)).filter (· ≠ [])).map
    fun word ↦ String.ofList (word.map toSmall)

/-! ### Classes of characters -/

theorem isCapital_iff {c : Char} : isCapital c = true ↔ 65 ≤ c.toNat ∧ c.toNat ≤ 90 := by
  simp [isCapital, Char.le_def, UInt32.le_iff_toNat_le]

theorem isSmall_iff {c : Char} : isSmall c = true ↔ 97 ≤ c.toNat ∧ c.toNat ≤ 122 := by
  simp [isSmall, Char.le_def, UInt32.le_iff_toNat_le]

theorem isSmall_of_isCapital {c : Char} (h : isCapital c = true) : isSmall c = false := by
  rw [isCapital_iff] at h
  rw [← Bool.not_eq_true, isSmall_iff]
  omega

theorem classes_of_isBlank {c : Char} (h : isBlank c = true) :
    isCapital c = false ∧ isSmall c = false ∧ isDecimalDigit c = false := by
  obtain ⟨r, hr, hlow, hhigh⟩ := Text.CharSet.exists_range_of_covers h
  have hletters : ∀ r ∈ Text.blankCharacters.ranges, r.2 < 65 ∨ 122 < r.1 := by decide
  have hdigits : ∀ r ∈ Text.blankCharacters.ranges, ∀ q ∈ Text.decimalDigits.ranges,
      r.2 < q.1 ∨ q.2 < r.1 := by
    decide +kernel
  have hbounds := hletters r hr
  refine ⟨?_, ?_, Text.CharSet.mem_eq_false_of_apart hdigits h⟩
  · rw [← Bool.not_eq_true, isCapital_iff]
    omega
  · rw [← Bool.not_eq_true, isSmall_iff]
    omega

/-- A separator is neither a letter nor a digit of any script. -/
theorem classes_of_isSeparator {c : Char} (h : isSeparator c = true) :
    isCapital c = false ∧ isSmall c = false ∧ isDecimalDigit c = false := by
  simp only [isSeparator, Bool.or_eq_true, decide_eq_true_eq] at h
  rcases h with ((rfl | rfl) | rfl) | hblank
  · decide
  · decide
  · decide
  · exact classes_of_isBlank hblank

/-! ### The cuts -/

theorem breakRun_cons (c : Char) {run : List Char} (h : 2 ≤ run.length) :
    breakRun (c :: run) = c :: breakRun run := by
  have hlength : 2 ≤ run.reverse.length := by rwa [List.length_reverse]
  match hrun : run.reverse, hlength with
  | last :: previous :: first, _ => simp [breakRun, hrun]

/-- A small letter after a run of capitals breaks off the last of them, unless it is the only one:
the last but one ends an acronym. -/
theorem breakRun_eq {c d : Char} (hc : isCapital c = true) (hd : isSmall d = true)
    {run : List Char} (hrun : ∀ e ∈ run, isCapital e = true) (rest : List Char) :
    breakRun (c :: run) =
      c :: ((if endsAcronym c (run ++ d :: rest) then ['_'] else []) ++ breakRun run) := by
  match run with
  | [] =>
    have hnot : isCapital d = false := by
      rw [← Bool.not_eq_true]
      intro hcapital
      rw [isSmall_of_isCapital hcapital] at hd
      cases hd
    simp [breakRun, endsAcronym, hnot]
  | [e] =>
    have he := hrun e List.mem_cons_self
    simp [breakRun, endsAcronym, hc, hd, he]
  | e :: f :: run =>
    have hf : isSmall f = false :=
      isSmall_of_isCapital (hrun f (List.mem_cons_of_mem e List.mem_cons_self))
    rw [breakRun_cons c (by simp)]
    simp [endsAcronym, hf]

/-- No capital ends an acronym if the run of capitals ends with the text or before a character that
is no letter. -/
theorem endsAcronym_eq_false (c : Char) {run rest : List Char}
    (hrun : ∀ e ∈ run, isCapital e = true)
    (hrest : ∀ d ∈ rest.head?, isCapital d = false ∧ isSmall d = false) :
    endsAcronym c (run ++ rest) = false := by
  match run with
  | [] =>
    cases rest with
    | nil => simp [endsAcronym]
    | cons d rest => simp [endsAcronym, (hrest d rfl).1]
  | [e] =>
    cases rest with
    | nil => simp [endsAcronym]
    | cons d rest => simp [endsAcronym, (hrest d rfl).2]
  | e :: f :: run =>
    have hf : isSmall f = false :=
      isSmall_of_isCapital (hrun f (List.mem_cons_of_mem e List.mem_cons_self))
    simp [endsAcronym, hf]

/-- The first capital of the run read so far is followed by an underscore if it ends an acronym. -/
theorem breakAcronymsAfter_cons {c : Char} (hc : isCapital c = true) {run : List Char}
    (hrun : ∀ e ∈ run, isCapital e = true) (cs : List Char) :
    breakAcronymsAfter (c :: run) cs =
      c :: ((if endsAcronym c (run ++ cs) then ['_'] else []) ++ breakAcronymsAfter run cs) := by
  induction cs generalizing run with
  | nil =>
    rw [endsAcronym_eq_false c hrun (by simp)]
    rfl
  | cons d cs ih =>
    rw [breakAcronymsAfter, breakAcronymsAfter]
    cases hcapital : isCapital d with
    | true =>
      have hlonger : ∀ e ∈ run ++ [d], isCapital e = true := by
        simpa [or_imp, forall_and, hcapital] using hrun
      simpa using ih hlonger
    | false =>
      cases hsmall : isSmall d with
      | true => simp [breakRun_eq hc hsmall hrun cs]
      | false =>
        rw [endsAcronym_eq_false c hrun (by simp [hcapital, hsmall])]
        simp

/-- An underscore is put after each character that ends an acronym. -/
theorem breakAcronyms_cons (c : Char) (rest : List Char) :
    breakAcronyms (c :: rest) =
      c :: ((if endsAcronym c rest then ['_'] else []) ++ breakAcronyms rest) := by
  rw [breakAcronyms, breakAcronymsAfter]
  cases hc : isCapital c with
  | true => exact breakAcronymsAfter_cons hc (by simp) rest
  | false =>
    have hnot : endsAcronym c rest = false := by simp [endsAcronym, hc]
    cases isSmall c <;> simp [hnot, breakRun, breakAcronyms]

/-- An underscore is put after each character that ends a word. -/
theorem breakWords_cons (c : Char) (rest : List Char) :
    breakWords (c :: rest) =
      c :: ((if endsWord c rest then ['_'] else []) ++ breakWords rest) := by
  cases rest with
  | nil => simp [endsWord, breakWords]
  | cons next rest =>
    have hends : endsWord c (next :: rest) =
        ((isSmall c || isDecimalDigit c) && isCapital next) := rfl
    rw [breakWords, ← hends]
    cases endsWord c (next :: rest) <;> rfl

/-- After both passes, an underscore stands in each cut. -/
theorem breakWords_breakAcronyms_cons (c : Char) (rest : List Char) :
    breakWords (breakAcronyms (c :: rest)) =
      c :: ((if cutsBefore c rest then ['_'] else []) ++ breakWords (breakAcronyms rest)) := by
  rw [breakAcronyms_cons, breakWords_cons, cutsBefore]
  cases hacronym : endsAcronym c rest with
  | true =>
    -- the underscore of the first pass ends no word, and neither does the capital before it
    have hbefore : endsWord c ('_' :: breakAcronyms rest) = false := by
      have hcapital : isCapital '_' = false := by decide
      simp [endsWord, hcapital]
    have hafter : endsWord '_' (breakAcronyms rest) = false := by
      have hclasses : (isSmall '_' || isDecimalDigit '_') = false := by decide
      simp [endsWord, hclasses]
    simp [breakWords_cons, hbefore, hafter]
  | false =>
    have hhead : (breakAcronyms rest).head? = rest.head? := by
      cases rest with
      | nil => rfl
      | cons d rest => rw [breakAcronyms_cons]; rfl
    simp [endsWord, hhead]

theorem pieces_ne_nil (cs : List Char) : pieces cs ≠ [] := by
  cases cs with
  | nil => simp [pieces]
  | cons c rest =>
    rw [pieces]
    split
    · simp
    · split
      · simp
      · exact Text.consFirst_ne_nil c _

theorem cutsBefore_of_isSeparator {c : Char} (h : isSeparator c = true) (rest : List Char) :
    cutsBefore c rest = false := by
  obtain ⟨hcapital, hsmall, hdigit⟩ := classes_of_isSeparator h
  simp [cutsBefore, endsWord, endsAcronym, hcapital, hsmall, hdigit]

theorem unifySeparators_cons (c : Char) (rest : List Char) :
    unifySeparators (c :: rest) = (if isSeparator c then '_' else c) :: unifySeparators rest := by
  have hchar : (if c = '.' ∨ c = '-' ∨ isBlank c then '_' else c) =
      if isSeparator c then '_' else c := by
    by_cases hunderscore : c = '_'
    · simp [hunderscore]
    · simp [isSeparator, hunderscore, or_assoc]
  rw [unifySeparators, List.map_cons, hchar]
  rfl

/-- The first three passes put an underscore between the pieces. -/
theorem intercalate_pieces (cs : List Char) :
    unifySeparators (breakWords (breakAcronyms cs)) = ['_'].intercalate (pieces cs) := by
  induction cs with
  | nil => rfl
  | cons c rest ih =>
    have hjoin (first : List Char) : ['_'].intercalate (first :: pieces rest) =
        first ++ '_' :: ['_'].intercalate (pieces rest) := by
      obtain ⟨piece, later, hpieces⟩ := List.exists_cons_of_ne_nil (pieces_ne_nil rest)
      rw [hpieces, List.intercalate_cons_cons, List.append_assoc]
      rfl
    rw [breakWords_breakAcronyms_cons, unifySeparators_cons, pieces]
    cases hseparator : isSeparator c with
    | true =>
      rw [cutsBefore_of_isSeparator hseparator, if_pos rfl, if_pos rfl, hjoin, ← ih]
      rfl
    | false =>
      cases cutsBefore c rest with
      | true =>
        have hmark : isSeparator '_' = true := by decide
        simp [unifySeparators_cons, hmark, hjoin, ih]
      | false => simp [Text.intercalate_consFirst _ _ (pieces_ne_nil rest), ih]

/-! ### What is left of the pieces -/

theorem underscore_notMem_pieces {cs piece : List Char} (h : piece ∈ pieces cs) : '_' ∉ piece := by
  induction cs generalizing piece with
  | nil => simp_all [pieces]
  | cons c rest ih =>
    rw [pieces] at h
    split at h
    · rcases List.mem_cons.1 h with rfl | h
      · simp
      · exact ih h
    · next hseparator =>
      have hc : '_' ≠ c := by
        rintro rfl
        exact hseparator (by decide)
      split at h
      · rcases List.mem_cons.1 h with rfl | h
        · simpa using hc
        · exact ih h
      · obtain ⟨first, later, hpieces⟩ := List.exists_cons_of_ne_nil (pieces_ne_nil rest)
        rw [hpieces, Text.consFirst] at h
        rcases List.mem_cons.1 h with rfl | h
        · have hfirst := ih (hpieces ▸ List.mem_cons_self)
          simp [hc, hfirst]
        · exact ih (hpieces ▸ List.mem_cons_of_mem first h)

/-- The fourth pass leaves the underscores between the pieces, and the characters of words. -/
theorem keepNameChars_intercalate {ps : List (List Char)} (h : ∀ p ∈ ps, '_' ∉ p) :
    keepNameChars (['_'].intercalate ps) = ['_'].intercalate (ps.map (List.filter isWordChar)) := by
  have happend (cs ds : List Char) :
      keepNameChars (cs ++ ds) = keepNameChars cs ++ keepNameChars ds := List.filter_append cs ds
  rw [Text.apply_intercalate happend (by decide)]
  refine congrArg _ (List.map_congr_left fun p hp ↦ List.filter_congr fun c hc ↦ ?_)
  have hne : c ≠ '_' := fun heq ↦ h p hp (heq ▸ hc)
  simp [isNameChar, isWordChar, hne]

/-! ### Empty pieces -/

theorem mergeUnderscores_append {word : List Char} (h : '_' ∉ word) (rest : List Char) :
    mergeUnderscores (word ++ rest) = word ++ mergeUnderscores rest := by
  induction word with
  | nil => rfl
  | cons c word ih =>
    rw [List.mem_cons, not_or] at h
    rw [List.cons_append, mergeUnderscores, if_neg fun hc ↦ h.1 hc.1.symm, ih h.2, List.cons_append]

/-- An underscore swallows those that follow it. -/
theorem mergeUnderscores_underscore (rest : List Char) :
    mergeUnderscores ('_' :: rest) = '_' :: (mergeUnderscores rest).dropWhile (· = '_') := by
  induction rest with
  | nil => rfl
  | cons c rest ih =>
    by_cases hc : c = '_'
    · subst hc
      rw [mergeUnderscores, if_pos ⟨rfl, rfl⟩, ih, List.dropWhile_cons_of_pos (by rfl),
        List.dropWhile_idempotent]
    · have hkept : mergeUnderscores (c :: rest) = c :: mergeUnderscores rest := by
        rw [mergeUnderscores, if_neg fun h ↦ hc h.1]
      rw [mergeUnderscores, if_neg (by simpa using hc), hkept]
      simp [hc]

theorem dropWhile_append_of_notMem {word : List Char} (h : '_' ∉ word) (hne : word ≠ [])
    (rest : List Char) : (word ++ rest).dropWhile (· = '_') = word ++ rest := by
  obtain ⟨c, later, rfl⟩ := List.exists_cons_of_ne_nil hne
  rw [List.mem_cons, not_or] at h
  exact List.dropWhile_cons_of_neg (by simpa using Ne.symm h.1)

theorem dropWhile_of_notMem {cs : List Char} (h : '_' ∉ cs) : cs.dropWhile (· = '_') = cs := by
  by_cases hne : cs = []
  · rw [hne, List.dropWhile_nil]
  · simpa using dropWhile_append_of_notMem h hne []

theorem trimUnderscores_of_notMem {word : List Char} (h : '_' ∉ word) :
    trimUnderscores word = word := by
  rw [trimUnderscores, dropWhile_of_notMem h, dropWhile_of_notMem (by simpa using h),
    List.reverse_reverse]

/-- A word in front stays as it is, and the underscore after it stays if something is left of what
follows. -/
theorem trimUnderscores_append {word : List Char} (h : '_' ∉ word) (hne : word ≠ [])
    (cs : List Char) :
    trimUnderscores (word ++ '_' :: cs.dropWhile (· = '_')) =
      if trimUnderscores cs = [] then word else word ++ '_' :: trimUnderscores cs := by
  have hword : word.reverse.dropWhile (· = '_') = word.reverse :=
    dropWhile_of_notMem (by simpa using h)
  rw [trimUnderscores, trimUnderscores, dropWhile_append_of_notMem h hne, List.reverse_append,
    List.reverse_cons, List.dropWhile_append, List.dropWhile_append, hword]
  cases (cs.dropWhile (· = '_')).reverse.dropWhile (· = '_') with
  | nil => simp
  | cons d ds => simp

/-- At the front, an underscore is trimmed like those that follow it. -/
theorem trimUnderscores_underscore (cs : List Char) :
    trimUnderscores ('_' :: cs.dropWhile (· = '_')) = trimUnderscores cs := by
  rw [trimUnderscores, trimUnderscores, List.dropWhile_cons_of_pos (by rfl),
    List.dropWhile_idempotent]

/-- A piece in front of pieces that are not empty is joined to them unless there are none. -/
theorem intercalate_cons_of_nil_notMem (p : List Char) {ps : List (List Char)} (h : [] ∉ ps) :
    ['_'].intercalate (p :: ps) =
      if ['_'].intercalate ps = [] then p else p ++ '_' :: ['_'].intercalate ps := by
  cases ps with
  | nil => simp
  | cons q later =>
    have hq : q ≠ [] := fun hq ↦ h (hq ▸ List.mem_cons_self)
    have hjoined : ['_'].intercalate (q :: later) ≠ [] := by
      cases later <;> simp [List.intercalate_cons_cons, hq]
    rw [if_neg hjoined, List.intercalate_cons_cons, List.append_assoc, List.singleton_append]

/-- The fifth and the sixth pass remove the underscores next to empty pieces. -/
theorem trimUnderscores_mergeUnderscores {ps : List (List Char)} (h : ∀ p ∈ ps, '_' ∉ p) :
    trimUnderscores (mergeUnderscores (['_'].intercalate ps)) =
      ['_'].intercalate (ps.filter (· ≠ [])) := by
  induction ps with
  | nil => rfl
  | cons p later ih =>
    have hp := h p List.mem_cons_self
    have htail := ih fun q hq ↦ h q (List.mem_cons_of_mem p hq)
    cases later with
    | nil =>
      have hmerge : mergeUnderscores p = p := by
        have happend := mergeUnderscores_append hp []
        rwa [List.append_nil, mergeUnderscores, List.append_nil] at happend
      rw [List.intercalate_singleton, hmerge, trimUnderscores_of_notMem hp]
      by_cases hne : p = [] <;> simp [hne]
    | cons q later =>
      rw [List.intercalate_cons_cons, List.append_assoc, List.singleton_append,
        mergeUnderscores_append hp, mergeUnderscores_underscore]
      by_cases hne : p = []
      · subst hne
        have hempty : ([] :: q :: later).filter (· ≠ []) = (q :: later).filter (· ≠ []) :=
          List.filter_cons_of_neg (by simp)
        rw [hempty, ← htail, List.nil_append, trimUnderscores_underscore]
      · have hkept : (p :: q :: later).filter (· ≠ []) = p :: (q :: later).filter (· ≠ []) :=
          List.filter_cons_of_pos (by simpa using hne)
        rw [hkept, trimUnderscores_append hp hne, htail, intercalate_cons_of_nil_notMem p (by simp)]

/-! ### The words -/

/-- Snake case joins the words of the name. -/
theorem snakeCase_eq_words (name : String) :
    snakeCase name = String.intercalate "_" (words name) := by
  have hpieces : ∀ p ∈ pieces name.toList, '_' ∉ p := fun p ↦ underscore_notMem_pieces
  have hkept : ∀ p ∈ (pieces name.toList).map (List.filter isWordChar), '_' ∉ p := by
    intro p hp hmem
    obtain ⟨q, hq, rfl⟩ := List.mem_map.1 hp
    exact hpieces q hq (List.mem_of_mem_filter hmem)
  have hchars : snakeChars name.toList = ['_'].intercalate
      ((((pieces name.toList).map (List.filter isWordChar)).filter (· ≠ [])).map
        (List.map toSmall)) := by
    rw [snakeChars, intercalate_pieces, keepNameChars_intercalate hpieces,
      trimUnderscores_mergeUnderscores hkept]
    exact Text.apply_intercalate (fun _ _ ↦ List.map_append) (by decide) _
  rw [← String.toList_inj, String.toList_intercalate, snakeCase, String.toList_ofList, hchars,
    words, List.map_map]
  congr 1
  refine List.map_congr_left fun word _ ↦ ?_
  exact (String.toList_ofList).symm

example : words "DescribeDBInstances-v2" = ["describe", "db", "instances", "v2"] := by decide

end ServiceClient.Identifier
