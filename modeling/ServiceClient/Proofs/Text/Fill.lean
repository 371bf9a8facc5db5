import Mathlib.Data.List.Chain
import ServiceClient.Proofs.Text.Blank
import ServiceClient.Proofs.Text.Run
import ServiceClient.Proofs.Text.Wrap

/-!
# What filled lines are

A paragraph without stray blanks is cut into chunks that are either blank or free of blanks, with no
two blank ones beside each other. What is left after a line has been filled is such chunks again,
although a chunk may have been broken, and it is less work. A line that begins with a chunk that is
not blank is not blank either, and no line but the first can begin with another one, since its blank
start is dropped; the first begins as the paragraph does.

So the lines are no wider than they may be, none of them is blank, and they hold the characters of
the paragraph in their order, apart from blanks: `isFilled_wrap`.
-/

namespace ServiceClient.Text

/-- Some lines are a paragraph, filled. -/
structure IsFilled (width : Nat) (paragraph : List Char) (lines : List (List Char)) : Prop where
  /-- There is a line. -/
  ne_nil : lines ≠ []
  /-- No line is wider than the given width. -/
  length_le : ∀ line ∈ lines, line.length ≤ width
  /-- No line is blank. -/
  exists_ne_space : ∀ line ∈ lines, ∃ c ∈ line, c ≠ ' '
  /-- The only blank in a line is the space. -/
  eq_space : ∀ line ∈ lines, ∀ c ∈ line, isBlank c = true → c = ' '
  /-- But for the spaces, the lines are the paragraph. -/
  filter_eq : lines.flatten.filter (· ≠ ' ') = paragraph.filter (· ≠ ' ')

/-! ### Tidy chunks -/

/-- A chunk is blank or free of blanks. -/
def IsUniform (chunk : List Char) : Prop :=
  chunk ≠ [] ∧ (isBlankChunk chunk = true ∨ ∀ c ∈ chunk, isBlank c = false)

/-- Chunks are blank or free of blanks, and no two blank ones are neighbours. -/
structure IsTidy (all : List (List Char)) : Prop where
  /-- Each chunk is of one kind. -/
  isUniform : ∀ chunk ∈ all, IsUniform chunk
  /-- After a blank chunk comes one that is not. -/
  apart : all.IsChain fun chunk next ↦ isBlankChunk chunk = true → isBlankChunk next = false

/-- The chunks do not begin with a blank one. -/
def BeginsInk (all : List (List Char)) : Prop := ∀ chunk ∈ all.head?, isBlankChunk chunk = false

theorem isBlankChunk_eq_false {chunk : List Char} (hne : chunk ≠ [])
    (h : ∀ c ∈ chunk, isBlank c = false) : isBlankChunk chunk = false := by
  obtain ⟨c, rest, rfl⟩ := List.exists_cons_of_ne_nil hne
  rw [isBlankChunk, List.all_cons, h c List.mem_cons_self, Bool.false_and]

/-- A blank chunk adds no ink. -/
theorem filter_eq_nil_of_isBlankChunk {chunk : List Char} (h : isBlankChunk chunk = true) :
    chunk.filter (!isBlank ·) = [] :=
  List.filter_eq_nil_iff.2 fun c hc ↦ by simp [List.all_eq_true.1 h c hc]

/-- A chunk that is free of blanks stays so where it is broken, and a blank one stays blank. -/
theorem IsUniform.of_subset {chunk piece : List Char} (h : IsUniform chunk) (hne : piece ≠ [])
    (hpiece : piece ⊆ chunk) :
    IsUniform piece ∧ isBlankChunk piece = isBlankChunk chunk := by
  rcases h with ⟨hchunk, hblank | hink⟩
  · have hpieceBlank : isBlankChunk piece = true :=
      List.all_eq_true.2 fun c hc ↦ List.all_eq_true.1 hblank c (hpiece hc)
    exact ⟨⟨hne, .inl hpieceBlank⟩, hpieceBlank.trans hblank.symm⟩
  · have hpieceInk : ∀ c ∈ piece, isBlank c = false := fun c hc ↦ hink c (hpiece hc)
    refine ⟨⟨hne, .inr hpieceInk⟩, ?_⟩
    rw [isBlankChunk_eq_false hne hpieceInk, isBlankChunk_eq_false hchunk hink]

theorem IsTidy.of_isSuffix {all left : List (List Char)} (h : IsTidy all) (hleft : left <:+ all) :
    IsTidy left :=
  ⟨fun chunk hchunk ↦ h.isUniform chunk (hleft.subset hchunk), h.apart.suffix hleft⟩

/-- Breaking the first chunk leaves tidy chunks. -/
theorem IsTidy.of_drop {chunk : List Char} {rest : List (List Char)} (h : IsTidy (chunk :: rest))
    {point : Nat} (hpoint : point < chunk.length) : IsTidy (chunk.drop point :: rest) := by
  have hne : chunk.drop point ≠ [] := by
    rw [Ne, List.drop_eq_nil_iff]
    omega
  obtain ⟨huniform, hblank⟩ := (h.isUniform chunk List.mem_cons_self).of_subset hne
    (List.drop_subset point chunk)
  obtain ⟨hnext, hrest⟩ := List.isChain_cons.1 h.apart
  refine ⟨List.forall_mem_cons.2 ⟨huniform, (List.forall_mem_cons.1 h.isUniform).2⟩, ?_⟩
  exact List.isChain_cons.2 ⟨fun next hmem hdrop ↦ hnext next hmem (hblank ▸ hdrop), hrest⟩

/-! ### A line -/

/-- The chunks that are taken fit into the room. -/
theorem length_takeFitting_le (room : Nat) (all : List (List Char)) :
    (takeFitting room all).1.flatten.length ≤ room := by
  induction all generalizing room with
  | nil => exact Nat.zero_le room
  | cons chunk rest ih =>
    rw [takeFitting]
    split
    · have hrest := ih (room - chunk.length)
      rw [List.flatten_cons, List.length_append]
      omega
    · exact Nat.zero_le room

/-- The first chunk that is left does not fit into the room that is left. -/
theorem lt_length_of_takeFitting {room : Nat} {all taken rest : List (List Char)}
    {chunk : List Char} (h : takeFitting room all = (taken, chunk :: rest)) :
    room < taken.flatten.length + chunk.length := by
  induction all generalizing room taken with
  | nil => cases h
  | cons first later ih =>
    rw [takeFitting] at h
    split at h
    · rcases hlater : takeFitting (room - first.length) later with ⟨taken', left⟩
      rw [hlater] at h
      obtain ⟨rfl, rfl⟩ := Prod.mk.inj h
      have hroom := ih hlater
      rw [List.flatten_cons, List.length_append]
      omega
    · obtain ⟨rfl, hleft⟩ := Prod.mk.inj h
      obtain ⟨rfl, -⟩ := List.cons.inj hleft
      simpa using ‹¬first.length ≤ room›

/-- A chunk is broken within the room. -/
theorem breakPoint_le (room : Nat) (chunk : List Char) : breakPoint room chunk ≤ room := by
  dsimp only [breakPoint]
  split
  · rw [List.length_reverse]
    have hdrop := (List.dropWhile_suffix (l := (chunk.take room).reverse) (· ≠ '-')).length_le
    rw [List.length_reverse, List.length_take] at hdrop
    omega
  · exact le_rfl

/-- A chunk is broken after some character, if there is room for one. -/
theorem breakPoint_pos {room : Nat} (hroom : 0 < room) (chunk : List Char) :
    0 < breakPoint room chunk := by
  dsimp only [breakPoint]
  split
  · next hbreak =>
    rw [List.length_pos_iff]
    intro hnone
    rw [hnone] at hbreak
    cases hbreak.2
  · exact hroom

/-- A line takes the chunks that fit, at least one, and leaves the others; or the first chunk that
does not fit is wider than any line, and the line takes the beginning of that chunk as well, which
is not empty unless others have been taken. -/
theorem lineOf_cases {width : Nat} (hwidth : 0 < width) {all : List (List Char)} (hne : all ≠ []) :
    (∃ taken left, all = taken ++ left ∧ taken ≠ [] ∧ taken.flatten.length ≤ width ∧
      lineOf width all = (taken, left)) ∨
    ∃ taken chunk rest point, all = taken ++ chunk :: rest ∧ (taken = [] → 0 < point) ∧
      taken.flatten.length + point ≤ width ∧ width < chunk.length ∧
      lineOf width all = (taken ++ [chunk.take point], chunk.drop point :: rest) := by
  rcases htake : takeFitting width all with ⟨taken, left⟩
  have happend : all = taken ++ left := by rw [← takeFitting_append width all, htake]
  have hfit : taken.flatten.length ≤ width := by simpa [htake] using length_takeFitting_le width all
  rcases left with - | ⟨chunk, rest⟩
  · refine .inl ⟨taken, [], happend, ?_, hfit, by rw [lineOf, htake]⟩
    rintro rfl
    exact hne happend
  · have hleft := lt_length_of_takeFitting htake
    by_cases hlong : width < chunk.length
    · refine .inr ⟨taken, chunk, rest, breakPoint (width - taken.flatten.length) chunk, happend,
        ?_, ?_, hlong, by rw [lineOf, htake]; exact if_pos hlong⟩
      · rintro rfl
        exact breakPoint_pos hwidth chunk
      · have hpoint := breakPoint_le (width - taken.flatten.length) chunk
        omega
    · refine .inl ⟨taken, chunk :: rest, happend, ?_, hfit, by
        rw [lineOf, htake]
        exact if_neg hlong⟩
      rintro rfl
      rw [List.flatten_nil, List.length_nil, Nat.zero_add] at hleft
      exact hlong hleft

/-- Taking chunks away is work done. -/
theorem work_append (taken left : List (List Char)) :
    work (taken ++ left) = work taken + work left := by
  rw [work, work, work, List.flatten_append, List.length_append, List.length_append]
  omega

theorem work_pos {all : List (List Char)} (h : all ≠ []) : 0 < work all := by
  have hlength := List.length_pos_iff.2 h
  rw [work]
  omega

/-- What a step of filling achieves: a line that fits and does not begin with a blank chunk, and
tidy chunks that are less work. -/
structure IsStep (width : Nat) (all line left : List (List Char)) : Prop where
  /-- The line fits. -/
  length_le : line.flatten.length ≤ width
  /-- The line has a chunk. -/
  ne_nil : line ≠ []
  /-- The line does not begin with a blank chunk. -/
  beginsInk : BeginsInk line
  /-- The chunks that are left are tidy. -/
  isTidy : IsTidy left
  /-- There is less work left. -/
  work_lt : work left < work all

theorem isStep_lineOf {width : Nat} (hwidth : 0 < width) {all : List (List Char)} (hne : all ≠ [])
    (htidy : IsTidy all) (hink : BeginsInk all) :
    IsStep width all (lineOf width all).1 (lineOf width all).2 := by
  obtain ⟨taken, left, rfl, htaken, hfit, hline⟩ |
    ⟨taken, chunk, rest, point, rfl, hpos, hfit, hlong, hline⟩ := lineOf_cases hwidth hne
  · rw [hline]
    refine ⟨hfit, htaken, fun first hfirst ↦ hink first ?_,
      htidy.of_isSuffix (List.suffix_append taken left), ?_⟩
    · rw [List.head?_append, hfirst]
      rfl
    · have hwork := work_pos htaken
      rw [work_append]
      show work left < _
      omega
  · rw [hline]
    have hleft : IsTidy (chunk :: rest) := htidy.of_isSuffix (List.suffix_append taken _)
    have hshort : point < chunk.length := by omega
    refine ⟨?_, by simp, ?_, hleft.of_drop hshort, ?_⟩
    · rw [List.flatten_append, List.length_append, List.flatten_singleton, List.length_take]
      omega
    · rcases taken with - | ⟨first, taken⟩
      · -- the piece begins the line, so it is not empty
        have hpiece : chunk.take point ≠ [] := by
          have hpoint := hpos rfl
          rw [Ne, List.take_eq_nil_iff]
          rintro (hzero | rfl)
          · omega
          · cases hlong
        have hblank := ((hleft.isUniform chunk List.mem_cons_self).of_subset hpiece
          (List.take_subset point chunk)).2
        rintro first hfirst
        obtain rfl := Option.some.inj hfirst
        exact hblank.trans (hink chunk rfl)
      · exact fun other hother ↦ hink other hother
    · have hdrop : work (chunk.drop point :: rest) + point = work (chunk :: rest) := by
        simp only [work, List.flatten_cons, List.length_append, List.length_drop, List.length_cons]
        omega
      have hprogress : 0 < work taken + point := by
        by_cases htaken : taken = []
        · have hpoint := hpos htaken
          omega
        · have hwork := work_pos htaken
          omega
      rw [work_append]
      show work (chunk.drop point :: rest) < _
      omega

/-! ### All lines -/

/-- Dropping a blank chunk at the end of a line takes no ink away. -/
theorem filter_dropBlankEnd (line : List (List Char)) :
    (dropBlankEnd line).flatten.filter (!isBlank ·) = line.flatten.filter (!isBlank ·) := by
  rw [dropBlankEnd]
  rcases hlast : line.getLast? with - | chunk
  · rfl
  · dsimp only
    split
    · next hblank =>
      obtain ⟨before, rfl⟩ := List.getLast?_eq_some_iff.1 hlast
      rw [List.dropLast_concat, List.flatten_append, List.filter_append, List.flatten_singleton,
        filter_eq_nil_of_isBlankChunk hblank, List.append_nil]
    · rfl

/-- Dropping a blank chunk at the start takes no ink away. -/
theorem filter_dropBlankStart (all : List (List Char)) :
    (dropBlankStart all).flatten.filter (!isBlank ·) = all.flatten.filter (!isBlank ·) := by
  rcases all with - | ⟨chunk, rest⟩
  · rfl
  · rw [dropBlankStart]
    split
    · next hblank =>
      rw [List.flatten_cons, List.filter_append, filter_eq_nil_of_isBlankChunk hblank,
        List.nil_append]
    · rfl

/-- Tidy chunks without a blank start begin with a chunk that is not blank. -/
theorem beginsInk_dropBlankStart {all : List (List Char)} (h : IsTidy all) :
    BeginsInk (dropBlankStart all) := by
  rcases all with - | ⟨chunk, rest⟩
  · rintro first hfirst
    cases hfirst
  · rw [dropBlankStart]
    split
    · next hblank => exact fun next hnext ↦ (List.isChain_cons.1 h.apart).1 next hnext hblank
    · next hink =>
      rintro first hfirst
      obtain rfl := Option.some.inj hfirst
      simpa using hink

/-- Chunks are no less work than the end of them. -/
theorem work_le_of_isSuffix {all left : List (List Char)} (h : left <:+ all) :
    work left ≤ work all := by
  obtain ⟨taken, rfl⟩ := h
  rw [work_append]
  omega

/-- Chunks that begin with ink hold some. -/
theorem exists_ink {all : List (List Char)} (hne : all ≠ []) (h : BeginsInk all) :
    ∃ c ∈ all.flatten, isBlank c = false := by
  obtain ⟨chunk, rest, rfl⟩ := List.exists_cons_of_ne_nil hne
  obtain ⟨c, hc, hink⟩ := List.all_eq_false.1 (h chunk rfl)
  exact ⟨c, List.mem_append_left _ hc, by simpa using hink⟩

/-- A step of filling, where there are chunks to fill with. -/
theorem fill_succ {width fuel : Nat} {isFirst : Bool} {all next : List (List Char)}
    (hnext : (if isFirst then all else dropBlankStart all) = next) (hne : next ≠ []) :
    fill width (fuel + 1) isFirst all =
      if (dropBlankEnd (lineOf width next).1).isEmpty then
        fill width fuel isFirst (lineOf width next).2
      else
        (dropBlankEnd (lineOf width next).1).flatten ::
          fill width fuel false (lineOf width next).2 := by
  obtain ⟨chunk, rest, rfl⟩ := List.exists_cons_of_ne_nil hne
  rw [fill, hnext]

/-- Tidy chunks fill lines of which none is too wide and none is blank, and which hold all their
ink. -/
theorem fill_spec {width : Nat} (hwidth : 0 < width) {fuel : Nat} {isFirst : Bool}
    {all : List (List Char)} (htidy : IsTidy all) (hfuel : work all ≤ fuel)
    (hfirst : isFirst = true → BeginsInk all) :
    (∀ line ∈ fill width fuel isFirst all,
      line.length ≤ width ∧ ∃ c ∈ line, isBlank c = false) ∧
    (fill width fuel isFirst all).flatten.filter (!isBlank ·) =
      all.flatten.filter (!isBlank ·) := by
  induction fuel generalizing isFirst all with
  | zero =>
    obtain rfl : all = [] := by
      by_contra hne
      have hwork := work_pos hne
      omega
    exact ⟨List.forall_mem_nil _, rfl⟩
  | succ fuel ih =>
    -- the chunks for the next line begin with ink, and dropping what was blank lost none
    obtain ⟨next, hnext, hsuffix, hink, hfilter⟩ : ∃ next,
        (if isFirst then all else dropBlankStart all) = next ∧ next <:+ all ∧ BeginsInk next ∧
          next.flatten.filter (!isBlank ·) = all.flatten.filter (!isBlank ·) := by
      rcases isFirst with - | -
      · exact ⟨_, rfl, isSuffix_dropBlankStart all, beginsInk_dropBlankStart htidy,
          filter_dropBlankStart all⟩
      · exact ⟨_, rfl, List.suffix_rfl, hfirst rfl, rfl⟩
    by_cases hne : next = []
    · rw [fill, hnext, hne, ← hfilter, hne]
      exact ⟨List.forall_mem_nil _, rfl⟩
    · have hstep := isStep_lineOf hwidth hne (htidy.of_isSuffix hsuffix) hink
      have hline := filter_dropBlankEnd (lineOf width next).1
      have hwork := work_le_of_isSuffix hsuffix
      have hless := hstep.work_lt
      obtain ⟨hlater, hleft⟩ := @ih false (lineOf width next).2 hstep.isTidy (by omega) (by simp)
      -- the line has ink, which stays when a blank end is dropped
      obtain ⟨c, hc, hcink⟩ := exists_ink hstep.ne_nil hstep.beginsInk
      have hkept : c ∈ (dropBlankEnd (lineOf width next).1).flatten := by
        have hmem : c ∈ (lineOf width next).1.flatten.filter (!isBlank ·) :=
          List.mem_filter.2 ⟨hc, by rw [hcink]; rfl⟩
        rw [← hline] at hmem
        exact List.mem_of_mem_filter hmem
      have hfull : (dropBlankEnd (lineOf width next).1).isEmpty = false := by
        rw [List.isEmpty_eq_false_iff]
        intro hempty
        rw [hempty] at hkept
        cases hkept
      rw [fill_succ hnext hne, hfull, if_neg Bool.false_ne_true]
      refine ⟨List.forall_mem_cons.2 ⟨⟨?_, c, hkept, hcink⟩, hlater⟩, ?_⟩
      · exact (isPrefix_dropBlankEnd _).sublist.flatten.length_le.trans hstep.length_le
      · rw [List.flatten_cons, List.filter_append, hline, hleft, ← List.filter_append,
          lineOf_flatten, hfilter]

/-! ### The chunks of a paragraph -/

theorem isBlank_of_isSpace {c : Char} (h : isSpace c = true) : isBlank c = true := by
  simp only [isSpace, Bool.or_eq_true, decide_eq_true_eq] at h
  rcases h with ((((rfl | rfl) | rfl) | rfl) | rfl) | rfl <;> decide

/-- The rest of a word has no space in it. -/
theorem isSpace_eq_false_of_mem_wordRest {before cs : List Char} :
    ∀ c ∈ (wordRest before cs).1, isSpace c = false := by
  induction cs generalizing before with
  | nil => simp [wordRest]
  | cons c rest ih =>
    rw [wordRest]
    split
    · next hhyphen =>
      simp only [Bool.and_eq_true, decide_eq_true_eq] at hhyphen
      rw [List.forall_mem_singleton, hhyphen.1.1]
      decide
    · split
      · exact List.forall_mem_nil _
      · next hstop =>
        rw [Bool.not_eq_true, Bool.or_eq_false_iff] at hstop
        exact List.forall_mem_cons.2 ⟨hstop.1, ih⟩

/-- A chunk begins with the character it is found from. -/
theorem exists_chunkFrom_eq (before : List Char) (c : Char) (rest : List Char) :
    ∃ later, (chunkFrom before c rest).1 = c :: later := by
  unfold chunkFrom
  split
  · exact ⟨_, rfl⟩
  · split
    · exact ⟨_, rfl⟩
    · exact ⟨_, rfl⟩

/-- A chunk is all spaces up to a character that is none, or it has no space in it. -/
theorem chunkFrom_cases (before : List Char) (c : Char) (rest : List Char) :
    (isSpace c = true ∧ (∀ d ∈ (chunkFrom before c rest).1, isSpace d = true) ∧
      ∀ d ∈ (chunkFrom before c rest).2.head?, isSpace d = false) ∨
    isSpace c = false ∧ ∀ d ∈ (chunkFrom before c rest).1, isSpace d = false := by
  rcases hc : isSpace c with - | -
  · refine .inr ⟨rfl, ?_⟩
    rw [chunkFrom, hc, if_neg Bool.false_ne_true]
    split
    · refine List.forall_mem_cons.2 ⟨hc, fun d hd ↦ ?_⟩
      have hhyphen := List.mem_takeWhile_imp hd
      rw [of_decide_eq_true hhyphen]
      decide
    · exact List.forall_mem_cons.2 ⟨hc, isSpace_eq_false_of_mem_wordRest⟩
  · refine .inl ⟨rfl, ?_⟩
    rw [chunkFrom, hc, if_pos rfl]
    refine ⟨List.forall_mem_cons.2 ⟨hc, fun d hd ↦ List.mem_takeWhile_imp hd⟩, fun d hd ↦ ?_⟩
    have hstop := List.head?_dropWhile_not isSpace rest
    rw [Option.mem_def] at hd
    simpa [hd] using hstop

/-- Text whose only blank is the space is cut into tidy chunks. -/
theorem isTidy_chunksAfter (before : List Char) {cs : List Char}
    (hblank : ∀ c ∈ cs, isBlank c = true → c = ' ') : IsTidy (chunksAfter before cs) := by
  fun_induction chunksAfter before cs with
  | case1 => exact ⟨List.forall_mem_nil _, List.isChain_nil⟩
  | case2 before c rest ih =>
    have happend := chunkFrom_append before c rest
    have hink : ∀ d ∈ c :: rest, isSpace d = false → isBlank d = false := by
      intro d hd hspace
      by_contra hdblank
      rw [hblank d hd (by simpa using hdblank)] at hspace
      cases hspace
    have hlater := ih fun d hd ↦ hblank d (happend ▸ List.mem_append_right _ hd)
    obtain ⟨more, hchunk⟩ := exists_chunkFrom_eq before c rest
    have hne : (chunkFrom before c rest).1 ≠ [] := hchunk ▸ List.cons_ne_nil c more
    rcases chunkFrom_cases before c rest with ⟨-, hspaces, hstop⟩ | ⟨-, hword⟩
    · -- the next chunk begins where the spaces end
      refine ⟨List.forall_mem_cons.2 ⟨⟨hne, .inl (List.all_eq_true.2 fun d hd ↦
        isBlank_of_isSpace (hspaces d hd))⟩, hlater.isUniform⟩, ?_⟩
      refine List.isChain_cons.2 ⟨fun next hnext _ ↦ ?_, hlater.apart⟩
      rcases hafter : (chunkFrom before c rest).2 with - | ⟨d, after⟩
      · rw [hafter, chunksAfter] at hnext
        cases hnext
      · have hd : isSpace d = false := hstop d (by rw [hafter]; rfl)
        rw [hafter, chunksAfter] at hnext
        obtain rfl := Option.some.inj hnext
        obtain ⟨more, hnextChunk⟩ :=
          exists_chunkFrom_eq ((chunkFrom before c rest).1.reverse ++ before) d after
        rw [hnextChunk, isBlankChunk, List.all_cons,
          hink d (happend ▸ List.mem_append_right _ (hafter ▸ List.mem_cons_self)) hd,
          Bool.false_and]
    · have hchunkInk : ∀ d ∈ (chunkFrom before c rest).1, isBlank d = false := fun d hd ↦
        hink d (happend ▸ List.mem_append_left _ hd) (hword d hd)
      refine ⟨List.forall_mem_cons.2 ⟨⟨hne, .inr hchunkInk⟩, hlater.isUniform⟩, ?_⟩
      refine List.isChain_cons.2 ⟨fun next _ hchunkBlank ↦ ?_, hlater.apart⟩
      rw [isBlankChunk_eq_false hne hchunkInk] at hchunkBlank
      cases hchunkBlank

/-- Text that begins with ink is cut into chunks that do. -/
theorem beginsInk_chunks {paragraph : List Char}
    (hink : ∀ c ∈ paragraph.head?, isBlank c = false) : BeginsInk (chunks paragraph) := by
  rcases paragraph with - | ⟨c, rest⟩
  · rintro chunk hchunk
    rw [chunks, chunksAfter] at hchunk
    cases hchunk
  · rintro chunk hchunk
    rw [chunks, chunksAfter] at hchunk
    obtain rfl := Option.some.inj hchunk
    obtain ⟨more, hmore⟩ := exists_chunkFrom_eq [] c rest
    rw [hmore, isBlankChunk, List.all_cons, hink c rfl, Bool.false_and]

/-- Where the only blank is the space, the ink is all but the spaces. -/
theorem filter_ink_eq {cs : List Char} (h : ∀ c ∈ cs, isBlank c = true → c = ' ') :
    cs.filter (!isBlank ·) = cs.filter (· ≠ ' ') := by
  refine List.filter_congr fun c hc ↦ ?_
  by_cases hspace : c = ' '
  · rw [hspace]
    rfl
  · have hcink : isBlank c = false := Bool.eq_false_iff.2 fun hblank ↦ hspace (h c hc hblank)
    simp [hspace, hcink]

/-- A paragraph that begins with ink, and in which the only blank is the space, is filled into
lines. -/
theorem isFilled_wrap {width : Nat} (hwidth : 0 < width) {paragraph : List Char}
    (hne : paragraph ≠ []) (hink : ∀ c ∈ paragraph.head?, isBlank c = false)
    (hblank : ∀ c ∈ paragraph, isBlank c = true → c = ' ') :
    IsFilled width paragraph (wrap width paragraph) := by
  have hfirst : true = true → BeginsInk (chunks paragraph) := fun _ ↦ beginsInk_chunks hink
  obtain ⟨hlines, hfilter⟩ : (∀ line ∈ wrap width paragraph,
      line.length ≤ width ∧ ∃ c ∈ line, isBlank c = false) ∧
      (wrap width paragraph).flatten.filter (!isBlank ·) =
        (chunks paragraph).flatten.filter (!isBlank ·) :=
    fill_spec hwidth (isTidy_chunksAfter [] hblank) le_rfl hfirst
  rw [flatten_chunks] at hfilter
  have hlineBlank : ∀ line ∈ wrap width paragraph, ∀ c ∈ line, isBlank c = true → c = ' ' :=
    fun line hline c hc ↦ hblank c (mem_of_mem_wrap hline hc)
  refine ⟨fun hnone ↦ ?_, fun line hline ↦ (hlines line hline).1, fun line hline ↦ ?_,
    hlineBlank, ?_⟩
  · obtain ⟨c, rest, rfl⟩ := List.exists_cons_of_ne_nil hne
    have hmem : c ∈ (c :: rest).filter (!isBlank ·) :=
      List.mem_filter.2 ⟨List.mem_cons_self, by rw [hink c rfl]; rfl⟩
    rw [← hfilter, hnone] at hmem
    cases hmem
  · obtain ⟨c, hc, hcink⟩ := (hlines line hline).2
    refine ⟨c, hc, ?_⟩
    rintro rfl
    cases hcink
  · rw [← filter_ink_eq hblank, ← hfilter, filter_ink_eq]
    intro c hc
    obtain ⟨line, hline, hmem⟩ := List.mem_flatten.1 hc
    exact hlineBlank line hline c hmem

/-- Filled lines stay so where blanks are trimmed from their ends. -/
theorem IsFilled.map_trimRight {width : Nat} {paragraph : List Char} {lines : List (List Char)}
    (h : IsFilled width paragraph lines) : IsFilled width paragraph (lines.map trimRight) := by
  have hblank : ∀ c ∈ lines.flatten, isBlank c = true → c = ' ' := by
    intro c hc
    obtain ⟨line, hline, hmem⟩ := List.mem_flatten.1 hc
    exact h.eq_space line hline c hmem
  have htrimmed : ∀ c ∈ (lines.map trimRight).flatten, isBlank c = true → c = ' ' := by
    intro c hc
    obtain ⟨_, hmap, hmem⟩ := List.mem_flatten.1 hc
    obtain ⟨line, hline, rfl⟩ := List.mem_map.1 hmap
    exact h.eq_space line hline c ((isPrefix_trimRight line).subset hmem)
  have hink (lines : List (List Char)) :
      (lines.map trimRight).flatten.filter (!isBlank ·) = lines.flatten.filter (!isBlank ·) := by
    induction lines with
    | nil => rfl
    | cons line later ih =>
      rw [List.map_cons, List.flatten_cons, List.flatten_cons, List.filter_append,
        List.filter_append, filter_trimRight, ih]
  refine ⟨by simpa using h.ne_nil, ?_, ?_, ?_, ?_⟩
  · refine List.forall_mem_map.2 fun line hline ↦ ?_
    exact (isPrefix_trimRight line).length_le.trans (h.length_le line hline)
  · refine List.forall_mem_map.2 fun line hline ↦ ?_
    obtain ⟨c, hc, hne⟩ := h.exists_ne_space line hline
    have hcink : isBlank c = false :=
      Bool.eq_false_iff.2 fun hcblank ↦ hne (h.eq_space line hline c hc hcblank)
    have hmem : c ∈ (trimRight line).filter (!isBlank ·) := by
      rw [filter_trimRight]
      exact List.mem_filter.2 ⟨hc, by rw [hcink]; rfl⟩
    exact ⟨c, List.mem_of_mem_filter hmem, hne⟩
  · refine List.forall_mem_map.2 fun line hline c hc ↦ ?_
    exact h.eq_space line hline c ((isPrefix_trimRight line).subset hc)
  · rw [← filter_ink_eq htrimmed, hink, filter_ink_eq hblank, h.filter_eq]

end ServiceClient.Text
