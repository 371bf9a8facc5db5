import Mathlib.Data.List.Perm.Subperm
import Mathlib.Data.String.Basic
import ServiceClient.Action.Compile
import ServiceClient.Proofs.Outcome

/-!
# Arranging actions

How actions are arranged depends on their names and on the names of their functions alone, so it
commutes with every change that keeps both.

Only neighbours are compared after the sorting, which is enough: in ascending order, function names
that differ from their neighbours differ from all others. So arranging succeeds exactly when no two
actions share a function name.

A refusal rests on the sorting being stable: actions with one function name keep the order in which
their operations were written. So the first neighbours that share a function name are the first two
operations that have it, and it is the smallest name that is shared.
-/

namespace ServiceClient.Action

section Map

variable (f : Action → Action) (hname : ∀ a, (f a).name = a.name)
  (hfunction : ∀ a, (f a).functionName = a.functionName)

include hfunction

theorem sortByFunctionName_map (actions : List Action) :
    sortByFunctionName (actions.map f) = (sortByFunctionName actions).map f :=
  (List.map_mergeSort fun a _ b _ ↦ by rw [hfunction, hfunction]).symm

theorem firstShared?_map (actions : List Action) :
    firstShared? (actions.map f) = (firstShared? actions).map (Prod.map f f) := by
  fun_induction firstShared? actions with
  | case1 a b rest heq =>
    rw [List.map_cons, List.map_cons, firstShared?, hfunction, hfunction, if_pos heq]
    rfl
  | case2 a b rest hne ih =>
    rw [List.map_cons, List.map_cons, firstShared?, hfunction, hfunction, if_neg hne]
    exact ih
  | case3 actions hshort =>
    cases actions with
    | nil => rfl
    | cons a rest =>
      cases rest with
      | nil => rfl
      | cons b rest => exact absurd rfl (hshort a b rest)

include hname

/-- Arranging commutes with changes that keep all names. -/
theorem arrange_map (api : Json) (actions : List Action) :
    arrange api (actions.map f) = (arrange api actions).map (List.map f) := by
  rw [arrange, arrange, sortByFunctionName_map f hfunction]
  rw [firstShared?_map f hfunction]
  cases firstShared? (sortByFunctionName actions) with
  | none => rfl
  | some pair =>
    obtain ⟨a, b⟩ := pair
    simp only [Option.map_some, Prod.map_apply, hname, hfunction, map_bind]
    rfl

end Map

/-- Actions are arranged unless two of them share a function name, and arranging only sorts them. -/
theorem arrange_eq_ok_iff {api : Json} {actions arranged : List Action} :
    arrange api actions = .ok arranged ↔
      firstShared? (sortByFunctionName actions) = none ∧ arranged = sortByFunctionName actions := by
  rw [arrange]
  cases firstShared? (sortByFunctionName actions) with
  | none => simp [eq_comm]
  | some pair => cases Spec.endpointPrefix api <;> simp

/-! ### Shared function names -/

theorem functionName_le_trans (a b c : Action)
    (hab : decide (a.functionName ≤ b.functionName) = true)
    (hbc : decide (b.functionName ≤ c.functionName) = true) :
    decide (a.functionName ≤ c.functionName) = true := by
  rw [decide_eq_true_eq] at hab hbc ⊢
  exact le_trans hab hbc

theorem functionName_le_total (a b : Action) :
    (decide (a.functionName ≤ b.functionName) || decide (b.functionName ≤ a.functionName)) =
      true := by
  rw [Bool.or_eq_true, decide_eq_true_eq, decide_eq_true_eq]
  exact le_total _ _

theorem sortByFunctionName_pairwise (actions : List Action) :
    (sortByFunctionName actions).Pairwise fun a b ↦ a.functionName ≤ b.functionName :=
  (List.pairwise_mergeSort functionName_le_trans functionName_le_total actions).imp
    of_decide_eq_true

/-- In ascending order, no neighbours share a function name exactly when no two actions do. -/
theorem firstShared?_eq_none_iff {actions : List Action}
    (h : actions.Pairwise fun a b ↦ a.functionName ≤ b.functionName) :
    firstShared? actions = none ↔ (actions.map functionName).Nodup := by
  fun_induction firstShared? actions with
  | case1 a b rest heq => simp [heq]
  | case2 a b rest hne ih =>
    have hcons : (a :: b :: rest).map functionName =
        a.functionName :: (b :: rest).map functionName := rfl
    rw [ih h.of_cons, hcons, List.nodup_cons, iff_and_self]
    intro _ hmem
    obtain ⟨c, hc, hname⟩ := List.mem_map.1 hmem
    have hab : a.functionName < b.functionName :=
      lt_of_le_of_ne (List.rel_of_pairwise_cons h List.mem_cons_self) hne
    have hbc : b.functionName ≤ c.functionName := by
      rcases List.mem_cons.1 hc with rfl | hc
      · exact le_rfl
      · exact List.rel_of_pairwise_cons h.of_cons hc
    exact absurd hname (ne_of_gt (lt_of_lt_of_le hab hbc))
  | case3 actions hshort =>
    rcases actions with - | ⟨a, - | ⟨b, rest⟩⟩
    · simp
    · simp
    · exact absurd rfl (hshort a b rest)

/-- Actions with different function names are arranged. -/
theorem arrange_of_nodup {actions : List Action} (h : (actions.map functionName).Nodup)
    (api : Json) : arrange api actions = .ok (sortByFunctionName actions) := by
  have hnodup : ((sortByFunctionName actions).map functionName).Nodup :=
    ((List.mergeSort_perm actions _).map functionName).nodup_iff.2 h
  exact arrange_eq_ok_iff.2
    ⟨(firstShared?_eq_none_iff (sortByFunctionName_pairwise actions)).2 hnodup, rfl⟩

/-! ### Refusal -/

/-- Sorting keeps the order of the actions with one function name. -/
theorem filter_sortByFunctionName (actions : List Action) (shared : String) :
    (sortByFunctionName actions).filter (fun a ↦ a.functionName = shared) =
      actions.filter fun a ↦ a.functionName = shared := by
  have hperm : (sortByFunctionName actions).Perm actions := List.mergeSort_perm actions _
  have hequal : (actions.filter fun a ↦ a.functionName = shared).Pairwise fun a b ↦
      decide (a.functionName ≤ b.functionName) = true := by
    refine List.pairwise_of_forall_mem_list fun a ha b hb ↦ ?_
    have hname : a.functionName = b.functionName :=
      (of_decide_eq_true (List.mem_filter.1 ha).2).trans
        (of_decide_eq_true (List.mem_filter.1 hb).2).symm
    exact decide_eq_true hname.le
  have hsublist : (actions.filter fun a ↦ a.functionName = shared).Sublist
      (sortByFunctionName actions) :=
    List.sublist_mergeSort functionName_le_trans functionName_le_total hequal
      List.filter_sublist
  have hfilter := hsublist.filter fun a ↦ a.functionName = shared
  rw [List.filter_filter] at hfilter
  simp only [Bool.and_self] at hfilter
  exact (hfilter.eq_of_length (hperm.filter _).length_eq.symm).symm

/-- In ascending order, the first neighbours that share a function name come first among those that
have it, and no smaller name is shared. -/
theorem firstShared?_eq_some_of_pairwise {actions : List Action} {a b : Action}
    (hsorted : actions.Pairwise fun a b ↦ a.functionName ≤ b.functionName)
    (h : firstShared? actions = some (a, b)) :
    (∃ rest, actions.filter (fun c ↦ c.functionName = b.functionName) = a :: b :: rest) ∧
      ∀ shared, 2 ≤ (actions.map functionName).count shared → b.functionName ≤ shared := by
  fun_induction firstShared? actions with
  | case1 c d rest heq =>
    obtain ⟨rfl, rfl⟩ := Prod.mk.inj (Option.some.inj h)
    refine ⟨⟨rest.filter fun c ↦ c.functionName = d.functionName, by simp [heq]⟩, ?_⟩
    intro shared hshared
    have hmem : shared ∈ (c :: d :: rest).map functionName :=
      List.count_pos_iff.1 (by omega)
    obtain ⟨e, he, rfl⟩ := List.mem_map.1 hmem
    rcases List.mem_cons.1 he with rfl | he
    · exact heq.ge
    · rw [← heq]
      exact List.rel_of_pairwise_cons hsorted he
  | case2 c d rest hne ih =>
    obtain ⟨⟨others, hfilter⟩, hleast⟩ := ih hsorted.of_cons h
    -- the first action is smaller than all that follow, so it shares its name with none
    have hlt : ∀ e ∈ d :: rest, c.functionName < e.functionName := by
      intro e he
      have hcd : c.functionName < d.functionName :=
        lt_of_le_of_ne (List.rel_of_pairwise_cons hsorted List.mem_cons_self) hne
      rcases List.mem_cons.1 he with rfl | he
      · exact hcd
      · exact hcd.trans_le (List.rel_of_pairwise_cons hsorted.of_cons he)
    have hb : b ∈ d :: rest :=
      (List.mem_filter.1 (hfilter ▸ List.mem_cons_of_mem a List.mem_cons_self)).1
    refine ⟨⟨others, ?_⟩, fun shared hshared ↦ ?_⟩
    · rw [List.filter_cons_of_neg (by simpa using (hlt b hb).ne), hfilter]
    · by_cases hc : c.functionName = shared
      · have hnone : ((d :: rest).map functionName).count shared = 0 := by
          rw [List.count_eq_zero, ← hc]
          intro hmem
          obtain ⟨e, he, heq⟩ := List.mem_map.1 hmem
          exact absurd heq (hlt e he).ne'
        rw [List.map_cons, List.count_cons, hnone] at hshared
        split at hshared <;> omega
      · rw [List.map_cons, List.count_cons_of_ne hc] at hshared
        exact hleast shared hshared
  | case3 => cases h

/-- Actions that share function names are refused for the smallest such name, with the first two
that have it. -/
theorem exists_arrange_eq_refused {actions : List Action} (h : ¬(actions.map functionName).Nodup)
    (api : Json) :
    ∃ a b rest, actions.filter (fun c ↦ c.functionName = b.functionName) = a :: b :: rest ∧
      (∀ shared, 2 ≤ (actions.map functionName).count shared → b.functionName ≤ shared) ∧
      arrange api actions = (Spec.endpointPrefix api >>= fun service ↦
        .error (.spec {
          defect := .sharedFunctionName a.name b.name b.functionName
          service
          operation := .str b.name })) := by
  have hperm : (sortByFunctionName actions).Perm actions := List.mergeSort_perm actions _
  have hsorted := sortByFunctionName_pairwise actions
  cases hshared : firstShared? (sortByFunctionName actions) with
  | none =>
    have hnodup := (firstShared?_eq_none_iff hsorted).1 hshared
    exact absurd ((hperm.map functionName).nodup_iff.1 hnodup) h
  | some pair =>
    obtain ⟨a, b⟩ := pair
    obtain ⟨⟨rest, hfilter⟩, hleast⟩ := firstShared?_eq_some_of_pairwise hsorted hshared
    refine ⟨a, b, rest, ?_, fun shared hcount ↦ hleast shared ?_, ?_⟩
    · rw [← hfilter, filter_sortByFunctionName]
    · rwa [(hperm.map functionName).count_eq]
    · rw [arrange]
      simp only [hshared]
      rfl

/-- Two actions that share a function name are refused. -/
theorem arrange_of_not_nodup {actions : List Action} (h : ¬(actions.map functionName).Nodup)
    {api service : Json} (hservice : Spec.endpointPrefix api = .ok service) :
    ∃ a b, [a, b].Subperm actions ∧ a.functionName = b.functionName ∧
      arrange api actions = .error (.spec {
        defect := .sharedFunctionName a.name b.name b.functionName
        service
        operation := .str b.name }) := by
  obtain ⟨a, b, rest, hfilter, -, hrefused⟩ := exists_arrange_eq_refused h api
  have hpair : [a, b].Sublist (a :: b :: rest) := (rest.nil_sublist.cons_cons b).cons_cons a
  have hshared : a ∈ actions.filter fun c ↦ c.functionName = b.functionName := by simp [hfilter]
  refine ⟨a, b, ?_, of_decide_eq_true (List.mem_filter.1 hshared).2, ?_⟩
  · rw [← hfilter] at hpair
    exact (hpair.trans List.filter_sublist).subperm
  · rw [hrefused, hservice, ok_bind]

end ServiceClient.Action
