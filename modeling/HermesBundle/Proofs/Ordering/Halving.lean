import HermesBundle.Ordering.Search
import Mathlib.Data.List.Basic

/-! # Halving — what a search of an ordered row finds

    A search by halves asks only some of the elements of a row.  Where the
    elements that meet its condition come first, which ones it asks does
    not matter: it ends behind the last of them (`countLeading_append`).

    In a row that was put in order by a number, the last element up to a
    bound can be told from the row as it was (`getLast?_eq_some_iff`): no
    other one up to the bound has a greater number, and those behind it
    have smaller ones.  The order is stable, so of several elements with
    the greatest number it is the one that came last (`IsLatest`). -/

namespace HermesBundle.Ordering

variable {α : Type}

/-! ## Where the search ends -/

/-- A search by halves ends at the place up to which the condition is met,
    as long as that place is between its ends. -/
theorem narrow_of_parted {fromEnd : Bool} {meets : α → Option Bool} {row : Array α}
    {n low high : Nat} (hbefore : ∀ i x, row[i]? = some x → i < n → meets x = some true)
    (hbehind : ∀ i x, row[i]? = some x → n ≤ i → meets x = some false)
    (hlow : low ≤ n) (hhigh : n ≤ high) (hsize : high ≤ row.size) :
    narrow fromEnd meets row low high = some n := by
  fun_induction narrow fromEnd meets row low high with
  | case1 low high hlt middle hnone =>
      have hout := Array.getElem?_eq_none_iff.mp hnone
      omega
  | case2 low high hlt middle x hx hmeets =>
      rcases Nat.lt_or_ge middle n with hn | hn
      · exact nomatch hmeets.symm.trans (hbefore _ x hx hn)
      · exact nomatch hmeets.symm.trans (hbehind _ x hx hn)
  | case3 low high hlt middle x hx hmeets ih =>
      refine ih ?_ hhigh hsize
      by_contra hover
      exact nomatch hmeets.symm.trans (hbehind _ x hx (by omega))
  | case4 low high hlt middle x hx hmeets ih =>
      have hn : n ≤ middle := by
        by_contra hover
        exact nomatch hmeets.symm.trans (hbefore _ x hx (by omega))
      exact ih hlow hn (by omega)
  | case5 low high hle =>
      exact congrArg some (by omega)

/-- **Halving finds where the condition ceases to hold.** -/
theorem countLeading_append {meets : α → Option Bool} {before behind : List α}
    (hbefore : ∀ x ∈ before, meets x = some true) (hbehind : ∀ x ∈ behind, meets x = some false) :
    countLeading meets (before ++ behind).toArray = some before.length := by
  refine narrow_of_parted (fun i x hx hi => ?_) (fun i x hx hi => ?_) (Nat.zero_le _) ?_
    (Nat.le_refl _)
  · rw [List.getElem?_toArray, List.getElem?_append_left hi] at hx
    exact hbefore x (List.mem_of_getElem? hx)
  · rw [List.getElem?_toArray, List.getElem?_append_right hi] at hx
    exact hbehind x (List.mem_of_getElem? hx)
  · rw [List.size_toArray, List.length_append]
    exact Nat.le_add_right _ _

/-! ## The last element up to a bound -/

/-- An element has the greatest number up to a bound, and none behind it
    has the same. -/
inductive IsLatest (number : α → Int) (bound : Int) : List α → α → Prop where
  | intro {before behind : List α} {x : α} : number x ≤ bound →
      (∀ y ∈ before, number y ≤ bound → number y ≤ number x) →
      (∀ y ∈ behind, number y ≤ bound → number y < number x) →
      IsLatest number bound (before ++ x :: behind) x

/-- Whether an element has a number. -/
def hasNumber (number : α → Int) (n : Int) (x : α) : Bool := number x == n

section
variable {number : α → Int} {n bound : Int} {xs : List α} {x y : α}

@[simp] theorem hasNumber_iff : hasNumber number n x = true ↔ number x = n := beq_iff_eq

theorem IsLatest.mem (h : IsLatest number bound xs x) : x ∈ xs := by
  obtain ⟨-, -, -⟩ := h
  exact List.mem_append_right _ (List.mem_cons_self ..)

theorem IsLatest.le_bound (h : IsLatest number bound xs x) : number x ≤ bound := by
  obtain ⟨hx, -, -⟩ := h
  exact hx

/-- None up to the bound has a greater number. -/
theorem IsLatest.greatest (h : IsLatest number bound xs x) (hy : y ∈ xs)
    (hbound : number y ≤ bound) : number y ≤ number x := by
  obtain ⟨-, hbefore, hbehind⟩ := h
  rcases List.mem_append.mp hy with hy | hy
  · exact hbefore y hy hbound
  · rcases List.mem_cons.mp hy with rfl | hy
    · exact Int.le_refl _
    · exact Int.le_of_lt (hbehind y hy hbound)

/-- Of the elements with its number it is the last one. -/
theorem IsLatest.getLast? (h : IsLatest number bound xs x) :
    (xs.filter (hasNumber number (number x))).getLast? = some x := by
  obtain ⟨hx, -, hbehind⟩ := h
  have hnone : ∀ y ∈ _, ¬hasNumber number (number x) y = true := fun y hy hsame => by
    have hlt := hbehind y hy
    rw [hasNumber_iff.mp hsame] at hlt
    exact absurd (hlt hx) (Int.lt_irrefl _)
  rw [List.filter_append, List.filter_cons_of_pos (hasNumber_iff.mpr rfl),
    List.filter_eq_nil_iff.mpr hnone, List.getLast?_concat]

/-- There is one such element at most. -/
theorem IsLatest.unique (hx : IsLatest number bound xs x) (hy : IsLatest number bound xs y) :
    x = y := by
  have hsame : number x = number y :=
    Int.le_antisymm (hy.greatest hx.mem hx.le_bound) (hx.greatest hy.mem hy.le_bound)
  have hlast := hx.getLast?
  rw [hsame, hy.getLast?] at hlast
  exact (Option.some.inj hlast).symm

/-- The last element that meets a condition stands before others that do
    not. -/
theorem exists_of_getLast?_filter {p : α → Bool} (h : (xs.filter p).getLast? = some x) :
    ∃ before behind, xs = before ++ x :: behind ∧ p x = true ∧ ∀ y ∈ behind, p y = false := by
  rw [List.getLast?_eq_head?_reverse, ← List.filter_reverse, List.head?_filter,
    List.find?_eq_some_iff_append] at h
  obtain ⟨hx, behind, before, hxs, hbehind⟩ := h
  refine ⟨before.reverse, behind.reverse, ?_, hx, fun y hy => ?_⟩
  · rw [← List.reverse_reverse xs, hxs, List.reverse_append, List.reverse_cons, List.append_assoc]
    rfl
  · exact Bool.not_eq_true' _ ▸ hbehind y (List.mem_reverse.mp hy)

/-- The last element with the greatest number up to the bound is the
    latest. -/
theorem isLatest_of_getLast? (hx : number x ≤ bound)
    (hgreatest : ∀ y ∈ xs, number y ≤ bound → number y ≤ number x)
    (hlast : (xs.filter (hasNumber number (number x))).getLast? = some x) :
    IsLatest number bound xs x := by
  obtain ⟨before, behind, rfl, -, hbehind⟩ := exists_of_getLast?_filter hlast
  refine .intro hx (fun y hy => hgreatest y (List.mem_append_left _ hy)) fun y hy hbound => ?_
  have hle := hgreatest y (List.mem_append_right _ (List.mem_cons_of_mem _ hy)) hbound
  have hne : number y ≠ number x := beq_eq_false_iff_ne.mp (hbehind y hy)
  omega

end

/-! ## Ordered rows -/

/-- Whether the second of two elements may follow the first in a row that
    is ordered by a number. -/
def mayFollow (number : α → Int) (x y : α) : Bool := decide (number x ≤ number y)

section
variable {number : α → Int} {bound : Int} {xs : List α} {x : α}

theorem mayFollow_trans (x y z : α) (hxy : mayFollow number x y = true)
    (hyz : mayFollow number y z = true) : mayFollow number x z = true := by
  unfold mayFollow at *
  rw [decide_eq_true_eq] at *
  omega

theorem mayFollow_total (x y : α) : (mayFollow number x y || mayFollow number y x) = true := by
  unfold mayFollow
  rw [Bool.or_eq_true, decide_eq_true_eq, decide_eq_true_eq]
  omega

/-- An ordered row is in the order of the numbers. -/
theorem mergeSort_pairwise (number : α → Int) (xs : List α) :
    (xs.mergeSort (mayFollow number)).Pairwise fun x y => number x ≤ number y :=
  (List.pairwise_mergeSort mayFollow_trans mayFollow_total xs).imp
    fun {_ _} hxy => of_decide_eq_true hxy

/-- Elements with one number keep their order. -/
theorem filter_mergeSort (number : α → Int) (n : Int) (xs : List α) :
    (xs.mergeSort (mayFollow number)).filter (hasNumber number n)
      = xs.filter (hasNumber number n) := by
  have hpair : (xs.filter (hasNumber number n)).Pairwise
      fun x y => mayFollow number x y = true := by
    refine List.pairwise_of_forall_mem_list fun x hx y hy => ?_
    have hxn := hasNumber_iff.mp (List.mem_filter.mp hx).2
    have hyn := hasNumber_iff.mp (List.mem_filter.mp hy).2
    exact decide_eq_true (Int.le_of_eq (hxn.trans hyn.symm))
  have hsub : (xs.filter (hasNumber number n)).Sublist (xs.mergeSort (mayFollow number)) :=
    List.sublist_mergeSort mayFollow_trans mayFollow_total hpair List.filter_sublist
  have hfilter := hsub.filter (hasNumber number n)
  rw [List.filter_filter] at hfilter
  simp only [Bool.and_self] at hfilter
  exact (hfilter.eq_of_length ((List.mergeSort_perm xs _).filter _).length_eq.symm).symm

/-- In an ordered row the elements up to a bound come first. -/
theorem exists_parted {row : List α} (bound : Int)
    (h : row.Pairwise fun x y => number x ≤ number y) :
    ∃ before behind, row = before ++ behind ∧ (∀ x ∈ before, number x ≤ bound)
      ∧ ∀ x ∈ behind, bound < number x := by
  induction row with
  | nil => exact ⟨[], [], rfl, List.forall_mem_nil _, List.forall_mem_nil _⟩
  | cons first rest ih =>
      obtain ⟨hfirst, hrest⟩ := List.pairwise_cons.mp h
      by_cases hle : number first ≤ bound
      · obtain ⟨before, behind, rfl, hbefore, hbehind⟩ := ih hrest
        exact ⟨first :: before, behind, rfl, List.forall_mem_cons.mpr ⟨hle, hbefore⟩, hbehind⟩
      · refine ⟨[], first :: rest, rfl, List.forall_mem_nil _, ?_⟩
        exact List.forall_mem_cons.mpr
          ⟨Int.not_le.mp hle, fun x hx => Int.lt_of_lt_of_le (Int.not_le.mp hle) (hfirst x hx)⟩

/-- The last of the first elements of an ordered row, which are those up to
    a bound, is the latest of the row as it was.  The other elements have
    greater numbers, so nothing behind it has its number. -/
theorem isLatest_of_parted {before behind : List α}
    (hrow : xs.mergeSort (mayFollow number) = before ++ behind)
    (hbefore : ∀ x ∈ before, number x ≤ bound) (hbehind : ∀ x ∈ behind, bound < number x)
    (hlast : before.getLast? = some x) : IsLatest number bound xs x := by
  obtain ⟨front, rfl⟩ := List.getLast?_eq_some_iff.mp hlast
  have hx := hbefore x (List.mem_append_right _ (List.mem_singleton_self x))
  have hordered := mergeSort_pairwise number xs
  rw [hrow, List.pairwise_append, List.pairwise_append] at hordered
  refine isLatest_of_getLast? hx (fun y hy hbound => ?_) ?_
  · have hmem : y ∈ xs.mergeSort (mayFollow number) := List.mem_mergeSort.mpr hy
    rw [hrow] at hmem
    rcases List.mem_append.mp hmem with hmem | hmem
    · rcases List.mem_append.mp hmem with hmem | hmem
      · exact hordered.1.2.2 y hmem x (List.mem_singleton_self x)
      · exact Int.le_of_eq (congrArg number (List.mem_singleton.mp hmem))
    · exact absurd hbound (Int.not_le.mpr (hbehind y hmem))
  · have hnone : ∀ y ∈ behind, ¬hasNumber number (number x) y = true := fun y hy hsame => by
      have hlt := hbehind y hy
      rw [hasNumber_iff.mp hsame] at hlt
      omega
    rw [← filter_mergeSort, hrow, List.filter_append, List.filter_eq_nil_iff.mpr hnone,
      List.append_nil, List.filter_append, List.filter_cons_of_pos (hasNumber_iff.mpr rfl)]
    exact List.getLast?_concat ..

/-- **The last element of an ordered row up to a bound is the latest of
    the row as it was.** -/
theorem getLast?_eq_some_iff {before behind : List α}
    (hrow : xs.mergeSort (mayFollow number) = before ++ behind)
    (hbefore : ∀ x ∈ before, number x ≤ bound) (hbehind : ∀ x ∈ behind, bound < number x) :
    before.getLast? = some x ↔ IsLatest number bound xs x := by
  constructor
  · exact isLatest_of_parted hrow hbefore hbehind
  · intro h
    have hmem : x ∈ xs.mergeSort (mayFollow number) := List.mem_mergeSort.mpr h.mem
    rw [hrow] at hmem
    have hfront : x ∈ before := (List.mem_append.mp hmem).resolve_right fun hx =>
      absurd h.le_bound (Int.not_le.mpr (hbehind x hx))
    have hlast := List.getLast?_eq_some_getLast (List.ne_nil_of_mem hfront)
    rw [hlast, (isLatest_of_parted hrow hbefore hbehind hlast).unique h]

end

end HermesBundle.Ordering
