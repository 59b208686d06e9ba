import HermesBundle.Ordering.RunMerge
import Mathlib.Data.List.Perm.Basic

/-! # Rearrangement — what a sort keeps whatever its comparison says

    A comparison may contradict itself, and then nothing is known about
    the order of the sorted row.  Two things hold all the same, as long
    as any two elements of the row can be compared:

    * **searching ends** (`narrow_isSome`, `gallop_isSome`) — a search
      fails only at an element that has no answer;
    * **merging rearranges** (`exists_mergeOn`, `exists_mergeRuns`) —
      each step moves elements from what is left of the runs to what has
      been put out;
    * **sorting rearranges** (`exists_sort`) — the row that comes out has
      the elements of the row that went in.

    Where a search stops does not matter for this: a run may be cut at
    any place and an element put in there. -/

namespace HermesBundle.Ordering

variable {α : Type}

/-! ## Searching -/

/-- A search by halves ends if every element has an answer. -/
theorem narrow_isSome {fromEnd : Bool} {meets : α → Option Bool} {row : Array α}
    (h : ∀ x ∈ row, (meets x).isSome = true) (low high : Nat) :
    (narrow fromEnd meets row low high).isSome = true := by
  fun_induction narrow fromEnd meets row low high with
  | case1 => rfl
  | case2 _ _ _ _ x hx hnone =>
      have hanswer := h x (Array.mem_of_getElem? hx)
      rw [hnone] at hanswer
      exact nomatch hanswer
  | case3 _ _ _ _ _ _ _ ih => exact ih
  | case4 _ _ _ _ _ _ _ ih => exact ih
  | case5 => rfl

/-- Asking at growing distances ends if every element has an answer. -/
theorem stride_isSome {meets : α → Option Bool} {row : Array α}
    (h : ∀ x ∈ row, (meets x).isSome = true) (fuel last next : Nat) :
    (stride meets row fuel last next).isSome = true := by
  fun_induction stride meets row fuel last next with
  | case1 => rfl
  | case2 => rfl
  | case3 _ _ _ x hx hnone =>
      have hanswer := h x (Array.mem_of_getElem? hx)
      rw [hnone] at hanswer
      exact nomatch hanswer
  | case4 _ _ _ _ _ _ ih => exact ih
  | case5 => rfl

/-- A search at growing distances ends if every element has an answer. -/
theorem gallop_isSome (fromEnd : Bool) {meets : α → Option Bool} {row : Array α}
    (h : ∀ x ∈ row, (meets x).isSome = true) : (gallop fromEnd meets row).isSome = true := by
  fun_cases gallop fromEnd meets row with
  | case1 => rfl
  | case2 x hx hnone =>
      have hanswer := h x (Array.mem_of_getElem? hx)
      rw [hnone] at hanswer
      exact nomatch hanswer
  | case3 => rfl
  | case4 _ _ _ hnone =>
      have hstride := stride_isSome h row.size 0 1
      rw [hnone] at hstride
      exact nomatch hstride
  | case5 => exact narrow_isSome h _ _

/-- The opposite of an answer is an answer. -/
theorem opposite_isSome {answer : Option Bool} (h : answer.isSome = true) :
    (opposite answer).isSome = true := by
  rw [opposite, Option.isSome_map]
  exact h

/-! ## Runs -/

/-- A comparison that has an answer for any two elements of a kind. -/
def Decides (before : Comparison α) (P : α → Prop) : Prop :=
  ∀ a b, P a → P b → (before a b).isSome = true

section
variable {before : Comparison α} {P : α → Prop} (hdecides : Decides before P)
include hdecides

/-- A run is extended by elements of the row. -/
theorem exists_extendRun (falling : Bool) {last : α} (run : List α) {rest : List α}
    (hlast : P last) (hrest : ∀ x ∈ rest, P x) :
    ∃ run' left, extendRun before falling last run rest = some (run', left)
      ∧ (run' ++ left).Perm (run ++ rest) ∧ left.length ≤ rest.length := by
  induction rest generalizing last run with
  | nil => exact ⟨run, [], rfl, List.Perm.refl _, Nat.le_refl _⟩
  | cons x rest ih =>
      obtain ⟨hx, hmore⟩ := List.forall_mem_cons.mp hrest
      obtain ⟨answer, hanswer⟩ := Option.isSome_iff_exists.mp (hdecides x last hx hlast)
      rw [extendRun, hanswer]
      by_cases hgoes : (answer == falling) = true
      · obtain ⟨run', left, heq, hperm, hlength⟩ := ih (x :: run) hx hmore
        refine ⟨run', left, ?_, hperm.trans List.perm_middle.symm,
          Nat.le_trans hlength (Nat.le_succ _)⟩
        show (if (answer == falling) = true then _ else _) = _
        rw [if_pos hgoes]
        exact heq
      · refine ⟨run, x :: rest, ?_, List.Perm.refl _, Nat.le_refl _⟩
        show (if (answer == falling) = true then _ else _) = _
        rw [if_neg hgoes]

/-- The run that a row starts with and the rest are the row. -/
theorem exists_takeRun {x : α} {row : List α} (hrow : ∀ y ∈ x :: row, P y) :
    ∃ run left, takeRun before (x :: row) = some (run, left)
      ∧ (run ++ left).Perm (x :: row) ∧ left.length ≤ row.length := by
  cases row with
  | nil => exact ⟨[x], [], rfl, List.Perm.refl _, Nat.le_refl _⟩
  | cons y rest =>
      obtain ⟨hx, htail⟩ := List.forall_mem_cons.mp hrow
      obtain ⟨hy, hrest⟩ := List.forall_mem_cons.mp htail
      obtain ⟨falling, hfalling⟩ := Option.isSome_iff_exists.mp (hdecides y x hy hx)
      obtain ⟨run, left, heq, hperm, hlength⟩ :=
        exists_extendRun hdecides falling [y, x] hy hrest
      have hswap : (run ++ left).Perm (x :: y :: rest) := hperm.trans (List.Perm.swap x y rest)
      refine ⟨if falling then run else run.reverse, left, ?_, ?_, Nat.le_trans hlength (Nat.le_succ _)⟩
      · rw [takeRun, hfalling]
        dsimp only
        rw [heq]
      · cases falling with
        | true => exact hswap
        | false => exact (run.reverse_perm.append_right left).trans hswap

/-- Elements that are inserted into a run are added to it. -/
theorem exists_insertAll (run rest : List α) (hrun : ∀ x ∈ run, P x) (hrest : ∀ x ∈ rest, P x) :
    ∃ out, insertAll before run rest = some out ∧ out.Perm (run ++ rest) := by
  induction rest generalizing run with
  | nil => exact ⟨run, rfl, by rw [List.append_nil]⟩
  | cons x rest ih =>
      obtain ⟨hx, hmore⟩ := List.forall_mem_cons.mp hrest
      have hends : (countLeading (fun y => opposite (before x y)) run.toArray).isSome = true :=
        narrow_isSome (fun y hy => opposite_isSome
          (hdecides x y hx (hrun y (List.mem_toArray.mp hy)))) _ _
      obtain ⟨n, hn⟩ := Option.isSome_iff_exists.mp hends
      have hinserted : (run.take n ++ x :: run.drop n).Perm (x :: run) := by
        have h : (run.take n ++ x :: run.drop n).Perm (x :: (run.take n ++ run.drop n)) :=
          List.perm_middle
        rw [List.take_append_drop] at h
        exact h
      obtain ⟨out, heq, hperm⟩ := ih (run.take n ++ x :: run.drop n)
        (fun y hy => List.forall_mem_cons.mpr ⟨hx, hrun⟩ y (hinserted.mem_iff.mp hy)) hmore
      refine ⟨out, ?_, ?_⟩
      · rw [insertAll, hn]
        exact heq
      · exact (hperm.trans (hinserted.append_right rest)).trans List.perm_middle.symm

end

/-! ## Merging two runs -/

namespace Merging

/-- The elements of two runs that are being merged. -/
def elements (m : Merging α) : List α := m.out ++ (m.left ++ m.right)

/-- Elements of a run that are put out, in reverse, stay elements. -/
theorem perm_take_drop (run out rest : List α) (n : Nat) :
    ((run.take n).reverse ++ out ++ (run.drop n ++ rest)).Perm (out ++ (run ++ rest)) := by
  have hrun : ((run.take n).reverse ++ run.drop n).Perm run := by
    have h := (run.take n).reverse_perm.append_right (run.drop n)
    rw [List.take_append_drop] at h
    exact h
  have hswap : ((run.take n).reverse ++ out ++ (run.drop n ++ rest)).Perm
      (out ++ ((run.take n).reverse ++ (run.drop n ++ rest))) := by
    rw [← List.append_assoc out]
    exact List.perm_append_comm.append_right _
  refine hswap.trans (List.Perm.append_left out ?_)
  rw [← List.append_assoc]
  exact hrun.append_right rest

/-- Putting out elements of the left run keeps the elements. -/
theorem elements_takeLeft (m : Merging α) (n : Nat) :
    (m.takeLeft n).elements.Perm m.elements := perm_take_drop m.left m.out m.right n

/-- Putting out elements of the right run keeps the elements. -/
theorem elements_takeRight (m : Merging α) (n : Nat) :
    (m.takeRight n).elements.Perm m.elements := by
  have hflip : ∀ out left right : List α, (out ++ (left ++ right)).Perm (out ++ (right ++ left)) :=
    fun out _ _ => List.perm_append_comm.append_left out
  exact ((hflip _ _ _).trans (perm_take_drop m.right m.out m.left n)).trans (hflip _ _ _)

/-- The merged run has the elements of the merge. -/
theorem finish_perm (m : Merging α) : m.finish.Perm m.elements := by
  show (m.out.reverse ++ m.right ++ m.left).Perm (m.out ++ (m.left ++ m.right))
  rw [List.append_assoc]
  exact (m.out.reverse_perm.append_right _).trans (List.perm_append_comm.append_left m.out)

/-- Searching one run, and then the other if nothing is decided, keeps the
    elements when each search does. -/
theorem exists_turns {first second : Merging α → Option (Merging α × Nat)} {m : Merging α}
    (hfirst : ∃ m' n, first m = some (m', n) ∧ m'.elements.Perm m.elements)
    (hsecond : ∀ {m' : Merging α}, m'.elements.Perm m.elements →
      ∃ m'' n, second m' = some (m'', n) ∧ m''.elements.Perm m'.elements) :
    ∃ m' n, (match first m with
        | none => none
        | some (m, n) =>
            if m.isDecided then some (m, n)
            else
              match second m with
              | none => none
              | some (m, k) => some (m, max n k)) = some (m', n)
      ∧ m'.elements.Perm m.elements := by
  obtain ⟨m', n, hmove, hperm⟩ := hfirst
  rw [hmove]
  by_cases hdecided : m'.isDecided = true
  · exact ⟨m', n, if_pos hdecided, hperm⟩
  · obtain ⟨m'', k, hthen, hperm'⟩ := hsecond hperm
    refine ⟨m'', max n k, ?_, hperm'.trans hperm⟩
    show (if m'.isDecided = true then _ else _) = _
    rw [if_neg hdecided, hthen]

section
variable {before : Comparison α} {P : α → Prop} (hdecides : Decides before P)
include hdecides

/-- Searching the left run keeps the elements. -/
theorem exists_gallopLeft (fromEnd : Bool) {m : Merging α} (hm : ∀ x ∈ m.elements, P x) :
    ∃ m' n, m.gallopLeft fromEnd before = some (m', n) ∧ m'.elements.Perm m.elements := by
  fun_cases gallopLeft fromEnd before m with
  | case1 => exact ⟨m, 0, rfl, List.Perm.refl _⟩
  | case2 r rest hright hnone =>
      have hr : P r := hm r (by rw [elements, hright]; simp)
      have hends : (gallop fromEnd (fun x => opposite (before x r)) m.left.toArray).isSome = true :=
        gallop_isSome fromEnd fun x hx => opposite_isSome (hdecides x r
          (hm x (by rw [elements]; simp [List.mem_toArray.mp hx])) hr)
      rw [hnone] at hends
      exact nomatch hends
  | case3 r rest hright n hn after =>
      refine ⟨_, n, rfl, ?_⟩
      by_cases hdecided : after.isDecided = true
      · rw [if_pos hdecided]
        exact elements_takeLeft m n
      · rw [if_neg hdecided]
        exact (elements_takeRight after 1).trans (elements_takeLeft m n)

/-- Searching the right run keeps the elements. -/
theorem exists_gallopRight (fromEnd : Bool) {m : Merging α} (hm : ∀ x ∈ m.elements, P x) :
    ∃ m' n, m.gallopRight fromEnd before = some (m', n) ∧ m'.elements.Perm m.elements := by
  fun_cases gallopRight fromEnd before m with
  | case1 => exact ⟨m, 0, rfl, List.Perm.refl _⟩
  | case2 l rest hleft hnone =>
      have hl : P l := hm l (by rw [elements, hleft]; simp)
      have hends : (gallop fromEnd (before l) m.right.toArray).isSome = true :=
        gallop_isSome fromEnd fun x hx =>
          hdecides l x hl (hm x (by rw [elements]; simp [List.mem_toArray.mp hx]))
      rw [hnone] at hends
      exact nomatch hends
  | case3 l rest hleft n hn after =>
      refine ⟨_, n, rfl, ?_⟩
      by_cases hdecided : after.isDecided = true
      · rw [if_pos hdecided]
        exact elements_takeRight m n
      · rw [if_neg hdecided]
        exact (elements_takeLeft after 1).trans (elements_takeRight m n)

/-- Searching both sides keeps the elements. -/
theorem exists_gallopBoth (fromEnd : Bool) {m : Merging α} (hm : ∀ x ∈ m.elements, P x) :
    ∃ m' n, m.gallopBoth fromEnd before = some (m', n) ∧ m'.elements.Perm m.elements := by
  have hkept : ∀ {m' : Merging α}, m'.elements.Perm m.elements → ∀ x ∈ m'.elements, P x :=
    fun hperm x hx => hm x (hperm.mem_iff.mp hx)
  cases fromEnd with
  | true =>
      exact exists_turns (exists_gallopRight hdecides true hm)
        (fun hperm => exists_gallopLeft hdecides true (hkept hperm))
  | false =>
      exact exists_turns (exists_gallopLeft hdecides false hm)
        (fun hperm => exists_gallopRight hdecides false (hkept hperm))

end

end Merging

section
variable {before : Comparison α} {P : α → Prop} (hdecides : Decides before P)
include hdecides

/-- A merge puts out the elements that are left. -/
theorem exists_mergeOn (fromEnd : Bool) (fuel : Nat) (pace : Pace) (threshold : Nat)
    (m : Merging α) (hm : ∀ x ∈ m.elements, P x) :
    ∃ out t, mergeOn fromEnd before fuel pace threshold m = some (out, t)
      ∧ out.Perm m.elements := by
  induction fuel generalizing pace threshold m with
  | zero => exact ⟨m.finish, threshold, rfl, m.finish_perm⟩
  | succ fuel ih =>
      have hmove : ∀ {m' : Merging α} (pace' : Pace) (threshold' : Nat),
          m'.elements.Perm m.elements →
          ∃ out t, mergeOn fromEnd before fuel pace' threshold' m' = some (out, t)
            ∧ out.Perm m.elements := fun {m'} pace' threshold' hperm =>
        let ⟨out, t, heq, hout⟩ := ih pace' threshold' m' fun x hx => hm x (hperm.mem_iff.mp hx)
        ⟨out, t, heq, hout.trans hperm⟩
      unfold mergeOn
      by_cases hdecided : m.isDecided = true
      · rw [if_pos hdecided]
        exact ⟨m.finish, threshold, rfl, m.finish_perm⟩
      · rw [if_neg hdecided]
        cases pace with
        | stepping lefts rights =>
            cases hleft : m.left with
            | nil => exact ⟨m.finish, threshold, rfl, m.finish_perm⟩
            | cons l _ =>
                cases hright : m.right with
                | nil => exact ⟨m.finish, threshold, rfl, m.finish_perm⟩
                | cons r _ =>
                    have hl : P l := hm l (by rw [Merging.elements, hleft]; simp)
                    have hr : P r := hm r (by rw [Merging.elements, hright]; simp)
                    obtain ⟨answer, hanswer⟩ := Option.isSome_iff_exists.mp (hdecides l r hl hr)
                    simp only [List.head?_cons, hanswer]
                    cases answer with
                    | true => exact hmove _ _ (m.elements_takeRight 1)
                    | false => exact hmove _ _ (m.elements_takeLeft 1)
        | galloping again =>
            obtain ⟨m', won, hgallop, hperm⟩ := Merging.exists_gallopBoth hdecides fromEnd hm
            simp only [hgallop]
            by_cases hends : m'.isDecided = true
            · rw [if_pos hends]
              exact ⟨m'.finish, _, rfl, m'.finish_perm.trans hperm⟩
            · rw [if_neg hends]
              by_cases hwon : winsToGallop ≤ won
              · rw [if_pos hwon]
                exact hmove _ _ hperm
              · rw [if_neg hwon]
                exact hmove _ _ hperm

/-- Merging two runs of which the first element on the right goes ahead
    puts out the elements of both. -/
theorem exists_mergeOn_ahead (fromEnd : Bool) (fuel threshold : Nat) {left right : List α}
    (hleft : ∀ x ∈ left, P x) (hright : ∀ x ∈ right, P x) :
    ∃ out t, mergeOn fromEnd before fuel (.stepping 0 0) threshold
        ((Merging.mk left right []).takeRight 1) = some (out, t)
      ∧ out.Perm (left ++ right) := by
  have hahead : ((Merging.mk left right []).takeRight 1).elements.Perm (left ++ right) :=
    Merging.elements_takeRight _ 1
  obtain ⟨out, t, heq, hperm⟩ := exists_mergeOn hdecides fromEnd fuel (.stepping 0 0) threshold
    ((Merging.mk left right []).takeRight 1) (fun x hx =>
      (List.mem_append.mp (hahead.mem_iff.mp hx)).elim (hleft x) (hright x))
  exact ⟨out, t, heq, hperm.trans hahead⟩

/-- Two runs are merged into one with the elements of both. -/
theorem exists_mergeRuns (threshold : Nat) (first second : List α) (hfirst : ∀ x ∈ first, P x)
    (hsecond : ∀ x ∈ second, P x) :
    ∃ out t, mergeRuns before threshold first second = some (out, t)
      ∧ out.Perm (first ++ second) := by
  have hswapped : Decides (fun l r => before r l) P := fun a b ha hb => hdecides b a hb ha
  have hunmerged : ∃ out t, some (first ++ second, threshold) = some (out, t)
      ∧ out.Perm (first ++ second) := ⟨first ++ second, threshold, rfl, List.Perm.refl _⟩
  -- what lies between two cuts may be rearranged
  have haround : ∀ {merged : List α} (i j : Nat),
      merged.Perm (first.drop i ++ second.take j) →
      (first.take i ++ merged ++ second.drop j).Perm (first ++ second) := by
    intro merged i j hmerged
    have h := (hmerged.append_left (first.take i)).append_right (second.drop j)
    rw [← List.append_assoc (first.take i), List.take_append_drop, List.append_assoc first,
      List.take_append_drop] at h
    exact h
  unfold mergeRuns
  split
  · rename_i s tail f hlast
    have hf : P f := hfirst f (List.mem_of_getLast? hlast)
    have hs : P s := hsecond s (List.mem_cons_self ..)
    have hfront : (gallop false (fun x => opposite (before s x)) first.toArray).isSome = true :=
      gallop_isSome false fun x hx =>
        opposite_isSome (hdecides s x hs (hfirst x (List.mem_toArray.mp hx)))
    have hback : (gallop true (fun x => opposite (before x f))
        (s :: tail).reverse.toArray).isSome = true :=
      gallop_isSome true fun x hx => opposite_isSome
        (hdecides x f (hsecond x (List.mem_reverse.mp (List.mem_toArray.mp hx))) hf)
    obtain ⟨ahead, hahead⟩ := Option.isSome_iff_exists.mp hfront
    obtain ⟨behind, hbehind⟩ := Option.isSome_iff_exists.mp hback
    have ha : ∀ x ∈ first.drop ahead, P x := fun x hx => hfirst x (List.mem_of_mem_drop hx)
    have hb : ∀ x ∈ (s :: tail).take ((s :: tail).length - behind), P x :=
      fun x hx => hsecond x (List.mem_of_mem_take hx)
    simp only [hahead, hbehind]
    split
    · exact hunmerged
    split
    · exact hunmerged
    split
    · obtain ⟨merged, t, hmerge, hperm⟩ := exists_mergeOn_ahead hswapped false
        (first.length + (s :: tail).length + 1) threshold ha hb
      rw [hmerge]
      exact ⟨_, t, rfl, haround _ _ hperm⟩
    · obtain ⟨merged, t, hmerge, hperm⟩ := exists_mergeOn_ahead hdecides true
        (first.length + (s :: tail).length + 1) threshold
        (fun x hx => hb x (List.mem_reverse.mp hx)) (fun x hx => ha x (List.mem_reverse.mp hx))
      rw [hmerge]
      refine ⟨_, t, rfl, haround _ _ (merged.reverse_perm.trans (hperm.trans ?_))⟩
      exact ((List.reverse_perm _).append (List.reverse_perm _)).trans List.perm_append_comm
  · exact hunmerged

/-! ## Merging all runs -/

/-- The elements of runs that wait. -/
def waitingElements (waiting : List (Waiting α)) : List α := waiting.flatMap (·.run)

/-- Merging the last two runs keeps the elements. -/
theorem exists_mergeTop (threshold : Nat) (waiting : List (Waiting α))
    (hwaiting : ∀ x ∈ waitingElements waiting, P x) :
    ∃ waiting' t, mergeTop before threshold waiting = some (waiting', t)
      ∧ (waitingElements waiting').Perm (waitingElements waiting) := by
  match waiting with
  | second :: first :: rest =>
      have hsplit : waitingElements (second :: first :: rest)
          = second.run ++ (first.run ++ waitingElements rest) := rfl
      rw [hsplit] at hwaiting
      obtain ⟨run, t, hmerge, hperm⟩ := exists_mergeRuns hdecides threshold
        first.run second.run (fun x hx => hwaiting x (by simp [hx])) (fun x hx => hwaiting x (by simp [hx]))
      refine ⟨⟨run, first.start, first.depth⟩ :: rest, t, by rw [mergeTop, hmerge], ?_⟩
      rw [hsplit, ← List.append_assoc]
      exact (hperm.trans List.perm_append_comm).append_right (waitingElements rest)
  | [] => exact ⟨[], threshold, rfl, List.Perm.refl _⟩
  | [only] => exact ⟨[only], threshold, rfl, List.Perm.refl _⟩

/-- Merging runs down to a depth keeps the elements. -/
theorem exists_mergeDeeper (depth fuel threshold : Nat) (waiting : List (Waiting α))
    (hwaiting : ∀ x ∈ waitingElements waiting, P x) :
    ∃ waiting' t, mergeDeeper before depth fuel waiting threshold = some (waiting', t)
      ∧ (waitingElements waiting').Perm (waitingElements waiting) := by
  induction fuel generalizing waiting threshold with
  | zero => exact ⟨waiting, threshold, rfl, List.Perm.refl _⟩
  | succ fuel ih =>
      have hstays : ∃ waiting' t, some (waiting, threshold) = some (waiting', t)
          ∧ (waitingElements waiting').Perm (waitingElements waiting) :=
        ⟨waiting, threshold, rfl, List.Perm.refl _⟩
      unfold mergeDeeper
      split
      · split
        · obtain ⟨merged, t, hmerge, hperm⟩ := exists_mergeTop hdecides threshold _ hwaiting
          obtain ⟨waiting', t', heq, hperm'⟩ := ih t merged
            (fun x hx => hwaiting x (hperm.mem_iff.mp hx))
          rw [hmerge]
          exact ⟨waiting', t', heq, hperm'.trans hperm⟩
        · exact hstays
      · exact hstays

/-- Merging all runs keeps the elements. -/
theorem exists_mergeAll (fuel threshold : Nat) (waiting : List (Waiting α))
    (hwaiting : ∀ x ∈ waitingElements waiting, P x) :
    ∃ out, mergeAll before fuel waiting threshold = some out
      ∧ out.Perm (waitingElements waiting) := by
  induction fuel generalizing waiting threshold with
  | zero => exact ⟨_, rfl, (List.reverse_perm waiting).flatMap_right _⟩
  | succ fuel ih =>
      have hmerge : ∀ {merged : List (Waiting α)} (t : Nat),
          (waitingElements merged).Perm (waitingElements waiting) →
          ∃ out, mergeAll before fuel merged t = some out
            ∧ out.Perm (waitingElements waiting) := fun {merged} t hperm =>
        let ⟨out, heq, hout⟩ := ih t merged
          (fun x hx => hwaiting x (hperm.mem_iff.mp hx))
        ⟨out, heq, hout.trans hperm⟩
      match waiting with
      | third :: second :: first :: rest =>
          simp only [mergeAll]
          split
          · have hsplit : waitingElements (third :: second :: first :: rest)
                = third.run ++ waitingElements (second :: first :: rest) := rfl
            obtain ⟨merged, t, htop, hperm⟩ := exists_mergeTop hdecides threshold
              (second :: first :: rest) (fun x hx => hwaiting x (hsplit ▸ List.mem_append_right _ hx))
            simp only [htop]
            exact hmerge t (hperm.append_left third.run)
          · obtain ⟨merged, t, htop, hperm⟩ := exists_mergeTop hdecides threshold _ hwaiting
            simp only [htop]
            exact hmerge t hperm
      | [second, first] =>
          obtain ⟨merged, t, htop, hperm⟩ := exists_mergeTop hdecides threshold _ hwaiting
          simp only [mergeAll, htop]
          exact hmerge t hperm
      | [only] => exact ⟨only.run, rfl, by simp [waitingElements]⟩
      | [] => exact ⟨[], rfl, List.Perm.refl _⟩

/-- Cutting a row into runs and merging them keeps the elements of the
    row and of the runs that wait, if the fuel is enough for the row. -/
theorem exists_sortOn (total least fuel start threshold : Nat) {waiting : List (Waiting α)}
    {row : List α} (hfuel : row.length ≤ fuel) (hwaiting : ∀ x ∈ waitingElements waiting, P x)
    (hrow : ∀ x ∈ row, P x) :
    ∃ out, sortOn before total least fuel start waiting threshold row = some out
      ∧ out.Perm (waitingElements waiting ++ row) := by
  induction fuel generalizing start waiting threshold row with
  | zero =>
      obtain rfl := List.length_eq_zero_iff.mp (Nat.le_zero.mp hfuel)
      rw [List.append_nil]
      exact exists_mergeAll hdecides total threshold _ hwaiting
  | succ fuel ih =>
      cases row with
      | nil =>
          rw [List.append_nil]
          exact exists_mergeAll hdecides total threshold _ hwaiting
      | cons x row =>
          obtain ⟨natural, left, hnatural, hcut, hlength⟩ := exists_takeRun hdecides hrow
          have hleft : ∀ y ∈ left, P y :=
            fun y hy => hrow y (hcut.mem_iff.mp (List.mem_append_right _ hy))
          obtain ⟨run, hrun, hfilled⟩ := exists_insertAll hdecides natural
            (left.take (least - natural.length))
            (fun y hy => hrow y (hcut.mem_iff.mp (List.mem_append_left _ hy)))
            (fun y hy => hleft y (List.mem_of_mem_take hy))
          have hparts : (run ++ left.drop (least - natural.length)).Perm (x :: row) := by
            refine (hfilled.append_right _).trans ?_
            rw [List.append_assoc, List.take_append_drop]
            exact hcut
          have hshorter : (left.drop (least - natural.length)).length ≤ fuel := by
            rw [List.length_drop]
            have := Nat.le_of_succ_le_succ hfuel
            omega
          -- whatever was merged before, the rest of the row is still to come
          have hgoes : ∀ (settled : List (Waiting α)) (t : Nat),
              (waitingElements settled).Perm (waitingElements waiting) →
              ∃ out, sortOn before total least fuel (start + run.length)
                  (⟨run, start, 0⟩ :: settled) t (left.drop (least - natural.length)) = some out
                ∧ out.Perm (waitingElements waiting ++ x :: row) := by
            intro settled t hkeeps
            have hnext : ∀ y ∈ waitingElements (⟨run, start, 0⟩ :: settled), P y := by
              intro y hy
              rcases List.mem_append.mp hy with hy | hy
              · exact hrow y (hparts.mem_iff.mp (List.mem_append_left _ hy))
              · exact hwaiting y (hkeeps.mem_iff.mp hy)
            obtain ⟨out, heq, hperm⟩ := ih (start + run.length) t hshorter hnext
              (fun y hy => hleft y (List.mem_of_mem_drop hy))
            refine ⟨out, heq, hperm.trans ?_⟩
            show ((run ++ waitingElements settled) ++ _).Perm _
            refine (List.perm_append_comm.append_right _).trans ?_
            rw [List.append_assoc]
            exact hkeeps.append hparts
          simp only [sortOn, hnatural, hrun, Option.bind_eq_bind, Option.bind_some]
          cases waiting with
          | nil => exact hgoes [] threshold (List.Perm.refl _)
          | cons last rest =>
              obtain ⟨merged, t, hmerge, hperm⟩ := exists_mergeDeeper hdecides
                (boundaryDepth total last.start last.run.length run.length) total threshold _
                hwaiting
              simp only [hmerge, Option.bind_some]
              cases merged with
              | nil => exact hgoes [] t hperm
              | cons last' rest' =>
                  exact hgoes (⟨last'.run, last'.start, _⟩ :: rest') t hperm

/-- A row of which any two elements can be compared is sorted into a row
    with the same elements. -/
theorem exists_sort {row : List α} (hrow : ∀ x ∈ row, P x) :
    ∃ out, sort before row = some out ∧ out.Perm row :=
  exists_sortOn hdecides row.length _ row.length 0 winsToGallop (Nat.le_refl _)
    (fun _ hx => nomatch hx) hrow

end

end HermesBundle.Ordering
