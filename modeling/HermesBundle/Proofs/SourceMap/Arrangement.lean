import HermesBundle.SourceMap.Assembly
import HermesBundle.SourceMap.Document
import Mathlib.Data.List.Basic

/-! # Arrangement — what is put into tables and rows is found there

    A document keeps sources and names in tables and rows on lines.  An
    entry is found at the index it was given, and the lines, one after
    another, hold the rows in the order in which they came:

    * a table has the texts that were entered, and each of them at its
      own index (`entryAt_indexIn`);
    * a line has the rows that belong to it (`rowLines_eq_groups`);
    * rows that came in the order of their lines are the lines one after
      another (`flatMap_groups`). -/

namespace HermesBundle.SourceMap

/-! ## Tables -/

/-- Only a text is the same key as a text. -/
theorem same_str_iff {x : Json} {t : Text} : x.same (.str t) = true ↔ x = .str t := by
  constructor
  · intro h
    have hrank : x.key.rank = 5 := by
      rw [Json.same_eq_key, beq_iff_eq] at h
      rw [h]
      rfl
    cases x with
    | str s =>
        have hst : (s == t) = true := h
        rw [beq_iff_eq.mp hst]
    | null => exact absurd hrank (show (0 : Nat) ≠ 5 by decide)
    | bool b => exact absurd hrank (show (2 : Nat) ≠ 5 by decide)
    | int i => exact absurd hrank (show (2 : Nat) ≠ 5 by decide)
    | float d =>
        cases d with
        | nan => exact absurd hrank (show (4 : Nat) ≠ 5 by decide)
        | infinite negative =>
            cases negative with
            | false => exact absurd hrank (show (3 : Nat) ≠ 5 by decide)
            | true => exact absurd hrank (show (1 : Nat) ≠ 5 by decide)
        | finite negative mantissa scale => exact absurd hrank (show (2 : Nat) ≠ 5 by decide)
    | arr items => exact absurd hrank (show (6 : Nat) ≠ 5 by decide)
    | obj members => exact absurd hrank (show (6 : Nat) ≠ 5 by decide)
  · rintro rfl
    exact beq_self_eq_true t

/-- What has another key than the first of some values is one of the
    others. -/
theorem mem_of_not_same {x y : Json} {rest : List Json} (hx : ¬x.same y = true)
    (hy : y ∈ x :: rest) : y ∈ rest := by
  rcases List.mem_cons.mp hy with heq | hmem
  · exact absurd (by rw [heq, Json.same_eq_key]; exact beq_self_eq_true _) hx
  · exact hmem

/-- A table has what was entered, if nothing else has the same key. -/
theorem mem_firstUses {xs : List Json} {y : Json} (hkey : ∀ x ∈ xs, x.same y = true → x = y)
    (hy : y ∈ xs) : y ∈ firstUses xs := by
  induction xs with
  | nil => exact nomatch hy
  | cons x rest ih =>
      by_cases hx : x.same y = true
      · rw [hkey x (List.mem_cons_self ..) hx]
        exact List.mem_cons_self ..
      · have hkept : (!x.same y) = true := by rw [Bool.not_eq_true', ← Bool.not_eq_true]; exact hx
        refine List.mem_cons_of_mem _ (List.mem_filter.mpr ⟨ih ?_ (mem_of_not_same hx hy), hkept⟩)
        exact fun z hz => hkey z (List.mem_cons_of_mem _ hz)

/-- What a table has was entered. -/
theorem mem_of_mem_firstUses {xs : List Json} {y : Json} (hy : y ∈ firstUses xs) : y ∈ xs := by
  induction xs with
  | nil => exact nomatch hy
  | cons x rest ih =>
      rcases List.mem_cons.mp hy with heq | hmem
      · rw [heq]
        exact List.mem_cons_self ..
      · exact List.mem_cons_of_mem _ (ih (List.mem_filter.mp hmem).1)

/-- A table has the texts that were entered. -/
theorem str_mem_firstUses {xs : List Json} {t : Text} (h : Json.str t ∈ xs) :
    Json.str t ∈ firstUses xs :=
  mem_firstUses (fun _ _ hsame => same_str_iff.mp hsame) h

/-- A text is found at its own index. -/
theorem entryAt_indexIn {table : IndexTable} {entries : List Json} {t : Text}
    (h : Json.str t ∈ entries) :
    entryAt table entries (indexIn entries (.str t)) = .ok (.str t) := by
  have hsome : ∃ x ∈ entries, x.same (.str t) = true := ⟨_, h, same_str_iff.mpr rfl⟩
  have hlt : entries.findIdx (fun y => y.same (.str t)) < entries.length :=
    List.findIdx_lt_length_of_exists hsome
  have hentry : entries[entries.findIdx fun y => y.same (.str t)]? = some (.str t) := by
    rw [List.getElem?_eq_getElem hlt]
    exact congrArg some (same_str_iff.mp (List.findIdx_getElem (w := hlt)))
  have hpos : ¬indexIn entries (.str t) < 0 := by
    unfold indexIn
    omega
  unfold entryAt
  rw [if_neg hpos]
  unfold indexIn
  rw [Int.toNat_natCast, hentry]

/-! ## Rows on lines -/

/-- A line has the rows that belong to it, in the order in which they
    came. -/
theorem rowLines_eq_groups (rows : List (Nat × List Json)) (count : Nat) :
    rowLines rows count
      = (List.range count).map fun i => (rows.filter fun r => r.1 == i).map (·.2) := by
  induction rows with
  | nil =>
      show (Array.replicate count []).toList = (List.range count).map fun _ => []
      rw [List.map_const', List.length_range, Array.toList_replicate]
  | cons r rest ih =>
      obtain ⟨line, row⟩ := r
      have hstep : rowLines ((line, row) :: rest) count
          = (rowLines rest count).modify line (row :: ·) := Array.toList_modify
      rw [hstep, ih]
      refine List.ext_getElem? fun j => ?_
      rw [List.getElem?_modify, List.getElem?_map, List.getElem?_map]
      by_cases hj : j < count
      · rw [List.getElem?_range hj]
        by_cases hline : line = j
        · simp [hline]
        · simp [hline]
      · rw [List.getElem?_eq_none (by rw [List.length_range]; omega)]
        rfl

/-- The elements with the least key, and then the others, are those of a
    list in the order of keys. -/
theorem filter_append_filter_not {α : Type} {key : α → Nat} {k : Nat} {xs : List α}
    (hsorted : xs.Pairwise fun a b => key a ≤ key b) (hleast : ∀ x ∈ xs, k ≤ key x) :
    xs.filter (fun x => key x == k) ++ xs.filter (fun x => !key x == k) = xs := by
  induction xs with
  | nil => rfl
  | cons x rest ih =>
      obtain ⟨hx, hrest⟩ := List.pairwise_cons.mp hsorted
      have hih := ih hrest fun y hy => hleast y (List.mem_cons_of_mem _ hy)
      by_cases hk : key x = k
      · have hbeq : (key x == k) = true := beq_iff_eq.mpr hk
        simp only [List.filter_cons, hbeq, Bool.not_true, if_true, Bool.false_eq_true, if_false,
          List.cons_append, hih]
      · have hbeq : (key x == k) = false := beq_eq_false_iff_ne.mpr hk
        have hnone : rest.filter (fun y => key y == k) = [] := by
          rw [List.filter_eq_nil_iff]
          intro y hy
          have hxy := hx y hy
          have hkx := hleast x (List.mem_cons_self ..)
          rw [beq_iff_eq]
          omega
        rw [hnone, List.nil_append] at hih
        simp only [List.filter_cons, hbeq, Bool.not_false, if_true, Bool.false_eq_true, if_false,
          hnone, List.nil_append, hih]

/-- Elements of another key are those of the key among the elements whose
    key is not the first. -/
theorem filter_filter_not {α : Type} {key : α → Nat} {k i : Nat} (hki : k ≠ i) (xs : List α) :
    (xs.filter fun x => !key x == k).filter (fun x => key x == i)
      = xs.filter fun x => key x == i := by
  rw [List.filter_filter]
  refine List.filter_congr fun x _ => ?_
  by_cases hxi : key x = i
  · simp [hxi, hki.symm]
  · simp [hxi]

/-- Elements in the order of their keys are those of each key, one key
    after another. -/
theorem flatMap_groups {α : Type} (key : α → Nat) (n k : Nat) {xs : List α}
    (hsorted : xs.Pairwise fun a b => key a ≤ key b)
    (hrange : ∀ x ∈ xs, k ≤ key x ∧ key x < k + n) :
    ((List.range' k n).flatMap fun i => xs.filter fun x => key x == i) = xs := by
  induction n generalizing k xs with
  | zero =>
      cases xs with
      | nil => rfl
      | cons x rest =>
          have := hrange x (List.mem_cons_self ..)
          omega
  | succ n ih =>
      have hrest : ∀ x ∈ xs.filter fun x => !key x == k, k + 1 ≤ key x ∧ key x < k + 1 + n := by
        intro x hx
        obtain ⟨hmem, hne⟩ := List.mem_filter.mp hx
        have hb := hrange x hmem
        have hk : key x ≠ k := by simpa using hne
        omega
      have hothers : ((List.range' (k + 1) n).flatMap fun i => xs.filter fun x => key x == i)
          = xs.filter fun x => !key x == k := by
        rw [← ih (k + 1) (hsorted.filter _) hrest]
        refine List.flatMap_congr fun i hi => (filter_filter_not ?_ xs).symm
        have := List.mem_range'_1.mp hi
        omega
      rw [List.range'_succ, List.flatMap_cons, hothers]
      exact filter_append_filter_not hsorted fun x hx => (hrange x hx).1

end HermesBundle.SourceMap
