import HermesBundle.Storage.FileSystem
import Mathlib

/-! # Entries — what stands where after a change

    A file system is known by what stands at its locations.  Every change
    is known by what it does to that:

    * an entry that is put somewhere stands there, and nothing else
      changes (`entry?_put`);
    * of the locations that are kept none holds anything new
      (`entry?_keep`, `entry?_of_keep`);
    * a location that is removed takes everything below it along
      (`entry?_removeTree`), and one that is cleared stays behind alone
      (`entry?_clear`, `below_clear`).

    A program stands in a directory, which may have been removed: the
    names from the first one that is gone on are lost.  Once notice has
    been taken of all changes,

    * the program stands in a directory, lost or not
      (`standing?_of_settle`);
    * the way up leads where it led before (`settle_dropLast`), and the
      way down stays among directories (`settle_concat`);
    * more entries change nothing (`settle_of_extends`). -/

namespace HermesBundle.FileSystem

variable {fs base : FileSystem} {l k : Location} {e : Entry}

@[simp] theorem entry?_nil (fs : FileSystem) : fs.entry? [] = some .directory := rfl

theorem entry?_of_ne_nil (h : l ≠ []) : fs.entry? l = fs.entries.lookup l := by
  cases l with
  | nil => exact absurd rfl h
  | cons _ _ => rfl

theorem any_key_iff (entries : List (Location × Entry)) (l : Location) :
    (entries.any fun (k, _) => k == l) = (entries.lookup l).isSome := by
  induction entries with
  | nil => rfl
  | cons first rest ih =>
      obtain ⟨key, old⟩ := first
      rw [List.any_cons, List.lookup_cons, ih]
      by_cases hkey : key = l
      · subst hkey
        simp
      · rw [beq_false_of_ne (Ne.symm hkey)]
        simp [hkey]

/-- Looking up a key after the value of one key has been exchanged. -/
theorem lookup_exchanged (entries : List (Location × Entry)) (l k : Location) (e : Entry) :
    (entries.map fun (k, old) => if k == l then (k, e) else (k, old)).lookup k
      = if k = l then (entries.lookup k).map fun _ => e else entries.lookup k := by
  induction entries with
  | nil => simp
  | cons first rest ih =>
      obtain ⟨key, old⟩ := first
      have hkept : (if (key == l) = true then (key, e) else (key, old))
          = (key, if key = l then e else old) := by
        by_cases hkey : key = l <;> simp [hkey]
      rw [List.map_cons]
      dsimp only
      rw [hkept, List.lookup_cons, List.lookup_cons]
      by_cases hk : k = key
      · subst hk
        by_cases hl : k = l <;> simp [hl]
      · rw [beq_false_of_ne hk]
        exact ih

/-- What stands where after an entry has been put somewhere. -/
theorem entry?_put (hl : l ≠ []) (fs : FileSystem) (e : Entry) (k : Location) :
    entry? (fs.put l e) k = if k = l then some e else fs.entry? k := by
  by_cases hk : k = []
  · subst hk
    simp [Ne.symm hl]
  rw [entry?_of_ne_nil hk, entry?_of_ne_nil hk, put, any_key_iff]
  cases hold : fs.entries.lookup l with
  | some old =>
      rw [if_pos Option.isSome_some, lookup_exchanged]
      by_cases hkl : k = l
      · rw [if_pos hkl, if_pos hkl, hkl, hold]
        rfl
      · rw [if_neg hkl, if_neg hkl]
  | none =>
      rw [if_neg (by simp), List.lookup_append]
      by_cases hkl : k = l
      · rw [if_pos hkl, hkl, hold, List.lookup_cons, beq_self_eq_true]
        rfl
      · rw [if_neg hkl, List.lookup_cons, beq_false_of_ne hkl]
        exact Option.or_none

/-- Looking up a key among those that are kept. -/
theorem lookup_kept (entries : List (Location × Entry)) (isKept : Location → Bool) (l : Location) :
    (entries.filter fun (k, _) => isKept k).lookup l
      = if isKept l = true then entries.lookup l else none := by
  induction entries with
  | nil => simp
  | cons first rest ih =>
      obtain ⟨key, old⟩ := first
      simp only [List.filter_cons, List.lookup_cons]
      by_cases hl : l = key
      · subst hl
        by_cases hkept : isKept l = true
        · simp [hkept]
        · simpa [hkept] using ih
      · rw [beq_false_of_ne hl]
        by_cases hkept : isKept key = true
        · simpa [hkept, List.lookup_cons, beq_false_of_ne hl] using ih
        · simpa [hkept] using ih

/-- What stands where among the locations that are kept. -/
theorem entry?_keep (hl : l ≠ []) (fs : FileSystem) (isKept : Location → Bool) :
    entry? (fs.keep isKept) l = if isKept l = true then fs.entry? l else none := by
  rw [entry?_of_ne_nil hl, entry?_of_ne_nil hl]
  exact lookup_kept fs.entries isKept l

/-- Nothing is new among the locations that are kept. -/
theorem entry?_of_keep {isKept : Location → Bool} (h : entry? (fs.keep isKept) l = some e) :
    fs.entry? l = some e := by
  by_cases hl : l = []
  · subst hl
    exact h
  · rw [entry?_keep hl] at h
    split at h
    · exact h
    · exact nomatch h

/-- What stands where after a location has been removed. -/
theorem entry?_removeTree (hl : l ≠ []) (fs : FileSystem) (k : Location) :
    entry? (fs.removeTree l) k = if l <+: k then none else fs.entry? k := by
  by_cases hk : k = []
  · subst hk
    simp [hl]
  · rw [removeTree, entry?_keep hk]
    by_cases hbelow : l <+: k <;> simp [hbelow]

/-- What stands where after everything below a location has been
    removed. -/
theorem entry?_clear (fs : FileSystem) (l k : Location) :
    entry? (fs.clear l) k = if l <+: k ∧ k ≠ l then none else fs.entry? k := by
  by_cases hk : k = []
  · subst hk
    simp
  · have hbelow : (!(l.isPrefixOf k && decide (l.length < k.length))) = true
        ↔ ¬(l <+: k ∧ k ≠ l) := by
      simp only [Bool.not_eq_true', ← Bool.not_eq_true, Bool.and_eq_true,
        List.isPrefixOf_iff_prefix,
        decide_eq_true_eq]
      refine not_congr (and_congr_right fun hbelow => ?_)
      constructor
      · rintro hlength rfl
        exact lt_irrefl _ hlength
      · intro hne
        exact lt_of_le_of_ne hbelow.length_le fun heq => hne (hbelow.eq_of_length heq).symm
    rw [clear, entry?_keep hk]
    by_cases hplace : l <+: k ∧ k ≠ l
    · rw [if_pos hplace, if_neg (mt hbelow.mp (not_not_intro hplace))]
    · rw [if_neg hplace, if_pos (hbelow.mpr hplace)]

/-- Nothing is left below a location that has been cleared. -/
theorem below_clear (fs : FileSystem) (l : Location) : (fs.clear l).below l = [] := by
  unfold below clear keep
  rw [List.filterMap_eq_nil_iff]
  intro a ha
  obtain ⟨-, hkept⟩ := List.mem_filter.mp ha
  simp only [Bool.not_eq_true', Bool.and_eq_false_iff] at hkept
  rcases hkept with h | h <;> simp [h]

/-! ## More entries -/

/-- Whether a file system has all that another one has, as it is there. -/
def Extends (fs base : FileSystem) : Prop := ∀ l e, base.entry? l = some e → fs.entry? l = some e

theorem Extends.refl (fs : FileSystem) : fs.Extends fs := fun _ _ h => h

theorem Extends.trans {later fs base : FileSystem} (h : later.Extends fs) (hbase : fs.Extends base) :
    later.Extends base := fun l e hl => h l e (hbase l e hl)

/-- What is free in more is free in less. -/
theorem Extends.free {fs base : FileSystem} (h : fs.Extends base) (hfree : fs.entry? l = none) :
    base.entry? l = none := by
  by_contra hthere
  obtain ⟨e, he⟩ := Option.ne_none_iff_exists'.mp hthere
  exact nomatch hfree.symm.trans (h l e he)

theorem extends_put (hne : l ≠ []) (hfree : fs.entry? l = none) (e : Entry) :
    (fs.put l e).Extends fs := by
  intro k e' hk
  rw [entry?_put hne]
  by_cases heq : k = l
  · rw [heq, hfree] at hk
    exact nomatch hk
  · rwa [if_neg heq]

/-! ## Where a program stands -/

theorem settleFrom_cons_of_directory {above : Location} {name : Text}
    (h : fs.entry? (above ++ [name]) = some .directory) (rest : Location) :
    fs.settleFrom above (name :: rest) = fs.settleFrom (above ++ [name]) rest := by
  rw [settleFrom, h]

theorem settleFrom_cons_of_gone {above : Location} {name : Text}
    (h : fs.entry? (above ++ [name]) ≠ some .directory) (rest : Location) :
    fs.settleFrom above (name :: rest) = above ++ (name :: rest).map fun _ => lostName := by
  rw [settleFrom]
  split
  · rename_i hdirectory
    exact absurd hdirectory h
  · rfl

/-- Going up is the same before and after taking notice of changes. -/
theorem settleFrom_dropLast (fs : FileSystem) (above l : Location) (h : l ≠ []) :
    fs.settleFrom above l.dropLast = (fs.settleFrom above l).dropLast := by
  induction l generalizing above with
  | nil => exact absurd rfl h
  | cons name rest ih =>
      cases rest with
      | nil =>
          have hup : fs.settleFrom above [name] = above ++ [name]
              ∨ fs.settleFrom above [name] = above ++ [lostName] := by
            by_cases hdirectory : fs.entry? (above ++ [name]) = some .directory
            · exact .inl (settleFrom_cons_of_directory hdirectory [])
            · exact .inr (settleFrom_cons_of_gone hdirectory [])
          rcases hup with hup | hup
          · rw [hup, List.dropLast_concat]
            rfl
          · rw [hup, List.dropLast_concat]
            rfl
      | cons second more =>
          rw [List.dropLast_cons_of_ne_nil (List.cons_ne_nil _ _)]
          by_cases hdirectory : fs.entry? (above ++ [name]) = some .directory
          · rw [settleFrom_cons_of_directory hdirectory, settleFrom_cons_of_directory hdirectory]
            exact ih _ (List.cons_ne_nil _ _)
          · rw [settleFrom_cons_of_gone hdirectory, settleFrom_cons_of_gone hdirectory,
              List.dropLast_append_of_ne_nil (by simp), ← List.map_dropLast,
              List.dropLast_cons_of_ne_nil (List.cons_ne_nil _ _)]

theorem settle_dropLast (fs : FileSystem) (l : Location) :
    fs.settle l.dropLast = (fs.settle l).dropLast := by
  by_cases h : l = []
  · subst h
    rfl
  · exact settleFrom_dropLast fs [] l h

/-- Names that are lost and stay so. -/
theorem map_lost_eq {names : Location} (h : (names.map fun _ => lostName) = names) :
    ∀ name ∈ names, name = lostName := by
  intro name hname
  rw [← h] at hname
  obtain ⟨_, -, rfl⟩ := List.mem_map.mp hname
  rfl

/-- What is lost stays so. -/
theorem settleFrom_of_lost (h : ∀ name ∈ l, name = lostName) (above : Location) :
    fs.settleFrom above l = above ++ l := by
  induction l generalizing above with
  | nil => exact (List.append_nil above).symm
  | cons name rest ih =>
      by_cases hdirectory : fs.entry? (above ++ [name]) = some .directory
      · rw [settleFrom_cons_of_directory hdirectory, List.append_cons above name rest]
        exact ih (fun n hn => h n (List.mem_cons_of_mem _ hn)) _
      · rw [settleFrom_cons_of_gone hdirectory]
        have hsame : (name :: rest).map (fun _ => lostName) = (name :: rest).map id :=
          List.map_congr_left fun n hn => (h n hn).symm
        rw [hsame, List.map_id]

/-- A location that a program can stand at is that of a directory, or
    lost. -/
theorem directory_or_isLost_of_settleFrom {above : Location}
    (h : fs.settleFrom above l = above ++ l) (habove : fs.entry? above = some .directory) :
    fs.entry? (above ++ l) = some .directory ∨ isLost (above ++ l) = true := by
  induction l generalizing above with
  | nil => exact .inl (by rwa [List.append_nil])
  | cons name rest ih =>
      by_cases hdirectory : fs.entry? (above ++ [name]) = some .directory
      · rw [settleFrom_cons_of_directory hdirectory, List.append_cons above name rest] at h
        rw [List.append_cons above name rest]
        exact ih h hdirectory
      · rw [settleFrom_cons_of_gone hdirectory] at h
        have hlost := map_lost_eq (List.append_cancel_left h) name (List.mem_cons_self ..)
        exact .inr (List.elem_eq_true_of_mem (List.mem_append_right _
          (List.mem_cons.mpr (.inl hlost.symm))))

/-- A program that has taken notice of all changes stands in a
    directory. -/
theorem standing?_of_settle (h : fs.settle l = l) : fs.standing? l = some .directory := by
  unfold standing?
  split
  · rfl
  · rename_i hkept
    exact (directory_or_isLost_of_settleFrom h rfl).resolve_right hkept

/-- A directory that is still there under its name is where it was. -/
theorem settleFrom_of_kept {above : Location} (h : isLost (fs.settleFrom above l) = false) :
    fs.settleFrom above l = above ++ l := by
  induction l generalizing above with
  | nil => exact (List.append_nil above).symm
  | cons name rest ih =>
      by_cases hdirectory : fs.entry? (above ++ [name]) = some .directory
      · rw [settleFrom_cons_of_directory hdirectory] at h ⊢
        rw [ih h, ← List.append_cons]
      · rw [settleFrom_cons_of_gone hdirectory] at h
        have hlost : isLost (above ++ (name :: rest).map fun _ => lostName) = true :=
          List.elem_eq_true_of_mem (List.mem_append_right _ (List.mem_cons_self ..))
        exact nomatch hlost.symm.trans h

/-- In a directory that is there, a program can stand in those that are
    there. -/
theorem settleFrom_concat {above : Location} {name : Text}
    (h : fs.settleFrom above l = above ++ l) (hkept : isLost (above ++ l) = false)
    (hentry : fs.entry? (above ++ l ++ [name]) = some .directory) :
    fs.settleFrom above (l ++ [name]) = above ++ l ++ [name] := by
  induction l generalizing above with
  | nil =>
      rw [List.append_nil] at hentry ⊢
      exact settleFrom_cons_of_directory hentry []
  | cons first rest ih =>
      rw [List.append_cons above first rest] at hkept hentry ⊢
      by_cases hdirectory : fs.entry? (above ++ [first]) = some .directory
      · rw [settleFrom_cons_of_directory hdirectory, List.append_cons above first rest] at h
        rw [List.cons_append, settleFrom_cons_of_directory hdirectory]
        exact ih h hkept hentry
      · rw [settleFrom_cons_of_gone hdirectory] at h
        have hlost := map_lost_eq (List.append_cancel_left h) first (List.mem_cons_self ..)
        have hfirst : isLost (above ++ [first] ++ rest) = true :=
          List.elem_eq_true_of_mem (List.mem_append_left _
            (List.mem_append_right _ (List.mem_singleton.mpr hlost.symm)))
        exact nomatch hfirst.symm.trans hkept

theorem settle_concat {name : Text} (h : fs.settle l = l) (hkept : isLost l = false)
    (hentry : fs.entry? (l ++ [name]) = some .directory) :
    fs.settle (l ++ [name]) = l ++ [name] := settleFrom_concat h hkept hentry

/-- Where all directories stay a program stands where it stood. -/
theorem settleFrom_of_directories {above : Location} (h : base.settleFrom above l = above ++ l)
    (hstay : ∀ k, base.entry? k = some .directory → fs.entry? k = some .directory) :
    fs.settleFrom above l = above ++ l := by
  induction l generalizing above with
  | nil => exact (List.append_nil above).symm
  | cons name rest ih =>
      by_cases hdirectory : base.entry? (above ++ [name]) = some .directory
      · rw [settleFrom_cons_of_directory hdirectory, List.append_cons above name rest] at h
        rw [settleFrom_cons_of_directory (hstay _ hdirectory), List.append_cons above name rest]
        exact ih h
      · rw [settleFrom_cons_of_gone hdirectory] at h
        exact settleFrom_of_lost (map_lost_eq (List.append_cancel_left h)) above

theorem settle_of_directories (h : base.settle l = l)
    (hstay : ∀ k, base.entry? k = some .directory → fs.entry? k = some .directory) :
    fs.settle l = l := settleFrom_of_directories h hstay

/-- More entries take nothing away from where a program stands. -/
theorem settle_of_extends (h : base.settle l = l) (hextends : fs.Extends base) :
    fs.settle l = l := settle_of_directories h fun k => hextends k .directory

end HermesBundle.FileSystem
