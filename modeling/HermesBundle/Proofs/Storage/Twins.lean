import HermesBundle.Proofs.Storage.Removal

/-! # Twins — files with several names

    A file can have several names, and what is written under one of them is
    found under the others.  Files are as they should be in this respect
    (`HasTwins`) if the names of a file all have the same names, if the same
    stands under all of them, and if a free name is nobody's.  This is so

    * after an entry has been put at a free name (`HasTwins.put`), or a file
      has been changed under all its names (`HasTwins.putFile`);
    * after anything has been removed (`HasTwins.keep`);
    * where every file has one name (`hasTwins_of_nil`).

    Changing a file changes what stands under its names, and nothing else
    (`entry?_putFile`). -/

namespace HermesBundle.FileSystem

variable {fs files : FileSystem} {l k : Location} {e : Entry}

/-- Whether the names of each file belong together. -/
structure HasTwins (fs : FileSystem) : Prop where
  /-- A name of a file has the names that the file has. -/
  same : ∀ l k, k ∈ fs.locationsOf l → fs.locationsOf k = fs.locationsOf l
  /-- The same stands under all of them. -/
  agree : ∀ l k, k ∈ fs.locationsOf l → fs.entry? k = fs.entry? l
  /-- A free name is nobody's. -/
  free : ∀ l, fs.entry? l = none → fs.locationsOf l = [l]

/-- A file has the name by which its names are looked up. -/
theorem mem_locationsOf_self (fs : FileSystem) (l : Location) : l ∈ fs.locationsOf l := by
  unfold locationsOf
  cases hgroup : fs.twins.find? fun group => group.contains l with
  | none => exact List.mem_singleton_self l
  | some group =>
      have hmem : group.contains l = true :=
        List.find?_some (p := fun group : List Location => group.contains l) hgroup
      exact List.contains_iff_mem.mp hmem

/-- Files of which each has one name are as they should be. -/
theorem hasTwins_of_nil (h : fs.twins = []) : fs.HasTwins := by
  have hsingle : ∀ l, fs.locationsOf l = [l] := by
    intro l
    unfold locationsOf
    rw [h]
    rfl
  constructor
  · intro l k hk
    rw [hsingle, List.mem_singleton] at hk
    rw [hk]
  · intro l k hk
    rw [hsingle, List.mem_singleton] at hk
    rw [hk]
  · exact fun l _ => hsingle l

/-! ## Entries that are put somewhere -/

@[simp] theorem locationsOf_put (fs : FileSystem) (l : Location) (e : Entry) (k : Location) :
    locationsOf (fs.put l e) k = fs.locationsOf k := by
  unfold locationsOf put
  split <;> rfl

/-- A free name is no name of another file. -/
theorem HasTwins.eq_of_free (h : fs.HasTwins) (hfree : fs.entry? l = none)
    (hl : l ∈ fs.locationsOf k) : k = l := by
  have hsame := h.same k l hl
  rw [h.free l hfree] at hsame
  exact List.mem_singleton.mp (hsame ▸ mem_locationsOf_self fs k)

theorem HasTwins.put (h : fs.HasTwins) (hne : l ≠ []) (hfree : fs.entry? l = none) (e : Entry) :
    (fs.put l e).HasTwins := by
  constructor
  · intro k k' hk
    rw [locationsOf_put] at hk ⊢
    exact (h.same k k' hk).trans (locationsOf_put ..).symm
  · intro k k' hk
    rw [locationsOf_put] at hk
    rw [entry?_put hne, entry?_put hne]
    by_cases hkl : k = l
    · subst hkl
      rw [h.free k hfree, List.mem_singleton] at hk
      rw [hk]
    · by_cases hkl' : k' = l
      · exact absurd (h.eq_of_free hfree (hkl' ▸ hk)) hkl
      · rw [if_neg hkl, if_neg hkl', h.agree k k' hk]
  · intro k hk
    rw [entry?_put hne] at hk
    split at hk
    · exact nomatch hk
    · rw [locationsOf_put]
      exact h.free k hk

theorem Grown.hasTwins (hgrown : fs.Grown files) (h : fs.HasTwins) : files.HasTwins := by
  induction hgrown with
  | same => exact h
  | more _ _ hfree ih => exact ih.put (child_ne_nil _ _) hfree .directory

/-- Directories that are made give nobody another name. -/
theorem Grown.locationsOf (hgrown : fs.Grown files) (k : Location) :
    files.locationsOf k = fs.locationsOf k := by
  induction hgrown with
  | same => rfl
  | more _ _ _ ih => exact (locationsOf_put ..).trans ih

/-! ## Files that are changed -/

/-- What stands where after an entry has been put at some locations. -/
theorem entry?_foldl_put {places : List Location} (hne : [] ∉ places) (fs : FileSystem)
    (e : Entry) (k : Location) :
    entry? (places.foldl (fun fs l => fs.put l e) fs) k
      = if k ∈ places then some e else fs.entry? k := by
  induction places generalizing fs with
  | nil => rfl
  | cons first rest ih =>
      obtain ⟨hfirst, hrest⟩ := not_or.mp (mt List.mem_cons.mpr hne)
      rw [List.foldl_cons, ih hrest, entry?_put (Ne.symm hfirst)]
      by_cases hk : k ∈ rest
      · rw [if_pos hk, if_pos (List.mem_cons_of_mem _ hk)]
      · rw [if_neg hk]
        exact if_congr (by simp [hk]) rfl rfl

theorem locationsOf_foldl_put (places : List Location) (fs : FileSystem) (e : Entry)
    (k : Location) :
    locationsOf (places.foldl (fun fs l => fs.put l e) fs) k = fs.locationsOf k := by
  induction places generalizing fs with
  | nil => rfl
  | cons first rest ih => rw [List.foldl_cons, ih, locationsOf_put]

@[simp] theorem locationsOf_putFile (fs : FileSystem) (l : Location) (e : Entry) (k : Location) :
    locationsOf (fs.putFile l e) k = fs.locationsOf k := locationsOf_foldl_put ..

/-- The root is no name of a file. -/
theorem HasTwins.nil_not_mem (h : fs.HasTwins) {content : Bytes} {executable : Bool}
    (hfile : fs.entry? l = some (.file content executable)) : [] ∉ fs.locationsOf l := by
  intro hroot
  exact nomatch (h.agree l [] hroot).trans hfile

section Changed

variable {content : Bytes} {executable : Bool} (h : fs.HasTwins)
  (hfile : fs.entry? l = some (.file content executable))

include h hfile

/-- **A file that is changed is changed under its names, and nothing else
    is.** -/
theorem entry?_putFile (e : Entry) (k : Location) :
    entry? (fs.putFile l e) k = if k ∈ fs.locationsOf l then some e else fs.entry? k :=
  entry?_foldl_put (h.nil_not_mem hfile) fs e k

theorem HasTwins.putFile (e : Entry) : (fs.putFile l e).HasTwins := by
  constructor
  · intro k k' hk
    rw [locationsOf_putFile] at hk ⊢
    exact (h.same k k' hk).trans (locationsOf_putFile ..).symm
  · intro k k' hk
    rw [locationsOf_putFile] at hk
    rw [entry?_putFile h hfile, entry?_putFile h hfile, h.agree k k' hk]
    have hboth : k' ∈ fs.locationsOf l ↔ k ∈ fs.locationsOf l := by
      constructor
      · intro hk'
        rw [← h.same l k' hk', h.same k k' hk]
        exact mem_locationsOf_self fs k
      · intro hl
        rw [← h.same l k hl]
        exact hk
    exact if_congr hboth rfl rfl
  · intro k hk
    rw [entry?_putFile h hfile] at hk
    split at hk
    · exact nomatch hk
    · rw [locationsOf_putFile]
      exact h.free k hk

end Changed

/-! ## Locations that are kept -/

/-- Of the names of a file those that are kept are left. -/
theorem locationsOf_keep (fs : FileSystem) (isKept : Location → Bool) (l : Location) :
    locationsOf (fs.keep isKept) l
      = if isKept l = true then (fs.locationsOf l).filter isKept else [l] := by
  have hgroup : ∀ group : List Location,
      (group.filter isKept).contains l = (group.contains l && isKept l) := by
    intro group
    rw [Bool.eq_iff_iff]
    simp
  unfold locationsOf keep
  rw [List.find?_map]
  simp only [Function.comp_def, hgroup]
  by_cases hkept : isKept l = true
  · simp only [hkept, Bool.and_true, if_true]
    cases fs.twins.find? fun group => group.contains l with
    | none => simp [hkept]
    | some group => rfl
  · have hnone : (fs.twins.find? fun group => group.contains l && isKept l) = none :=
      List.find?_eq_none.mpr fun group _ => by simp [hkept]
    rw [hnone, if_neg hkept]
    rfl

/-- What is kept stands where it stood. -/
theorem entry?_of_kept {isKept : Location → Bool} (h : isKept l = true) :
    entry? (fs.keep isKept) l = fs.entry? l := by
  by_cases hne : l = []
  · subst hne
    rfl
  · rw [entry?_keep hne, if_pos h]

theorem HasTwins.keep (h : fs.HasTwins) (isKept : Location → Bool) : (fs.keep isKept).HasTwins := by
  have hmem : ∀ l k, k ∈ locationsOf (fs.keep isKept) l →
      k = l ∨ isKept l = true ∧ isKept k = true ∧ k ∈ fs.locationsOf l := by
    intro l k hk
    rw [locationsOf_keep] at hk
    split at hk
    · rename_i hl
      obtain ⟨hk, hkept⟩ := List.mem_filter.mp hk
      exact .inr ⟨hl, hkept, hk⟩
    · exact .inl (List.mem_singleton.mp hk)
  constructor
  · intro l k hk
    rcases hmem l k hk with rfl | ⟨hl, hkept, hk⟩
    · rfl
    · rw [locationsOf_keep, locationsOf_keep, if_pos hl, if_pos hkept, h.same l k hk]
  · intro l k hk
    rcases hmem l k hk with rfl | ⟨hl, hkept, hk⟩
    · rfl
    · rw [entry?_of_kept hl, entry?_of_kept hkept, h.agree l k hk]
  · intro l hl
    rw [locationsOf_keep]
    split
    · rename_i hkept
      rw [entry?_of_kept hkept] at hl
      rw [h.free l hl]
      exact List.filter_cons_of_pos hkept
    · rfl

theorem HasTwins.removeDirectory (h : fs.HasTwins) (here : Location) (p : Path) :
    (fs.removeDirectory here p).1.HasTwins := by
  obtain ⟨isKept, hkept⟩ := exists_keep_of_removeDirectory fs here p
  rw [hkept]
  exact h.keep isKept

end HermesBundle.FileSystem
