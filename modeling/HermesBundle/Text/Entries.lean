import HermesBundle.Text.CodePoint

/-! # Entries — values under names, in order of first insertion

    Setting a name that is there keeps its place and replaces its value,
    as it is usual for properties, members of objects and variables:

    * after a setting the name has the new value, and the others have what
      they had (`find?_set`);
    * after several settings a name has the value that was set last
      (`find?_update`), and new names come last (`names_update`);
    * settings can be collected first and taken over together
      (`update_update`). -/

namespace HermesBundle

/-- Values under names. -/
abbrev Entries (α : Type) := List (Text × α)

namespace Entries

/-- The value under a name. -/
def find? {α : Type} (entries : Entries α) (name : Text) : Option α :=
  match entries with
  | [] => none
  | (key, value) :: rest => if key = name then some value else find? rest name

/-- Sets the value under a name. -/
def set {α : Type} (entries : Entries α) (name : Text) (value : α) : Entries α :=
  match entries with
  | [] => [(name, value)]
  | (key, old) :: rest =>
      if key = name then (key, value) :: rest else (key, old) :: set rest name value

/-- Sets several values, one after another. -/
def update {α : Type} (entries more : Entries α) : Entries α :=
  more.foldl (fun e (name, value) => set e name value) entries

/-- Removes a name. -/
def erase {α : Type} (entries : Entries α) (name : Text) : Entries α :=
  entries.filter fun (key, _) => key != name

/-! ## Values -/

section
variable {α : Type}

/-- A name that no entry has has no value. -/
theorem find?_eq_none {entries : Entries α} {key : Text} (h : ∀ entry ∈ entries, entry.1 ≠ key) :
    find? entries key = none := by
  induction entries with
  | nil => rfl
  | cons entry rest ih =>
      rw [find?, if_neg (h entry (List.mem_cons_self ..))]
      exact ih fun x hx => h x (List.mem_cons_of_mem _ hx)

/-- The first entries count. -/
theorem find?_append (entries more : Entries α) (key : Text) :
    find? (entries ++ more) key = (find? entries key).or (find? more key) := by
  induction entries with
  | nil => rfl
  | cons entry rest ih =>
      show (if entry.1 = key then some entry.2 else find? (rest ++ more) key)
        = (if entry.1 = key then some entry.2 else find? rest key).or (find? more key)
      by_cases h : entry.1 = key
      · rw [if_pos h, if_pos h]
        rfl
      · rw [if_neg h, if_neg h]
        exact ih

/-! ## Setting one name -/

/-- Setting a name changes what is under this name only. -/
theorem find?_set (entries : Entries α) (name : Text) (value : α) (key : Text) :
    find? (set entries name value) key = if name = key then some value else find? entries key := by
  induction entries with
  | nil => rfl
  | cons entry rest ih =>
      obtain ⟨own, old⟩ := entry
      rw [set]
      by_cases hown : own = name
      · rw [if_pos hown, find?, find?, hown]
        by_cases hkey : name = key
        · rw [if_pos hkey, if_pos hkey]
        · rw [if_neg hkey, if_neg hkey, if_neg hkey]
      · rw [if_neg hown, find?, find?, ih]
        by_cases hkey : own = key
        · rw [if_pos hkey, if_pos hkey, if_neg fun hname => hown (hkey.trans hname.symm)]
        · rw [if_neg hkey, if_neg hkey]

/-- Erasing a name changes what is under this name only. -/
theorem find?_erase (entries : Entries α) (name key : Text) :
    find? (erase entries name) key = if name = key then none else find? entries key := by
  induction entries with
  | nil => exact (ite_self none).symm
  | cons entry rest ih =>
      obtain ⟨own, old⟩ := entry
      unfold erase at *
      rw [List.filter_cons]
      by_cases hown : own = name
      · rw [if_neg (by simpa using hown), ih, find?, hown]
        by_cases hkey : name = key
        · rw [if_pos hkey, if_pos hkey]
        · rw [if_neg hkey, if_neg hkey, if_neg hkey]
      · rw [if_pos (by simpa using hown), find?, find?, ih]
        by_cases hkey : own = key
        · rw [if_pos hkey, if_pos hkey, if_neg fun hname => hown (hkey.trans hname.symm)]
        · rw [if_neg hkey, if_neg hkey]

/-- After a setting there are the entries of before, and the new value. -/
theorem mem_of_mem_set {entries : Entries α} {name : Text} {value : α} {entry : Text × α}
    (h : entry ∈ set entries name value) : entry ∈ entries ∨ entry.2 = value := by
  induction entries with
  | nil => exact .inr (congrArg Prod.snd (List.mem_singleton.mp h))
  | cons first rest ih =>
      unfold set at h
      split at h
      · rcases List.mem_cons.mp h with rfl | hrest
        · exact .inr rfl
        · exact .inl (List.mem_cons_of_mem _ hrest)
      · rcases List.mem_cons.mp h with rfl | hrest
        · exact .inl (List.mem_cons_self ..)
        · exact (ih hrest).imp_left (List.mem_cons_of_mem _)

/-- A new name comes last. -/
theorem set_of_not_mem {entries : Entries α} {name : Text} (h : name ∉ entries.map Prod.fst)
    (value : α) : set entries name value = entries ++ [(name, value)] := by
  induction entries with
  | nil => rfl
  | cons entry rest ih =>
      obtain ⟨hhead, hrest⟩ := not_or.mp (mt List.mem_cons.mpr h)
      rw [set, if_neg (Ne.symm hhead), ih hrest]
      rfl

/-- A name that is there keeps its place. -/
theorem names_set (entries : Entries α) (name : Text) (value : α) :
    (set entries name value).map Prod.fst
      = entries.map Prod.fst ++ if name ∈ entries.map Prod.fst then [] else [name] := by
  induction entries with
  | nil => simp [set]
  | cons entry rest ih =>
      obtain ⟨own, old⟩ := entry
      rw [set]
      by_cases hown : own = name
      · simp [hown]
      · have hmem : name ∈ ((own, old) :: rest).map Prod.fst ↔ name ∈ rest.map Prod.fst := by
          simp [Ne.symm hown]
        rw [if_neg hown, List.map_cons, ih]
        by_cases hrest : name ∈ rest.map Prod.fst
        · rw [if_pos hrest, if_pos (hmem.mpr hrest)]
          rfl
        · rw [if_neg hrest, if_neg (mt hmem.mp hrest)]
          rfl

/-- Names are not repeated. -/
theorem nodup_set {entries : Entries α} (h : (entries.map Prod.fst).Nodup) (name : Text)
    (value : α) : ((set entries name value).map Prod.fst).Nodup := by
  rw [names_set]
  by_cases hname : name ∈ entries.map Prod.fst
  · rw [if_pos hname, List.append_nil]
    exact h
  · rw [if_neg hname, List.nodup_append]
    refine ⟨h, List.pairwise_singleton .., ?_⟩
    intro a ha b hb heq
    obtain rfl := List.mem_singleton.mp hb
    exact hname (heq ▸ ha)

/-- Of two values that are set under a name the last one stays. -/
theorem set_set (entries : Entries α) (name : Text) (old value : α) :
    set (set entries name old) name value = set entries name value := by
  induction entries with
  | nil => simp [set]
  | cons entry rest ih =>
      by_cases hname : entry.1 = name
      · simp [set, hname]
      · simp [set, hname, ih]

/-- Two names can be set in either order, if one of them is there. -/
theorem set_comm {entries : Entries α} {name other : Text}
    (hmem : name ∈ entries.map Prod.fst) (hne : name ≠ other) (value another : α) :
    set (set entries other another) name value = set (set entries name value) other another := by
  induction entries with
  | nil => exact nomatch hmem
  | cons entry rest ih =>
      obtain ⟨own, old⟩ := entry
      by_cases hown : own = name
      · subst hown
        simp [set, hne]
      · have hrest : name ∈ rest.map Prod.fst :=
          (List.mem_cons.mp hmem).resolve_left (Ne.symm hown)
        by_cases hother : own = other
        · subst hother
          simp [set, hown]
        · simp [set, hown, hother, ih hrest]

/-! ## Setting several names -/

theorem update_cons (entries : Entries α) (name : Text) (value : α) (more : Entries α) :
    update entries ((name, value) :: more) = update (set entries name value) more := rfl

theorem update_append (entries more rest : Entries α) :
    update entries (more ++ rest) = update (update entries more) rest :=
  List.foldl_append

theorem nodup_update {entries : Entries α} (h : (entries.map Prod.fst).Nodup)
    (more : Entries α) : ((update entries more).map Prod.fst).Nodup := by
  induction more generalizing entries with
  | nil => exact h
  | cons entry rest ih => exact ih (nodup_set h entry.1 entry.2)

/-- Entries of new names come last. -/
theorem update_of_nodup {entries more : Entries α}
    (h : ((entries ++ more).map Prod.fst).Nodup) : update entries more = entries ++ more := by
  induction more generalizing entries with
  | nil => exact (List.append_nil entries).symm
  | cons entry rest ih =>
      obtain ⟨name, value⟩ := entry
      have hsplit : entries ++ (name, value) :: rest = (entries ++ [(name, value)]) ++ rest := by
        simp
      have hnew : name ∉ entries.map Prod.fst := by
        intro hmem
        rw [List.map_append, List.nodup_append] at h
        exact h.2.2 name hmem name (List.mem_cons_self ..) rfl
      rw [hsplit] at h
      rw [update_cons, set_of_not_mem hnew, ih h, hsplit]

/-- A name that is there can be set before others are. -/
theorem set_update {entries more : Entries α} {name : Text} (hmem : name ∈ entries.map Prod.fst)
    (hnew : name ∉ more.map Prod.fst) (value : α) :
    set (update entries more) name value = update (set entries name value) more := by
  induction more generalizing entries with
  | nil => rfl
  | cons entry rest ih =>
      obtain ⟨hhead, hrest⟩ := not_or.mp (mt List.mem_cons.mpr hnew)
      have hstays : name ∈ (set entries entry.1 entry.2).map Prod.fst := by
        rw [names_set]
        exact List.mem_append_left _ hmem
      rw [update, List.foldl_cons]
      show set (update (set entries entry.1 entry.2) rest) name value
        = update (set (set entries name value) entry.1 entry.2) rest
      rw [ih hstays hrest, set_comm hmem hhead]

/-- What is set among the entries that are taken over can be set
    afterwards. -/
theorem update_set {more : Entries α} (h : (more.map Prod.fst).Nodup) (entries : Entries α)
    (name : Text) (value : α) :
    update entries (set more name value) = set (update entries more) name value := by
  induction more generalizing entries with
  | nil => rfl
  | cons entry rest ih =>
      obtain ⟨own, old⟩ := entry
      obtain ⟨hhead, hrest⟩ := List.nodup_cons.mp h
      rw [set]
      by_cases hown : own = name
      · -- the entry that is replaced has been taken over before the others
        subst hown
        have hmem : own ∈ (set entries own old).map Prod.fst := by
          rw [names_set]
          by_cases hthere : own ∈ entries.map Prod.fst
          · exact List.mem_append_left _ hthere
          · rw [if_neg hthere]
            exact List.mem_append_right _ (List.mem_singleton.mpr rfl)
        rw [if_pos rfl, update_cons, update_cons, set_update hmem hhead, set_set]
      · rw [if_neg hown, update_cons, update_cons]
        exact ih hrest (set entries own old)

/-- Entries can be collected before they are taken over. -/
theorem update_update {more : Entries α} (h : (more.map Prod.fst).Nodup)
    (entries rest : Entries α) :
    update entries (update more rest) = update (update entries more) rest := by
  induction rest generalizing more with
  | nil => rfl
  | cons entry rest ih =>
      rw [update_cons, ih (nodup_set h ..), update_set h]
      rfl

/-- The last value that is set under a name counts. -/
theorem find?_update (entries more : Entries α) (key : Text) :
    find? (update entries more) key = (find? more.reverse key).or (find? entries key) := by
  induction more generalizing entries with
  | nil => rfl
  | cons entry rest ih =>
      obtain ⟨name, value⟩ := entry
      rw [update_cons, ih, List.reverse_cons, find?_append, Option.or_assoc, find?_set]
      congr 1
      by_cases hname : name = key
      · simp [find?, hname]
      · simp [find?, hname]

/-- New names come after those that are there, in the order in which they
    are set. -/
theorem names_update {more : Entries α} (h : (more.map Prod.fst).Nodup) (entries : Entries α) :
    (update entries more).map Prod.fst = entries.map Prod.fst
      ++ (more.map Prod.fst).filter fun name => name ∉ entries.map Prod.fst := by
  induction more generalizing entries with
  | nil => simp [update]
  | cons entry rest ih =>
      obtain ⟨name, value⟩ := entry
      obtain ⟨hhead, hrest⟩ := List.nodup_cons.mp h
      rw [update_cons, ih hrest, names_set, List.map_cons, List.filter_cons]
      by_cases hname : name ∈ entries.map Prod.fst
      · rw [if_pos hname, List.append_nil, if_neg (by simpa using hname)]
      · have hfilter : ∀ other ∈ rest.map Prod.fst,
            decide (other ∉ entries.map Prod.fst ++ [name])
              = decide (other ∉ entries.map Prod.fst) := by
          intro other hother
          have hne : other ≠ name := fun heq => hhead (heq ▸ hother)
          simp [hne]
        rw [if_neg hname, if_pos (by simpa using hname), List.append_assoc,
          List.filter_congr hfilter]
        rfl

end

end Entries

end HermesBundle
