import HermesBundle.Proofs.Storage.Spelling

/-! # Ways — what is made on the way to a directory

    A directory is made together with those above it that are missing.
    Each of them is one that a beginning of the path leads to
    (`onWay_of_ensureDirectory`), so whoever knows where the beginnings of
    a path lead knows where nothing is made.  A path that leads to a
    directory leads there step by step: every beginning of it leads to one
    (`exists_locate_beginning`).

    What stands at some places and below them can be set aside.  The rest
    is as it was (`entry?_without_of_not_under`). -/

namespace HermesBundle.FileSystem

variable {fs base files : FileSystem} {here l : Location} {p : Path} {path name : Text}

/-! ## Beginnings of paths -/

/-- What a path leads to is an entry, unless the path leads out of the
    tree. -/
theorem entry?_of_locate_of_kept {aim : Aim} {e : Entry}
    (h : fs.locate here aim path = .ok (.found l e)) (hkept : isLost l = false) :
    fs.entry? l = some e := by
  have hstanding := (walks_of_locate h).standing
  unfold standing? at hstanding
  rwa [hkept, if_neg Bool.false_ne_true] at hstanding

/-- Whether a location is that of a directory that a beginning of a path
    leads to. -/
def IsOnWay (fs : FileSystem) (here : Location) (p : Path) (l : Location) : Prop :=
  ∃ names, names <+: p.parts
    ∧ fs.locate here .target (Path.toText ⟨p.anchor, names⟩) = .ok (.found l .directory)

theorem IsOnWay.extends (h : base.IsOnWay here p l) (hextends : fs.Extends base) :
    fs.IsOnWay here p l := by
  obtain ⟨names, hnames, hlocate⟩ := h
  exact ⟨names, hnames, hextends.locate hlocate⟩

/-- The one entry that is new when a directory is made is what its path
    leads to. -/
theorem locate_of_made (h : fs.makeDirectory here path = .ok files)
    (hl : files.entry? l ≠ fs.entry? l) :
    files.locate here .target path = .ok (.found l .directory) := by
  obtain ⟨above, last, hlocate, -, -, rfl⟩ := makeDirectory_eq_ok h
  rw [entry?_put (child_ne_nil above last)] at hl
  split at hl
  · rename_i hplace
    rw [hplace, locate_of_locate hlocate, walk_eq_ok_iff.mpr
      ((walks_of_locate hlocate).put (e := .directory) fun _ h => nomatch h)]
  · exact absurd rfl hl

theorem locate_of_ensureOne (h : fs.ensureOne here path = .ok files)
    (hl : files.entry? l ≠ fs.entry? l) :
    files.locate here .target path = .ok (.found l .directory) := by
  unfold ensureOne at h
  split at h
  · rename_i made hmade
    obtain rfl := Except.ok.inj h
    exact locate_of_made hmade hl
  · split at h
    · exact nomatch h
    · split at h
      · obtain rfl := Except.ok.inj h
        exact absurd rfl hl
      · exact nomatch h

theorem locate_of_attemptOne (hl : entry? (fs.attemptOne here path).1 l ≠ fs.entry? l) :
    (fs.attemptOne here path).1.locate here .target path = .ok (.found l .directory) := by
  unfold attemptOne at hl ⊢
  split at hl
  · rename_i hfiles
    exact locate_of_ensureOne hfiles hl
  · exact absurd rfl hl

theorem onWay_of_ensureReversed (anchor : Anchor) (parts : List Text)
    (hl : entry? (fs.ensureReversed here anchor parts).1 l ≠ fs.entry? l) :
    (fs.ensureReversed here anchor parts).1.IsOnWay here ⟨anchor, parts.reverse⟩ l := by
  induction parts with
  | nil => exact ⟨[], List.prefix_rfl, locate_of_attemptOne hl⟩
  | cons name above ih =>
      have hlonger : above.reverse <+: (name :: above).reverse := by
        rw [List.reverse_cons]
        exact List.prefix_append _ _
      have hbefore : ∀ {files : FileSystem}, files.IsOnWay here ⟨anchor, above.reverse⟩ l →
          files.IsOnWay here ⟨anchor, (name :: above).reverse⟩ l := by
        rintro files ⟨names, hnames, hlocate⟩
        exact ⟨names, hnames.trans hlonger, hlocate⟩
      unfold ensureReversed at hl ⊢
      dsimp only at hl ⊢
      split at hl
      · rename_i hfiles
        exact ⟨_, List.prefix_rfl, locate_of_ensureOne hfiles hl⟩
      · split at hl
        · rename_i hnone
          rw [if_pos hnone]
          split at hl
          · rename_i made hmade
            rw [hmade] at ih
            -- the entry is new among those above, or the last one
            by_cases hsame : made.entry? l = fs.entry? l
            · rw [← hsame] at hl
              exact ⟨_, List.prefix_rfl, locate_of_attemptOne hl⟩
            · exact hbefore ((ih hsame).extends (attemptOne_grown made here _).1.extends)
          · rename_i made e hmade
            rw [hmade] at ih
            exact hbefore (ih hl)
        · exact absurd rfl hl

/-- **What is made together with a directory is on the way to it.** -/
theorem onWay_of_ensureDirectory
    (hl : entry? (fs.ensureDirectory here p).1 l ≠ fs.entry? l) :
    (fs.ensureDirectory here p).1.IsOnWay here p l := by
  have hway := onWay_of_ensureReversed p.anchor p.parts.reverse hl
  rwa [List.reverse_reverse] at hway

/-- The text of a path without components leads to where a program
    starts. -/
theorem locate_of_parts_nil (hp : p.IsNormal) (hnil : p.parts = [])
    (hstart : fs.standing? (startOf here p.toText) = some .directory) :
    fs.locate here .target p.toText = .ok (.found (startOf here p.toText) .directory) := by
  have hshort : ¬byteCount p.toText > pathLimit := by
    obtain ⟨anchor, parts⟩ := p
    obtain rfl := hnil
    cases anchor <;> decide
  have hwalk : fs.walk .target linkLimit (startOf here p.toText) (steps p.toText)
      = .ok (.found (startOf here p.toText) .directory) := by
    obtain ⟨anchor, parts⟩ := p
    obtain rfl := hnil
    cases anchor with
    | here => exact (walk_skip hstart (.inr rfl) _ _ _).trans (walk_nil hstart _ _)
    | root => exact (walk_skip hstart (.inl rfl) _ _ _).trans (walk_nil hstart _ _)
    | doubleRoot => exact (walk_skip hstart (.inl rfl) _ _ _).trans (walk_nil hstart _ _)
  unfold locate
  rw [if_neg (by simpa using Path.toText_ne_nil hp), if_neg hshort]
  exact hwalk

/-- A path leads to a directory by a walk along its components. -/
theorem walks_of_locate_toText (hp : p.IsNormal) (hhere : fs.settle here = here)
    (h : fs.locate here .target p.toText = .ok (.found l .directory)) :
    fs.Walks .target linkLimit (startOf here p.toText) p.parts (.found l .directory) := by
  by_cases hnil : p.parts = []
  · have hstart : fs.standing? (startOf here p.toText) = some .directory := by
      refine standing?_of_settle ?_
      rw [settle_startOf, hhere]
    obtain ⟨rfl, -⟩ := Spot.found.inj (Except.ok.inj
      (h.symm.trans (locate_of_parts_nil hp hnil hstart)))
    rw [hnil]
    exact .stays hstart
  · have hwalks := walks_of_locate h
    rwa [Path.steps_toText hp hnil] at hwalks

/-- A path that leads somewhere leads to a directory without its last
    component. -/
theorem exists_locate_parent {names : List Text} (hp : p.IsNormal)
    (hparts : p.parts = names ++ [name]) (husable : isUsable p.toText = true)
    (hhere : fs.settle here = here) {aim : Aim} {spot : Spot}
    (h : fs.locate here aim p.toText = .ok spot) :
    ∃ above, fs.locate here .target (Path.toText ⟨p.anchor, names⟩)
      = .ok (.found above .directory) := by
  obtain ⟨anchor, parts⟩ := p
  obtain rfl := hparts
  have hparent : Path.IsNormal ⟨anchor, names⟩ := fun piece hpiece =>
    hp piece (List.mem_append_left _ hpiece)
  have hsame : startOf here (Path.toText ⟨anchor, names⟩)
      = startOf here (Path.toText ⟨anchor, names ++ [name]⟩) := by
    rw [startOf_toText hparent, startOf_toText hp]
    rfl
  obtain ⟨above, left, hwalks, -⟩ := (walks_toText hp rfl h).split
  rw [← hsame] at hwalks
  by_cases hnil : names = []
  · have hstart : fs.standing? (startOf here (Path.toText ⟨anchor, names⟩)) = some .directory := by
      refine standing?_of_settle ?_
      rw [settle_startOf, hhere]
    exact ⟨_, locate_of_parts_nil hparent hnil hstart⟩
  · have hshort : byteCount (Path.toText ⟨anchor, names⟩) ≤ pathLimit := by
      refine (byteCount_le_of_sublist ?_ husable).trans (byteCount_le_of_locate h)
      rw [Path.toText_concat hnil, List.append_assoc]
      exact List.sublist_append_left _ _
    refine ⟨above, ?_⟩
    rw [locate_toText hparent hnil, if_neg (not_lt.mpr hshort), walk_eq_ok_iff.mpr hwalks]

/-- Every beginning of a path that leads to a directory leads to one. -/
theorem exists_locate_beginning {anchor : Anchor} {parts names : List Text}
    (hp : Path.IsNormal ⟨anchor, parts⟩) (husable : isUsable (Path.toText ⟨anchor, parts⟩) = true)
    (hhere : fs.settle here = here)
    (h : fs.locate here .target (Path.toText ⟨anchor, parts⟩) = .ok (.found l .directory))
    (hnames : names <+: parts) :
    ∃ above, fs.locate here .target (Path.toText ⟨anchor, names⟩)
      = .ok (.found above .directory) := by
  obtain ⟨rest, rfl⟩ := hnames
  induction rest using List.reverseRecOn generalizing l with
  | nil =>
      rw [List.append_nil] at h
      exact ⟨l, h⟩
  | append_singleton before last ih =>
      rw [← List.append_assoc] at hp husable h
      obtain ⟨above, habove⟩ := exists_locate_parent hp rfl husable hhere h
      rw [isUsable_toText, List.all_eq_true] at husable
      refine ih (fun piece hpiece => hp piece (List.mem_append_left _ hpiece)) ?_ habove
      rw [isUsable_toText, List.all_eq_true]
      exact fun piece hpiece => husable piece (List.mem_append_left _ hpiece)

/-! ## Places that are set aside -/

/-- Whether a location is one of some places, or below one of them. -/
def IsUnder (places : List Location) (l : Location) : Prop := ∃ place ∈ places, place <+: l

/-- The files without what stands at some places and below them. -/
def without (fs : FileSystem) (places : List Location) : FileSystem :=
  fs.keep fun l => !places.any fun place => place.isPrefixOf l

variable {places : List Location}

theorem any_isPrefixOf_iff :
    (places.any fun place => place.isPrefixOf l) = true ↔ IsUnder places l := by
  unfold IsUnder
  simp [List.isPrefixOf_iff_prefix]

theorem isUnder_cons {place : Location} :
    IsUnder (place :: places) l ↔ place <+: l ∨ IsUnder places l := by
  unfold IsUnder
  exact List.exists_mem_cons_iff ..

theorem IsUnder.ne_nil (h : IsUnder places l) (hne : [] ∉ places) : l ≠ [] := by
  rintro rfl
  obtain ⟨place, hplace, hstarts⟩ := h
  exact hne (List.prefix_nil.mp hstarts ▸ hplace)

theorem entry?_without_of_under (hne : [] ∉ places) (h : IsUnder places l) :
    entry? (fs.without places) l = none := by
  unfold without
  rw [entry?_keep (h.ne_nil hne), any_isPrefixOf_iff.mpr h]
  rfl

/-- What is not set aside is as it was. -/
theorem entry?_without_of_not_under (h : ¬IsUnder places l) :
    entry? (fs.without places) l = fs.entry? l := by
  by_cases hne : l = []
  · rw [hne]
    rfl
  · unfold without
    rw [entry?_keep hne, if_pos]
    rw [Bool.not_eq_true', ← Bool.not_eq_true, any_isPrefixOf_iff]
    exact h

theorem extends_without (fs : FileSystem) (places : List Location) :
    fs.Extends (fs.without places) := fun _ _ h => entry?_of_keep h

/-- What is left has not been set aside. -/
theorem not_under_of_entry? {e : Entry} (hne : [] ∉ places)
    (h : entry? (fs.without places) l = some e) : ¬IsUnder places l := by
  intro hunder
  exact nomatch (entry?_without_of_under hne hunder).symm.trans h

theorem IsUnder.append (h : IsUnder places l) (rest : List Text) : IsUnder places (l ++ rest) := by
  obtain ⟨place, hplace, hstarts⟩ := h
  exact ⟨place, hplace, hstarts.trans (List.prefix_append _ _)⟩

/-- The rest of a tree is a tree. -/
theorem IsTree.without (h : fs.IsTree) (hne : [] ∉ places) : (fs.without places).IsTree := by
  constructor
  · exact fun l e hl => h.named l e (entry?_of_keep hl)
  · intro l name e hl
    rw [entry?_without_of_not_under fun hunder => not_under_of_entry? hne hl (hunder.append [name])]
    exact h.rooted l name e (entry?_of_keep hl)

end HermesBundle.FileSystem
