import HermesBundle.Machine
import HermesBundle.Proofs.Storage.Walks

/-! # Growth — directories made at free names

    The files of a machine are a tree: every entry stands in a directory,
    and none has the name of what is lost (`IsTree`).  To make a directory,
    and those above it, is to put directories at free names, one after
    another (`Grown`, `grown_ensureDirectory`).  What has grown in this way

    * has all that was there (`Grown.extends`);
    * is a tree again (`Grown.isTree`);

    and a directory that has been made is there (`isDirectory_of_ensured`).
    One that was there before is left as it is, with everything else
    (`ensureDirectory_of_isDirectory`). -/

namespace HermesBundle

namespace FileSystem

/-- Whether files are a tree. -/
structure IsTree (fs : FileSystem) : Prop where
  /-- No entry has the name of what is lost. -/
  named : ∀ l e, fs.entry? l = some e → isLost l = false
  /-- Every entry stands in a directory. -/
  rooted : ∀ l name e, fs.entry? (l ++ [name]) = some e → fs.entry? l = some .directory

/-- Whether files come from others by directories that are put at free
    names. -/
inductive Grown (fs : FileSystem) : FileSystem → Prop where
  | same : Grown fs fs
  | more {files : FileSystem} {above : Location} {name : Text} :
      Grown fs files → files.Opens above name → files.entry? (child above name) = none →
      Grown fs (files.put (child above name) .directory)

variable {fs files : FileSystem} {here l : Location} {path : Text}

theorem Grown.extends (h : fs.Grown files) : files.Extends fs := by
  induction h with
  | same => exact .refl fs
  | more _ _ hfree ih =>
      exact fun k e hk => extends_put (child_ne_nil _ _) hfree _ k e (ih k e hk)

theorem Grown.trans {last : FileSystem} (h : fs.Grown files) (hlast : files.Grown last) :
    fs.Grown last := by
  induction hlast with
  | same => exact h
  | more _ hopens hfree ih => exact .more ih hopens hfree

/-- Entries that all stand in directories, under names that are kept, are
    a tree. -/
theorem isTree_of_all (h : fs.entries.all (fun (k, _) => !isLost k
    && fs.entry? k.dropLast == some .directory) = true) : fs.IsTree := by
  have hentry : ∀ k e, k ≠ [] → fs.entry? k = some e →
      isLost k = false ∧ fs.entry? k.dropLast = some .directory := by
    intro k e hk he
    rw [entry?_of_ne_nil hk] at he
    obtain ⟨before, rest, heq, -⟩ := List.lookup_eq_some_iff.mp he
    have hmem : (k, e) ∈ fs.entries := heq ▸ List.mem_append_right before List.mem_cons_self
    obtain ⟨hkept, hparent⟩ := Bool.and_eq_true_iff.mp (List.all_eq_true.mp h _ hmem)
    exact ⟨Bool.not_eq_true' _ ▸ hkept, eq_of_beq hparent⟩
  constructor
  · intro l e he
    cases l with
    | nil => rfl
    | cons name rest => exact (hentry _ e (List.cons_ne_nil _ _) he).1
  · intro l name e he
    have hparent := (hentry _ e (List.append_ne_nil_of_right_ne_nil l (by simp)) he).2
    rwa [List.dropLast_concat] at hparent

/-- A tree to which an entry is added in a directory is a tree. -/
theorem IsTree.put {above : Location} {name : Text} (h : fs.IsTree) (hopens : fs.Opens above name)
    (hfree : fs.entry? (child above name) = none) (e : Entry) :
    (fs.put (child above name) e).IsTree := by
  have hmore := extends_put (child_ne_nil above name) hfree e
  constructor
  · intro k e' hk
    rw [entry?_put (child_ne_nil above name)] at hk
    split at hk
    · rename_i heq
      rw [heq]
      exact isLost_child hopens.kept hopens.nonempty
    · exact h.named k e' hk
  · intro k last e' hk
    rw [entry?_put (child_ne_nil above name)] at hk
    split at hk
    · rename_i heq
      obtain ⟨rfl, -⟩ := List.append_inj' heq rfl
      exact hmore _ _ hopens.entry?
    · exact hmore _ _ (h.rooted k last e' hk)

theorem Grown.isTree (h : fs.Grown files) (htree : fs.IsTree) : files.IsTree := by
  induction h with
  | same => exact htree
  | more _ hopens hfree ih => exact ih.put hopens hfree .directory

/-! ## Making directories -/

/-- What a path leads to is found by a walk along its names. -/
theorem walks_of_locate {aim : Aim} {spot : Spot} (h : fs.locate here aim path = .ok spot) :
    fs.Walks aim linkLimit (if path.head? == some slash then [] else here) (steps path) spot := by
  unfold locate at h
  split at h
  · exact nomatch h
  · split at h
    · exact nomatch h
    · exact walk_eq_ok_iff.mp h

/-- A path that leads somewhere leads where a walk along its names does. -/
theorem locate_of_locate {aim aim' : Aim} {spot : Spot} (h : fs.locate here aim path = .ok spot)
    (files : FileSystem) (there : Location) :
    files.locate there aim' path
      = files.walk aim' linkLimit (if path.head? == some slash then [] else there)
        (steps path) := by
  unfold locate at h ⊢
  split at h
  · exact nomatch h
  · split at h
    · exact nomatch h
    · rename_i hempty hlong
      rw [if_neg hempty, if_neg hlong]

theorem makeDirectory_eq_ok (h : fs.makeDirectory here path = .ok files) :
    ∃ above name, fs.locate here .itself path = .ok (.free (child above name))
      ∧ fs.Opens above name ∧ fs.entry? (child above name) = none
      ∧ files = fs.put (child above name) .directory := by
  unfold makeDirectory at h
  split at h
  · exact nomatch h
  · rename_i place hfree
    obtain rfl := Except.ok.inj h
    obtain ⟨above, name, rfl, hopens, hentry⟩ := (walks_of_locate hfree).exists_opens
    exact ⟨above, name, hfree, hopens, hentry, rfl⟩
  · exact nomatch h

theorem grown_of_makeDirectory (h : fs.makeDirectory here path = .ok files) : fs.Grown files := by
  obtain ⟨above, name, -, hopens, hfree, rfl⟩ := makeDirectory_eq_ok h
  exact .more .same hopens hfree

/-- A directory that has been made is there. -/
theorem isDirectory_of_makeDirectory (h : fs.makeDirectory here path = .ok files) :
    files.isDirectory here path = true := by
  obtain ⟨above, name, hlocate, -, -, rfl⟩ := makeDirectory_eq_ok h
  unfold isDirectory status?
  rw [locate_of_locate hlocate, walk_eq_ok_iff.mpr
    ((walks_of_locate hlocate).put (e := .directory) fun _ h => nomatch h)]

/-- A path is that of a directory if it leads to one. -/
theorem exists_locate_of_isDirectory (h : fs.isDirectory here path = true) :
    ∃ place, fs.locate here .target path = .ok (.found place .directory) := by
  unfold isDirectory status? at h
  split at h
  · rename_i hstatus
    split at hstatus
    · rename_i place e hlocate
      obtain rfl := Except.ok.inj hstatus
      exact ⟨place, hlocate⟩
    · exact nomatch hstatus
    · exact nomatch hstatus
  · exact nomatch h

/-- A directory that is there is not made again. -/
theorem makeDirectory_of_isDirectory (h : fs.isDirectory here path = true) :
    fs.makeDirectory here path = .error (.about .occupied path) := by
  obtain ⟨place, hlocate⟩ := exists_locate_of_isDirectory h
  obtain ⟨near, e, hnear⟩ := (walks_of_locate hlocate).itself
  unfold makeDirectory
  rw [locate_of_locate hlocate, walk_eq_ok_iff.mpr hnear]

theorem ensureOne_of_isDirectory (h : fs.isDirectory here path = true) :
    fs.ensureOne here path = .ok fs := by
  unfold ensureOne
  rw [makeDirectory_of_isDirectory h]
  exact if_pos h

theorem ensureOne_eq_ok (h : fs.ensureOne here path = .ok files) :
    fs.Grown files ∧ files.isDirectory here path = true := by
  unfold ensureOne at h
  split at h
  · rename_i made hmade
    obtain rfl := Except.ok.inj h
    exact ⟨grown_of_makeDirectory hmade, isDirectory_of_makeDirectory hmade⟩
  · split at h
    · exact nomatch h
    · split at h
      · rename_i hdirectory
        obtain rfl := Except.ok.inj h
        exact ⟨.same, hdirectory⟩
      · exact nomatch h

theorem attemptOne_grown (fs : FileSystem) (here : Location) (path : Text) :
    fs.Grown (fs.attemptOne here path).1 ∧
      ((fs.attemptOne here path).2 = none
        → (fs.attemptOne here path).1.isDirectory here path = true) := by
  unfold attemptOne
  split
  · rename_i files hfiles
    exact ⟨(ensureOne_eq_ok hfiles).1, fun _ => (ensureOne_eq_ok hfiles).2⟩
  · exact ⟨.same, fun h => nomatch h⟩

/-- The components of a path, in reverse, are put at free names from the
    first that is missing on. -/
theorem ensureReversed_grown (fs : FileSystem) (here : Location) (anchor : Anchor)
    (parts : List Text) :
    fs.Grown (fs.ensureReversed here anchor parts).1 ∧
      ((fs.ensureReversed here anchor parts).2 = none →
        (fs.ensureReversed here anchor parts).1.isDirectory here
          (Path.toText ⟨anchor, parts.reverse⟩) = true) := by
  induction parts with
  | nil => exact attemptOne_grown fs here _
  | cons name above ih =>
      unfold ensureReversed
      dsimp only
      split
      · rename_i files hfiles
        exact ⟨(ensureOne_eq_ok hfiles).1, fun _ => (ensureOne_eq_ok hfiles).2⟩
      · split
        · split
          · rename_i files hfiles
            rw [hfiles] at ih
            have hlast := attemptOne_grown files here
              (Path.toText ⟨anchor, (name :: above).reverse⟩)
            exact ⟨ih.1.trans hlast.1, hlast.2⟩
          · rename_i files e hfiles
            rw [hfiles] at ih
            exact ⟨ih.1, fun h => nomatch h⟩
        · exact ⟨.same, fun h => nomatch h⟩

theorem grown_ensureDirectory (fs : FileSystem) (here : Location) (p : Path) :
    fs.Grown (fs.ensureDirectory here p).1 :=
  (ensureReversed_grown fs here p.anchor p.parts.reverse).1

/-- A directory that could be made, or was there, is there afterwards. -/
theorem isDirectory_of_ensured {p : Path} (h : (fs.ensureDirectory here p).2 = none) :
    (fs.ensureDirectory here p).1.isDirectory here p.toText = true := by
  have hthere := (ensureReversed_grown fs here p.anchor p.parts.reverse).2 h
  rwa [List.reverse_reverse] at hthere

/-- Where the directory is there nothing is made. -/
theorem ensureDirectory_of_isDirectory {p : Path} (h : fs.isDirectory here p.toText = true) :
    fs.ensureDirectory here p = (fs, none) := by
  obtain ⟨anchor, parts⟩ := p
  have hone := ensureOne_of_isDirectory h
  unfold ensureDirectory
  cases hparts : parts.reverse with
  | nil =>
      obtain rfl := List.reverse_eq_nil_iff.mp hparts
      unfold ensureReversed attemptOne
      rw [hone]
  | cons name above =>
      have hback : (name :: above).reverse = parts := by
        rw [← hparts, List.reverse_reverse]
      unfold ensureReversed
      dsimp only
      rw [hback, hone]

end FileSystem

/-- Whether the files of a machine are a tree, and the machine stands in
    one of its directories, or in one that has been removed. -/
structure Machine.IsSound (m : Machine) : Prop where
  tree : m.files.IsTree
  settled : m.files.settle m.here = m.here

end HermesBundle
