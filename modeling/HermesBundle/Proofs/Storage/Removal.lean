import HermesBundle.Proofs.Storage.Growth
import HermesBundle.Proofs.Storage.Paths

/-! # Removal — what is left of a directory that has been removed

    A directory is removed by its path: everything below it goes first,
    then the path is followed once more to remove the directory itself.
    The second way may lead elsewhere than the first one, for what went
    may have been part of it.  Still,

    * whatever is done, some locations are kept and nothing else is there
      (`exists_keep_of_removeDirectory`);
    * **if nothing but a missing entry kept the directory from being
      removed, there is no directory at its path**
      (`locate_removeDirectory`);
    * if the directory is where its path leads among all that stands
      outside it, the removal takes away the directory with everything
      below it, and nothing else (`removeDirectory_of_found`). -/

namespace HermesBundle.FileSystem

variable {fs : FileSystem} {here place : Location} {p : Path} {names : List Text} {name : Text}

/-! ## Keeping -/

theorem keep_all (fs : FileSystem) : fs.keep (fun _ => true) = fs := by
  obtain ⟨entries, twins⟩ := fs
  simp [keep]

theorem keep_keep (fs : FileSystem) (isKept isKept' : Location → Bool) :
    (fs.keep isKept).keep isKept' = fs.keep fun k => isKept k && isKept' k := by
  simp [keep, List.filter_filter, Bool.and_comm, Function.comp_def]

theorem removeTree_clear (fs : FileSystem) (l place : Location) :
    (fs.clear l).removeTree place
      = fs.keep fun k => !(l.isPrefixOf k && l.length < k.length) && !place.isPrefixOf k :=
  keep_keep ..

/-- Where a program starts that follows a path. -/
def startOf (here : Location) (path : Text) : Location :=
  if path.head? == some slash then [] else here

theorem settle_startOf (fs : FileSystem) (here : Location) (path : Text) :
    fs.settle (startOf here path) = startOf (fs.settle here) path := by
  unfold startOf
  split
  · rfl
  · rfl

/-! ## The two ways to a directory -/

/-- A path with a last component is followed along the others, and then
    the last one is looked up. -/
theorem walks_toText {aim : Aim} {spot : Spot} (hp : p.IsNormal)
    (hparts : p.parts = names ++ [name])
    (h : fs.locate here aim p.toText = .ok spot) :
    fs.Walks aim linkLimit (startOf here p.toText) (names ++ [name]) spot := by
  have hne : p.parts ≠ [] := hparts ▸ List.append_ne_nil_of_right_ne_nil _ (List.cons_ne_nil _ _)
  have hwalks := walks_of_locate h
  rwa [Path.steps_toText hp hne, hparts] at hwalks

/-- How an empty directory is removed by a path with a last component. -/
theorem removeEmpty_toText (hp : p.IsNormal) (hparts : p.parts = names ++ [name])
    (hname : name ≠ dotDot) (fs : FileSystem) (here : Location) :
    fs.removeEmpty here p.toText =
      match fs.walk .target linkLimit (startOf here p.toText) names with
      | .error e => .error e
      | .ok (.free _) => .error .noEntry
      | .ok (.found above .directory) =>
          match fs.entry? (child above name) with
          | none => .error .noEntry
          | some .directory =>
              if (fs.below (child above name)).isEmpty then .ok (fs.removeTree (child above name))
              else .error .notEmpty
          | some _ => .error .notDirectory
      | .ok (.found _ _) => .error .notDirectory := by
  have hne : p.parts ≠ [] := hparts ▸ List.append_ne_nil_of_right_ne_nil _ (List.cons_ne_nil _ _)
  have hdot : name ≠ dot :=
    (hp name (hparts ▸ List.mem_append_right _ (List.mem_singleton.mpr rfl))).not_dot
  unfold removeEmpty
  simp only [Path.names_toText hp hne, hparts, List.getLast?_concat, List.dropLast_concat,
    if_neg hdot, if_neg hname]
  rfl

/-- What a walk to an entry by a last name comes to. -/
theorem Walks.last {aim : Aim} {links : Nat} {above : Location} {e : Entry}
    (h : fs.Walks aim links above [name] (.found place e)) (hnonempty : name ≠ [])
    (hdot : name ≠ dot) (hdotDot : name ≠ dotDot) (haim : aim = .itself) :
    place = child above name ∧ fs.Opens above name ∧ fs.entry? place = some e := by
  cases h with
  | skips _ hname _ => exact absurd hname (not_or_intro hnonempty hdot)
  | climbs _ _ => exact absurd rfl hdotDot
  | arrives hopens hentry _ => exact ⟨rfl, hopens, hentry⟩
  | descends _ _ _ hon _ _ => exact absurd rfl hon
  | follows _ _ hon _ _ => exact absurd ⟨rfl, haim⟩ hon

/-- What a walk leads to is there. -/
theorem Walks.standing {aim : Aim} {links : Nat} {l : Location} {e : Entry}
    (h : fs.Walks aim links l names (.found place e)) : fs.standing? place = some e := by
  generalize hspot : Spot.found place e = spot at h
  induction h with
  | stays hstanding =>
      obtain ⟨rfl, rfl⟩ := Spot.found.inj hspot
      exact hstanding
  | skips _ _ _ ih => exact ih hspot
  | climbs _ _ ih => exact ih hspot
  | misses _ _ => exact nomatch hspot
  | arrives hopens hentry _ =>
      obtain ⟨rfl, rfl⟩ := Spot.found.inj hspot
      unfold standing?
      rwa [isLost_child hopens.kept hopens.nonempty, if_neg Bool.false_ne_true]
  | descends _ _ _ _ _ _ ih => exact ih hspot
  | follows _ _ _ _ _ ih => exact ih hspot

/-- A name that is looked up where a walk has led to, is looked up by the
    longer walk. -/
theorem Walks.concat {links : Nat} {l above : Location} {e : Entry}
    (h : fs.Walks .target links l names (.found above .directory)) (hopens : fs.Opens above name)
    (hentry : fs.entry? (child above name) = some e) :
    fs.Walks .itself links l (names ++ [name]) (.found (child above name) e) := by
  obtain ⟨left, hleft⟩ := h.through
  have hslash : [name] ≠ [[]] := fun heq => hopens.nonempty (List.cons.inj heq).1
  rw [← walk_eq_ok_iff, hleft fs (.refl fs) .itself [name] (List.cons_ne_nil _ _) hslash,
    walk_eq_ok_iff]
  exact .arrives hopens hentry fun _ _ => rfl

theorem removeEmpty_eq_ok {files : FileSystem} {path : Text}
    (h : fs.removeEmpty here path = .ok files) : ∃ l, files = fs.removeTree l := by
  unfold removeEmpty at h
  dsimp only at h
  repeat' split at h
  all_goals first
    | exact ⟨_, (Except.ok.inj h).symm⟩
    | exact nomatch h

/-- A removal keeps some locations, and nothing else is there. -/
theorem exists_keep_of_removeDirectory (fs : FileSystem) (here : Location) (p : Path) :
    ∃ isKept, (fs.removeDirectory here p).1 = fs.keep isKept := by
  have hsame : ∃ isKept, fs = fs.keep isKept := ⟨_, (keep_all fs).symm⟩
  unfold removeDirectory
  dsimp only
  split
  · exact hsame
  · exact hsame
  · rename_i l _
    split
    · rename_i files hfiles
      obtain ⟨place, rfl⟩ := removeEmpty_eq_ok hfiles
      exact ⟨_, removeTree_clear fs l place⟩
    · exact ⟨_, Eq.refl (fs.clear l)⟩
  · split
    · exact hsame
    · exact hsame
  · exact hsame

/-! ## What is left -/

/-- A directory that is found is emptied first. -/
theorem removeDirectory_of_locate {l : Location}
    (h : fs.locate here .itself p.toText = .ok (.found l .directory)) :
    fs.removeDirectory here p =
      match (fs.clear l).removeEmpty ((fs.clear l).settle here) p.toText with
      | .ok files => (files, none)
      | .error e => (fs.clear l, some (.about e p.toText)) := by
  unfold removeDirectory
  cases hempty : (fs.clear l).removeEmpty ((fs.clear l).settle here) p.toText with
  | ok files => simp only [h, hempty]
  | error e => simp only [h, hempty]

/-- The directory that a path leads to is removed with everything below
    it, if the path still leads to it when that is gone. -/
theorem removeDirectory_of_found {above : Location} (hp : p.IsNormal)
    (hparts : p.parts = names ++ [name]) (hname : name ≠ dotDot)
    (hlocate : fs.locate here .itself p.toText = .ok (.found (child above name) .directory))
    (habove : (fs.clear (child above name)).Walks .target linkLimit
      (startOf ((fs.clear (child above name)).settle here) p.toText) names
      (.found above .directory))
    (hentry : fs.entry? (child above name) = some .directory) :
    fs.removeDirectory here p
      = ((fs.clear (child above name)).removeTree (child above name), none) := by
  have hthere : entry? (fs.clear (child above name)) (child above name) = some .directory := by
    rw [entry?_clear, if_neg fun h => h.2 rfl, hentry]
  rw [removeDirectory_of_locate hlocate, removeEmpty_toText hp hparts hname,
    walk_eq_ok_iff.mpr habove]
  dsimp only
  rw [hthere, below_clear]
  rfl

/-- **A directory that could be removed, or was gone, is not there
    afterwards.** -/
theorem locate_removeDirectory (hp : p.IsNormal) (hparts : p.parts = names ++ [name])
    (hname : name ≠ dotDot) (htree : fs.IsTree) (hhere : fs.settle here = here)
    (hgone : ((fs.removeDirectory here p).2.filter fun e => !e.isNoEntry) = none) :
    (fs.removeDirectory here p).1.locate ((fs.removeDirectory here p).1.settle here) .itself
        p.toText
      ≠ .ok (.found place .directory) := by
  have hcomponent : IsComponent name :=
    hp name (hparts ▸ List.mem_append_right _ (List.mem_singleton.mpr rfl))
  have hne : p.parts ≠ [] := hparts ▸ List.append_ne_nil_of_right_ne_nil _ (List.cons_ne_nil _ _)
  intro hfound
  obtain ⟨isKept, hkeep⟩ := exists_keep_of_removeDirectory fs here p
  have hwalks := walks_toText hp hparts hfound
  obtain ⟨above, left, habove, hlast⟩ := hwalks.split
  obtain ⟨rfl, hopens, hentry⟩ := hlast.last hcomponent.nonempty hcomponent.not_dot hname rfl
  -- What is found now was found before.
  have hstart : fs.settle (startOf here p.toText) = startOf here p.toText := by
    rw [settle_startOf, hhere]
  have hbefore : ∀ {isKept l}, (fs.keep isKept).Walks .itself linkLimit
      (startOf ((fs.keep isKept).settle here) p.toText) (names ++ [name]) (.found l .directory) →
      isLost l = false →
      fs.Walks .itself linkLimit (startOf here p.toText) (names ++ [name]) (.found l .directory) :=
    fun h hl => h.of_keep (settle_startOf ..) hstart hl
  have hkept := isLost_child hopens.kept hopens.nonempty
  have hthen := hbefore (hkeep ▸ hwalks) hkept
  have hlocate : fs.locate here .itself p.toText = .ok (.found (child above name) .directory) := by
    rw [locate_of_locate hfound, Path.steps_toText hp hne, hparts]
    exact walk_eq_ok_iff.mpr hthen
  -- So the removal got as far as emptying it, and then went its way once more.
  have hremoval := removeDirectory_of_locate hlocate
  cases hagain : (fs.clear (child above name)).removeEmpty
      ((fs.clear (child above name)).settle here) p.toText with
  | error e =>
      rw [hagain] at hremoval
      rw [hremoval] at habove hentry hgone
      dsimp only at habove hentry hgone
      rw [removeEmpty_toText hp hparts hname, walk_eq_ok_iff.mpr habove] at hagain
      dsimp only at hagain
      rw [hentry] at hagain
      dsimp only at hagain
      split at hagain
      · exact nomatch hagain
      · obtain rfl := Except.error.inj hagain
        exact nomatch hgone
  | ok files =>
      rw [hagain] at hremoval
      rw [hremoval] at hentry hopens
      dsimp only at hentry hopens
      rw [removeEmpty_toText hp hparts hname] at hagain
      split at hagain
      · exact nomatch hagain
      · exact nomatch hagain
      · rename_i place hplace
        split at hagain
        · exact nomatch hagain
        · rename_i hdirectory
          split at hagain
          · obtain rfl := Except.ok.inj hagain
            have hplace := walk_eq_ok_iff.mp hplace
            have hlost : isLost place = false :=
              isLost_of_child (htree.named _ _ (entry?_of_keep hdirectory))
            have hway := hplace.concat
              ⟨hplace.standing, hcomponent.nonempty, hcomponent.not_dot, hname, hlost, hopens.fits⟩
              hdirectory
            have hsame := Except.ok.inj ((walk_eq_ok_iff.mpr (hbefore hway
              (isLost_child hlost hcomponent.nonempty))).symm.trans (walk_eq_ok_iff.mpr hthen))
            obtain ⟨heq, -⟩ := Spot.found.inj hsame
            rw [entry?_removeTree (child_ne_nil _ _), heq, if_pos List.prefix_rfl] at hentry
            exact nomatch hentry
          · exact nomatch hagain
        · exact nomatch hagain
      · exact nomatch hagain

end HermesBundle.FileSystem
