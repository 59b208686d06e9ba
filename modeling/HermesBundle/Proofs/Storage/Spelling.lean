import HermesBundle.Proofs.Storage.Names
import HermesBundle.Proofs.Storage.Places

/-! # Spellings — a path leads where its text led

    The text of a name inside a directory can be spelt with slashes in a
    row and with dots.  The path that is read from it is spelt without
    them, and leads to the same place:

    * **a walk passes over dots** (`Walks.without_dots`) on its way to a
      last name;
    * **the text of the path** is what is left of the text that it was read
      from (`toText_ofText_sublist`), so it is no longer
      (`byteCount_le_of_sublist`);
    * so **what the text led to the path leads to**
      (`locate_ofText_inside`). -/

namespace HermesBundle

/-! ## What is left of a text -/

namespace Text

/-- Some of the pieces of a text, joined, are what is left of it. -/
theorem join_filter_sublist (separator : Text) (isKept : Text → Bool) (pieces : List Text) :
    (join separator (pieces.filter isKept)).Sublist (join separator pieces) := by
  induction pieces with
  | nil => exact .slnil
  | cons piece rest ih =>
      cases rest with
      | nil =>
          by_cases hkept : isKept piece = true
          · rw [List.filter_cons_of_pos hkept]
            exact .refl _
          · rw [List.filter_cons_of_neg hkept]
            exact List.nil_sublist _
      | cons second more =>
          have hjoin : join separator (piece :: second :: more)
              = piece ++ separator ++ join separator (second :: more) := rfl
          rw [hjoin]
          by_cases hkept : isKept piece = true
          · rw [List.filter_cons_of_pos hkept]
            cases hrest : (second :: more).filter isKept with
            | nil => exact (List.sublist_append_left _ _).trans (List.sublist_append_left _ _)
            | cons first others =>
                rw [hrest] at ih
                exact (List.Sublist.refl _).append ih
          · rw [List.filter_cons_of_neg hkept]
            exact ih.trans (List.sublist_append_right _ _)

end Text

namespace Path

/-- The components of a text, joined, are what is left of it. -/
theorem join_components_sublist (t : Text) :
    (Text.join [slash] (components t)).Sublist t := by
  have hsome := Text.join_filter_sublist [slash] (fun name => !name.isEmpty && name != dot)
    (t.splitOn slash)
  rwa [Text.join_splitOn] at hsome

/-- A leading slash adds no component. -/
theorem components_slash (t : Text) : components (slash :: t) = components t := by
  have hpieces : Text.splitOn slash (slash :: t) = [] :: t.splitOn slash := by
    simp [Text.splitOn]
  unfold components
  rw [hpieces]
  rfl

/-- The text of a path with components is what is left of the text that it
    was read from. -/
theorem toText_ofText_sublist {t : Text} (hne : components t ≠ []) :
    (ofText t).toText.Sublist t := by
  have htext : (ofText t).toText
      = anchorText (anchorOf t) ++ Text.join [slash] (components t) := by
    unfold ofText toText
    obtain ⟨first, rest, hparts⟩ := List.exists_cons_of_ne_nil hne
    dsimp only
    rw [hparts]
    cases anchorOf t <;> rfl
  -- As many slashes as the anchor has are taken from the front of the text.
  have hfront : ∃ before rest, t = before ++ rest ∧ anchorText (anchorOf t) = before
      ∧ components t = components rest := by
    cases t with
    | nil => exact absurd rfl hne
    | cons c rest =>
        by_cases hc : c = slash
        · subst hc
          cases hanchor : anchorOf (slash :: rest) with
          | here =>
              unfold anchorOf at hanchor
              rw [takeWhile_slash_cons] at hanchor
              split at hanchor
              · rename_i hnone
                exact nomatch hnone
              · exact nomatch hanchor
              · exact nomatch hanchor
          | root => exact ⟨[slash], rest, rfl, rfl, components_slash rest⟩
          | doubleRoot =>
              cases rest with
              | nil => exact absurd hanchor (by decide)
              | cons d more =>
                  by_cases hd : d = slash
                  · subst hd
                    exact ⟨[slash, slash], more, rfl, rfl,
                      (components_slash _).trans (components_slash more)⟩
                  · have hhead : (d :: more).head? ≠ some slash :=
                      fun heq => hd (Option.some.inj heq)
                    unfold anchorOf at hanchor
                    rw [takeWhile_slash_cons, takeWhile_slash_eq_nil hhead] at hanchor
                    exact nomatch hanchor
        · have hhead : (c :: rest).head? ≠ some slash := fun heq => hc (Option.some.inj heq)
          have hanchor : anchorOf (c :: rest) = .here := by
            unfold anchorOf
            rw [takeWhile_slash_eq_nil hhead]
            rfl
          rw [hanchor]
          exact ⟨[], c :: rest, rfl, rfl, rfl⟩
  obtain ⟨before, rest, ht, hanchor, hcomponents⟩ := hfront
  rw [htext, hanchor, hcomponents, ht]
  exact (List.Sublist.refl before).append (join_components_sublist rest)

end Path

namespace FileSystem

variable {fs : FileSystem} {aim : Aim} {links : Nat} {here l : Location} {spot : Spot}

/-- How many bytes a code point takes in a name. -/
def pointSize (c : CodePoint) : Nat := ((Utf8.encodeNamePoint c).getD []).length

/-- A name takes as many bytes as its code points do. -/
theorem byteCount_eq_sum {t : Text} (h : isUsable t = true) :
    byteCount t = (t.map pointSize).sum := by
  have hencodes : ∀ c ∈ t, (Utf8.encodeNamePoint c).isSome = true := by
    intro c hc
    rw [isUsable_eq_all, List.all_eq_true] at h
    exact (Bool.and_eq_true_iff.mp (h c hc)).2
  have hparts : ∀ t : Text, (∀ c ∈ t, (Utf8.encodeNamePoint c).isSome = true) →
      t.mapM Utf8.encodeNamePoint = some (t.map fun c => (Utf8.encodeNamePoint c).getD []) := by
    intro t ht
    induction t with
    | nil => rfl
    | cons c rest ih =>
        obtain ⟨hc, hrest⟩ := List.forall_mem_cons.mp ht
        obtain ⟨bytes, hbytes⟩ := Option.isSome_iff_exists.mp hc
        rw [List.mapM_cons, ih hrest, List.map_cons, hbytes]
        rfl
  unfold byteCount Utf8.encodeName?
  rw [hparts t hencodes]
  show (List.flatten _).length = _
  rw [List.length_flatten, List.map_map]
  rfl

/-- What is left of a name takes no more bytes. -/
theorem byteCount_le_of_sublist {s t : Text} (h : s.Sublist t) (ht : isUsable t = true) :
    byteCount s ≤ byteCount t := by
  have hs : isUsable s = true := by
    rw [isUsable_eq_all, List.all_eq_true] at ht ⊢
    exact fun c hc => ht c (h.subset hc)
  rw [byteCount_eq_sum hs, byteCount_eq_sum ht]
  exact (h.map pointSize).sum_le_sum fun _ _ => Nat.zero_le _

theorem byteCount_append {s t : Text} (hs : isUsable s = true) (ht : isUsable t = true) :
    byteCount (s ++ t) = byteCount s + byteCount t := by
  have hboth : isUsable (s ++ t) = true := by
    rw [isUsable_append, hs, ht]
    rfl
  rw [byteCount_eq_sum hs, byteCount_eq_sum ht, byteCount_eq_sum hboth, List.map_append,
    List.sum_append]

/-- A path that leads somewhere is not too long. -/
theorem byteCount_le_of_locate {path : Text} (h : fs.locate here aim path = .ok spot) :
    byteCount path ≤ pathLimit := by
  unfold locate at h
  split at h
  · exact nomatch h
  · split at h
    · exact nomatch h
    · rename_i hlong
      exact not_lt.mp hlong

/-- A walk that goes on passes over a dot. -/
theorem Walks.without_dot {before rest : List Text} (hrest : rest ≠ []) (hslash : rest ≠ [[]])
    (hwalks : fs.Walks aim links l (before ++ dot :: rest) spot) :
    fs.Walks aim links l (before ++ rest) spot := by
  generalize hall : before ++ dot :: rest = all at hwalks
  -- What is left leads on, and to more than a final slash.
  have hon : ∀ names : List Text, names ++ rest ≠ [] := fun names =>
    List.append_ne_nil_of_right_ne_nil _ hrest
  have hwriting : ∀ names : List Text, ¬(aim = .writing ∧ names ++ rest = [[]]) := by
    rintro names ⟨-, heq⟩
    rcases List.append_eq_singleton_iff.mp heq with ⟨-, hsingle⟩ | ⟨-, hnone⟩
    · exact hslash hsingle
    · exact hrest hnone
  induction hwalks generalizing before with
  | stays _ => exact absurd hall (by simp)
  | skips hdirectory hfirst hwalks ih =>
      cases before with
      | nil =>
          obtain ⟨rfl, rfl⟩ := List.cons.inj hall
          exact hwalks
      | cons head more =>
          obtain ⟨rfl, rfl⟩ := List.cons.inj hall
          exact .skips hdirectory hfirst (ih rfl)
  | climbs hdirectory _ ih =>
      cases before with
      | nil => exact absurd (List.cons.inj hall).1 (by decide)
      | cons head more =>
          obtain ⟨rfl, rfl⟩ := List.cons.inj hall
          exact .climbs hdirectory (ih rfl)
  | misses hopens _ =>
      rcases List.append_eq_singleton_iff.mp hall with ⟨-, hsingle⟩ | ⟨-, hnone⟩
      · exact absurd (List.cons.inj hsingle).1.symm hopens.not_dot
      · exact nomatch hnone
  | arrives hopens _ _ =>
      rcases List.append_eq_singleton_iff.mp hall with ⟨-, hsingle⟩ | ⟨-, hnone⟩
      · exact absurd (List.cons.inj hsingle).1.symm hopens.not_dot
      · exact nomatch hnone
  | descends hopens hentry hnolink _ _ _ ih =>
      cases before with
      | nil => exact absurd (List.cons.inj hall).1.symm hopens.not_dot
      | cons head more =>
          obtain ⟨rfl, rfl⟩ := List.cons.inj hall
          exact .descends hopens hentry hnolink (hon more) (hwriting more) (ih rfl)
  | @follows _ _ _ target _ _ hopens hlink _ _ _ ih =>
      cases before with
      | nil => exact absurd (List.cons.inj hall).1.symm hopens.not_dot
      | cons head more =>
          obtain ⟨rfl, rfl⟩ := List.cons.inj hall
          have hwalks := ih (List.append_assoc (steps target) more (dot :: rest))
          rw [List.append_assoc] at hwalks
          exact .follows hopens hlink (fun hlast => hon more hlast.1) (hwriting more) hwalks

/-- A walk to a last name passes over all dots before it. -/
theorem Walks.without_dots {names : List Text} {name : Text} (hname : name ≠ []) :
    ∀ before : List Text, fs.Walks aim links l (before ++ (names ++ [name])) spot →
      fs.Walks aim links l (before ++ (names.filter (· != dot) ++ [name])) spot := by
  induction names with
  | nil => exact fun _ hwalks => hwalks
  | cons first rest ih =>
      intro before hwalks
      have hon : rest ++ [name] ≠ [] := List.append_ne_nil_of_right_ne_nil _ (List.cons_ne_nil _ _)
      have hslash : rest ++ [name] ≠ [[]] := by
        intro heq
        rcases List.append_eq_singleton_iff.mp heq with ⟨-, hsingle⟩ | ⟨-, hnone⟩
        · exact hname (List.cons.inj hsingle).1
        · exact nomatch hnone
      by_cases hdot : first = dot
      · subst hdot
        rw [List.filter_cons_of_neg (by decide)]
        exact ih before (hwalks.without_dot hon hslash)
      · rw [List.filter_cons_of_pos (by simpa using hdot)]
        have hkept : before ++ (first :: rest.filter (· != dot) ++ [name])
            = before ++ [first] ++ (rest.filter (· != dot) ++ [name]) := by simp
        rw [hkept]
        refine ih (before ++ [first]) ?_
        rw [List.append_assoc]
        exact hwalks

/-- **What the text of a name inside a directory leads to, the path leads to
    that is read from it.** -/
theorem locate_ofText_inside {t name : Text} (hname : IsComponent name)
    (husable : isUsable (Temporary.inside t name) = true)
    (h : fs.locate here aim (Temporary.inside t name) = .ok spot) :
    fs.locate here aim (Path.ofText (Temporary.inside t name)).toText = .ok spot := by
  have hparts : (Path.ofText (Temporary.inside t name)).parts = components t ++ [name] :=
    Path.components_inside t hname
  have hne : (Path.ofText (Temporary.inside t name)).parts ≠ [] := by
    rw [hparts]
    exact List.append_ne_nil_of_right_ne_nil _ (List.cons_ne_nil _ _)
  have hshort : byteCount (Path.ofText (Temporary.inside t name)).toText ≤ pathLimit :=
    (byteCount_le_of_sublist (Path.toText_ofText_sublist hne) husable).trans
      (byteCount_le_of_locate h)
  have hstart : (if (Temporary.inside t name).head? == some slash then [] else here)
      = startOf here (Path.ofText (Temporary.inside t name)).toText := by
    rw [startOf_toText (Path.isNormal_ofText _), Path.isAbsolute_ofText_eq]
  have hwalks := walks_of_locate h
  rw [steps_inside t hname, hstart] at hwalks
  have htidied : fs.Walks aim linkLimit _ ([] ++ (_ ++ [name])) spot :=
    Walks.without_dots hname.nonempty [] hwalks
  rw [List.filter_filter, List.nil_append] at htidied
  rw [locate_toText (Path.isNormal_ofText _) hne, if_neg (not_lt.mpr hshort), hparts]
  refine walk_eq_ok_iff.mpr ?_
  have hcomponents : components t
      = (t.splitOn slash).filter fun piece => (piece != dot) && !piece.isEmpty :=
    List.filter_congr fun piece _ => Bool.and_comm _ _
  rw [hcomponents]
  exact htidied

end FileSystem

end HermesBundle
