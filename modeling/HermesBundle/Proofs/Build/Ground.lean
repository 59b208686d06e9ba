import HermesBundle.Proofs.Build.Workspaces
import HermesBundle.Proofs.Storage.Places

/-! # Grounds — one root, many workspaces

    Builds that share a root make their workspaces in it, each under a
    name of its own.  A ground is a machine with such a root, which may be
    missing but can be made.  Whatever the builds have done, the machine is
    theirs: beside the workspaces everything stands as it did when the root
    had just been made (`Ground.Keeps`).  So

    * **the root** is there, and is not made again (`ensures`);
    * **a free name** in it is one of a fresh workspace, and whether a name
      can be had at all is the same for all builds (`name_cases`,
      `makeFresh_cases`);
    * **the files of a workspace** are found in it, whatever stands in
      others (`exists_locate_file`);
    * **a workspace that is removed** is gone with all that was in it, and
      nothing else is (`removeDirectory_workspaceAt`). -/

namespace HermesBundle.Build

open FileSystem

/-- A machine with a root for workspaces. -/
structure Ground where
  machine : Machine
  root : Path
  /-- The files once the root is there. -/
  rooted : FileSystem
  /-- Where the root is. -/
  place : Location
  sound : machine.IsSound
  normal : root.IsNormal
  usable : isUsable root.toText = true
  made : machine.files.ensureDirectory machine.here root = (rooted, none)
  found : rooted.Walks .target linkLimit (startOf machine.here root.toText) root.parts
    (.found place .directory)

/-- Wherever a root can be made there is a ground. -/
theorem exists_ground {m : Machine} {root : Path} {rooted : FileSystem} (hm : m.IsSound)
    (hroot : root.IsNormal) (husable : isUsable root.toText = true)
    (hmade : m.files.ensureDirectory m.here root = (rooted, none)) :
    ∃ G : Ground, G.machine = m ∧ G.root = root := by
  have hextends : rooted.Extends m.files := by
    have hgrown := grown_ensureDirectory m.files m.here root
    rw [hmade] at hgrown
    exact hgrown.extends
  have hthere := isDirectory_of_ensured (congrArg Prod.snd hmade)
  rw [hmade] at hthere
  obtain ⟨place, hplace⟩ := exists_locate_of_isDirectory hthere
  by_cases hne : root.parts = []
  · have hstart : rooted.standing? (startOf m.here root.toText) = some .directory := by
      refine standing?_of_settle ?_
      rw [settle_startOf, settle_of_extends hm.settled hextends]
    have hstays : rooted.Walks .target linkLimit (startOf m.here root.toText) root.parts
        (.found (startOf m.here root.toText) .directory) := by
      rw [hne]
      exact .stays hstart
    exact ⟨⟨m, root, rooted, _, hm, hroot, husable, hmade, hstays⟩, rfl, rfl⟩
  · have hwalks := walks_of_locate hplace
    rw [Path.steps_toText hroot hne] at hwalks
    exact ⟨⟨m, root, rooted, place, hm, hroot, husable, hmade, hwalks⟩, rfl, rfl⟩

namespace Ground

variable (G : Ground)

/-- Where a program starts that follows the path of the root, or of
    something in it. -/
def start : Location := startOf G.machine.here G.root.toText

/-- The name of the workspace with a number. -/
def name (n : Nat) : Text := Workspace.nameOf G.machine.processId (G.machine.draws n)

/-- The workspace with a number. -/
def workspaceAt (n : Nat) : Workspace := ⟨⟨G.root.anchor, G.root.parts ++ [G.name n]⟩⟩

/-- The path that the workspace is made by. -/
def pathText (n : Nat) : Text := Temporary.inside G.root.toText (G.name n)

/-- Makes a fresh directory in the root, of those with the numbers from
    one on. -/
def makeFresh (fs : FileSystem) (k left : Nat) : Except SystemError (FileSystem × Text × Nat) :=
  Workspace.makeFresh fs G.machine.here G.root.toText G.machine.processId G.machine.draws k left

/-- Where the workspace with a number is. -/
def lot (n : Nat) : Location := child G.place (G.name n)

/-- Whether there can be a workspace with a number. -/
def Takes (n : Nat) : Prop :=
  G.rooted.locate G.machine.here .itself (G.pathText n) = .ok (.free (G.lot n))

/-- Whether a location is that of a workspace, or inside one. -/
def IsNew (l : Location) : Prop := ∃ n, G.Takes n ∧ G.lot n <+: l

/-- Whether everything beside the workspaces stands as it did when the root
    had just been made. -/
def Keeps (fs : FileSystem) : Prop := ∀ l, ¬G.IsNew l → fs.entry? l = G.rooted.entry? l

variable {G} {fs : FileSystem} {n : Nat}

theorem isComponent_name (n : Nat) : IsComponent (G.name n) := Workspace.isComponent_nameOf _ _

theorem name_ne_dotDot (n : Nat) : G.name n ≠ dotDot := Workspace.nameOf_ne_dotDot _ _

theorem lot_eq (n : Nat) : G.lot n = G.place ++ [G.name n] :=
  congrArg (fun name => G.place ++ [name]) (Workspace.settledName_nameOf _ _)

theorem lot_ne_nil (n : Nat) : G.lot n ≠ [] := child_ne_nil _ _

/-- A location that is inside one workspace is inside no other. -/
theorem lot_eq_of_lot_append {n k : Nat} {rest : List Text} (h : G.lot n <+: G.lot k ++ rest) :
    G.lot n = G.lot k := by
  rw [lot_eq, lot_eq] at h ⊢
  have hlength : (G.place ++ [G.name n]).length = (G.place ++ [G.name k]).length := by simp
  exact (List.prefix_of_prefix_length_le h (List.prefix_append _ _) hlength.le).eq_of_length hlength

/-- Workspaces at one place are one. -/
theorem workspaceAt_eq_of_lot {n k : Nat} (h : G.lot n = G.lot k) :
    G.workspaceAt n = G.workspaceAt k := by
  rw [lot_eq, lot_eq] at h
  have hname := List.append_cancel_left h
  unfold workspaceAt
  rw [hname]

theorem lot_eq_of_workspaceAt {n k : Nat} (h : G.workspaceAt n = G.workspaceAt k) :
    G.lot n = G.lot k := by
  have hparts := congrArg (fun ws : Workspace => ws.path.parts) h
  have hname := List.append_cancel_left hparts
  rw [lot_eq, lot_eq, hname]

theorem isNormal_workspaceAt (n : Nat) : (G.workspaceAt n).path.IsNormal := by
  intro piece hpiece
  rcases List.mem_append.mp hpiece with hroot | hlast
  · exact G.normal piece hroot
  · exact List.mem_singleton.mp hlast ▸ isComponent_name n

theorem parts_workspaceAt_ne_nil (n : Nat) : (G.workspaceAt n).path.parts ≠ [] :=
  List.append_ne_nil_of_right_ne_nil _ (List.cons_ne_nil _ _)

/-- The path that a workspace is made by is the text of its path, but below
    the current directory, where its name is that. -/
theorem pathText_cases (n : Nat) :
    G.pathText n = (G.workspaceAt n).path.toText
      ∨ G.pathText n = dot ++ [slash] ++ G.name n
        ∧ (G.workspaceAt n).path.toText = G.name n := by
  have hnormal := G.normal
  unfold pathText workspaceAt
  generalize G.root = root at hnormal ⊢
  obtain ⟨anchor, parts⟩ := root
  by_cases hne : parts = []
  · obtain rfl := hne
    cases anchor with
    | here => exact .inr ⟨rfl, rfl⟩
    | root => exact .inl rfl
    | doubleRoot => exact .inl rfl
  · refine .inl ?_
    rw [Path.toText_concat hne]
    unfold Temporary.inside
    rw [Path.getLast?_toText hnormal hne]
    rfl

/-- The path that a workspace is made by is its path. -/
theorem ofText_pathText (n : Nat) : Path.ofText (G.pathText n) = (G.workspaceAt n).path :=
  Path.ofText_inside_toText G.normal (isComponent_name n)

theorem isUsable_name (n : Nat) : isUsable (G.name n) = true :=
  Workspace.isUsable_nameOf_always _ _

theorem isUsable_pathText (n : Nat) : isUsable (G.pathText n) = true := by
  unfold pathText
  rw [Workspace.isUsable_inside, G.usable, isUsable_name]
  rfl

theorem isUsable_workspaceAt (n : Nat) : isUsable (G.workspaceAt n).path.toText = true :=
  ofText_pathText n ▸ isUsable_ofText (isUsable_pathText n)

theorem start_workspaceAt (n : Nat) :
    startOf G.machine.here (G.workspaceAt n).path.toText = G.start := by
  unfold start
  rw [startOf_toText (isNormal_workspaceAt n), startOf_toText G.normal]
  rfl

/-! ## The root -/

theorem rooted_grown : G.machine.files.Grown G.rooted := by
  have hgrown := grown_ensureDirectory G.machine.files G.machine.here G.root
  rwa [G.made] at hgrown

theorem rooted_isTree : G.rooted.IsTree := rooted_grown.isTree G.sound.tree

theorem rooted_isDirectory : G.rooted.isDirectory G.machine.here G.root.toText = true := by
  have hthere := isDirectory_of_ensured (congrArg Prod.snd G.made)
  rwa [G.made] at hthere

/-- A root that is there is not made. -/
theorem rooted_eq (h : G.machine.files.isDirectory G.machine.here G.root.toText = true) :
    G.rooted = G.machine.files := by
  have hmade := G.made
  rw [ensureDirectory_of_isDirectory h] at hmade
  exact (Prod.mk.inj hmade).1.symm

/-- A place for a workspace is free. -/
theorem Takes.free (h : G.Takes n) : G.rooted.entry? (G.lot n) = none := by
  obtain ⟨above, last, hplace, -, hfree⟩ := (walks_of_locate h).exists_opens
  exact hfree

theorem IsNew.free {l : Location} (h : G.IsNew l) : G.rooted.entry? l = none := by
  obtain ⟨n, htakes, rest, rfl⟩ := h
  exact rooted_isTree.entry?_append htakes.free rest

theorem Takes.isNew (h : G.Takes n) (rest : List Text) : G.IsNew (G.lot n ++ rest) :=
  ⟨n, h, List.prefix_append _ _⟩

theorem keeps_rooted : G.Keeps G.rooted := fun _ _ => rfl

/-- Whatever else there is, what was there with the root is there. -/
theorem Keeps.extends (h : G.Keeps fs) : fs.Extends G.rooted := by
  intro l e hl
  rw [h l fun hnew => nomatch hnew.free.symm.trans hl]
  exact hl

/-- Files that differ inside a workspace at most keep the rest. -/
theorem Keeps.of_same {files : FileSystem} (h : G.Keeps fs) (htakes : G.Takes n)
    (hsame : ∀ l, ¬G.lot n <+: l → files.entry? l = fs.entry? l) : G.Keeps files := by
  intro l hl
  rw [hsame l fun hbelow => hl ⟨n, htakes, hbelow⟩, h l hl]

section More

variable (hextends : fs.Extends G.rooted)

include hextends

theorem settle_here : fs.settle G.machine.here = G.machine.here :=
  settle_of_extends (settle_of_extends G.sound.settled rooted_grown.extends) hextends

theorem standing_start : fs.standing? G.start = some .directory := by
  refine standing?_of_settle ?_
  unfold start
  rw [settle_startOf, settle_here hextends]

theorem standing_place : fs.standing? G.place = some .directory :=
  hextends.standing? G.found.standing

/-- The root is not made again. -/
theorem ensures : fs.ensureDirectory G.machine.here G.root = (fs, none) :=
  ensureDirectory_of_isDirectory (hextends.isDirectory rooted_isDirectory)

end More

/-! ## Names -/

/-- From the root a way goes on in the same way among all files. -/
theorem exists_walk (G : Ground) : ∃ left, ∀ fs : FileSystem, fs.Extends G.rooted →
    ∀ aim rest, rest ≠ [] → rest ≠ [[]] →
      fs.walk aim linkLimit G.start (G.root.parts ++ rest) = fs.walk aim left G.place rest :=
  G.found.through

/-- Where the path of a workspace leads: a matter of what stands in the
    root under its name. -/
theorem locate_pathText (hextends : fs.Extends G.rooted) (n : Nat) :
    fs.locate G.machine.here .itself (G.pathText n)
      = if byteCount (G.pathText n) > pathLimit then .error .nameTooLong
        else if isLost G.place = true then .error .noEntry
        else if byteCount (G.name n) > nameLimit then .error .nameTooLong
        else
          match fs.entry? (G.lot n) with
          | none => .ok (.free (G.lot n))
          | some e => .ok (.found (G.lot n) e) := by
  obtain ⟨left, hleft⟩ := exists_walk G
  have hname := isComponent_name (G := G) n
  have hslash : [G.name n] ≠ [[]] := fun heq => hname.nonempty (List.cons.inj heq).1
  have hlast := walk_last (standing_place hextends) hname (name_ne_dotDot n) left
  rw [← hleft fs hextends .itself [G.name n] (List.cons_ne_nil _ _) hslash] at hlast
  unfold pathText lot
  rw [locate_inside G.normal hname (standing_start hextends)]
  split
  · rfl
  · exact hlast

/-- What comes of the name of a workspace: either it cannot be had by
    anyone, or it can be had if it is free. -/
theorem name_cases (G : Ground) (n : Nat) :
    (∃ e, e ≠ .occupied ∧ ∀ fs : FileSystem, fs.Extends G.rooted →
        fs.makeDirectory G.machine.here (G.pathText n) = .error (.about e (G.pathText n)))
      ∨ (G.rooted.entry? (G.lot n) = none → G.Takes n)
        ∧ ∀ fs : FileSystem, fs.Extends G.rooted →
          fs.makeDirectory G.machine.here (G.pathText n) =
            match fs.entry? (G.lot n) with
            | none => .ok (fs.put (G.lot n) .directory)
            | some _ => .error (.about .occupied (G.pathText n)) := by
  unfold makeDirectory
  by_cases hlong : byteCount (G.pathText n) > pathLimit
  · refine .inl ⟨.nameTooLong, by decide, fun fs hfs => ?_⟩
    rw [locate_pathText hfs, if_pos hlong]
  by_cases hlost : isLost G.place = true
  · refine .inl ⟨.noEntry, by decide, fun fs hfs => ?_⟩
    rw [locate_pathText hfs, if_neg hlong, if_pos hlost]
  by_cases hfits : byteCount (G.name n) > nameLimit
  · refine .inl ⟨.nameTooLong, by decide, fun fs hfs => ?_⟩
    rw [locate_pathText hfs, if_neg hlong, if_neg hlost, if_pos hfits]
  refine .inr ⟨fun hfree => ?_, fun fs hfs => ?_⟩
  · unfold Takes
    rw [locate_pathText (.refl _), if_neg hlong, if_neg hlost, if_neg hfits, hfree]
  · rw [locate_pathText hfs, if_neg hlong, if_neg hlost, if_neg hfits]
    cases fs.entry? (G.lot n) <;> rfl

/-- Where there can be a workspace its name can be looked up. -/
theorem Takes.opens (htakes : G.Takes n) (hextends : fs.Extends G.rooted) :
    byteCount (G.pathText n) ≤ pathLimit ∧ fs.Opens G.place (G.name n) := by
  have hlocate := htakes
  unfold Takes at hlocate
  rw [locate_pathText (.refl _)] at hlocate
  split at hlocate
  · exact nomatch hlocate
  · rename_i hlong
    split at hlocate
    · exact nomatch hlocate
    · rename_i hlost
      split at hlocate
      · exact nomatch hlocate
      · rename_i hfits
        have hname := isComponent_name (G := G) n
        exact ⟨not_lt.mp hlong, standing_place hextends, hname.nonempty, hname.not_dot,
          name_ne_dotDot n, Bool.not_eq_true _ ▸ hlost, not_lt.mp hfits⟩

/-- A workspace can be made where nothing is. -/
theorem makeDirectory_of_takes (htakes : G.Takes n) (hextends : fs.Extends G.rooted)
    (hfree : fs.entry? (G.lot n) = none) :
    fs.makeDirectory G.machine.here (G.pathText n) = .ok (fs.put (G.lot n) .directory) := by
  rcases name_cases G n with ⟨e, -, hfails⟩ | ⟨-, hmakes⟩
  · have hbare := hfails _ (.refl _)
    unfold makeDirectory at hbare
    rw [htakes] at hbare
    exact nomatch hbare
  · rw [hmakes fs hextends, hfree]

section MakeFresh

variable {here : Location} {parent : Text} {draws : Nat → Nat} {processId k left : Nat}

theorem makeFresh_of_ok {files : FileSystem}
    (h : fs.makeDirectory here (Temporary.inside parent (Workspace.nameOf processId (draws k)))
      = .ok files) :
    Workspace.makeFresh fs here parent processId draws k (left + 1)
      = .ok (files, Temporary.inside parent (Workspace.nameOf processId (draws k)), k) := by
  unfold Workspace.makeFresh
  dsimp only
  rw [h]

theorem makeFresh_of_error {e : Errno} {path : Text} (he : e ≠ .occupied)
    (h : fs.makeDirectory here (Temporary.inside parent (Workspace.nameOf processId (draws k)))
      = .error (.about e path)) :
    Workspace.makeFresh fs here parent processId draws k (left + 1) = .error (.about e path) := by
  unfold Workspace.makeFresh
  dsimp only
  rw [h]
  cases e with
  | occupied => exact absurd rfl he
  | _ => rfl

theorem makeFresh_of_occupied {path : Text}
    (h : fs.makeDirectory here (Temporary.inside parent (Workspace.nameOf processId (draws k)))
      = .error (.about .occupied path)) :
    Workspace.makeFresh fs here parent processId draws k (left + 1)
      = Workspace.makeFresh fs here parent processId draws (k + 1) left := by
  rw [Workspace.makeFresh, h]
  rfl

end MakeFresh

/-- A fresh directory is made under a name that is free, or none can be had,
    or there is no free one among those that are tried. -/
theorem makeFresh_cases (hextends : fs.Extends G.rooted) (k left : Nat) :
    (∃ n, G.Takes n ∧ fs.entry? (G.lot n) = none
      ∧ G.makeFresh fs k left = .ok (fs.put (G.lot n) .directory, G.pathText n, n))
    ∨ (∃ n e, e ≠ .occupied
        ∧ (∀ fs : FileSystem, fs.Extends G.rooted →
          fs.makeDirectory G.machine.here (G.pathText n) = .error (.about e (G.pathText n)))
        ∧ G.makeFresh fs k left = .error (.about e (G.pathText n)))
    ∨ G.makeFresh fs k left = .error .noFreeName := by
  induction left generalizing k with
  | zero => exact .inr (.inr rfl)
  | succ left ih =>
      rcases name_cases G k with ⟨e, hother, hfails⟩ | ⟨htakes, hmakes⟩
      · exact .inr (.inl ⟨k, e, hother, hfails, makeFresh_of_error hother (hfails fs hextends)⟩)
      · have hmade := hmakes fs hextends
        cases hentry : fs.entry? (G.lot k) with
        | none =>
            rw [hentry] at hmade
            exact .inl ⟨k, htakes (hextends.free hentry), hentry, makeFresh_of_ok hmade⟩
        | some e =>
            rw [hentry] at hmade
            have hnext : G.makeFresh fs k (left + 1) = G.makeFresh fs (k + 1) left :=
              makeFresh_of_occupied hmade
            rw [hnext]
            exact ih (k + 1)

/-! ## Files and removal -/

section Lots

variable (htakes : G.Takes n) (hextends : fs.Extends G.rooted)
  (hentry : fs.entry? (G.lot n) = some .directory)

include htakes hextends hentry

/-- What is inside a workspace is looked up there. -/
theorem walk_lot {left : Nat} (aim : Aim) {rest : List Text} (hrest : rest ≠ [])
    (hslash : rest ≠ [[]]) :
    fs.walk aim left G.place (G.name n :: rest) = fs.walk aim left (G.lot n) rest :=
  walk_descend (htakes.opens hextends).2 hentry (fun _ h => nomatch h) hrest
    (fun h => hslash h.2) left

theorem standing_lot : fs.standing? (G.lot n) = some .directory := by
  have hopens := (htakes.opens hextends).2
  have hkept : isLost (G.lot n) = false := isLost_child hopens.kept hopens.nonempty
  unfold standing?
  rw [hkept, if_neg Bool.false_ne_true, hentry]

/-- A name in a workspace can be looked up if it is not too long. -/
theorem opens_file {file : Text} (hfile : IsComponent file) (hup : file ≠ dotDot)
    (hfits : byteCount file ≤ nameLimit) : fs.Opens (G.lot n) file := by
  have hopens := (htakes.opens hextends).2
  exact ⟨standing_lot htakes hextends hentry, hfile.nonempty, hfile.not_dot, hup,
    isLost_child hopens.kept hopens.nonempty, hfits⟩

omit hentry in
/-- The path of a workspace is not too long. -/
theorem byteCount_workspaceAt : byteCount (G.workspaceAt n).path.toText ≤ pathLimit := by
  obtain ⟨hpath, hopens⟩ := htakes.opens hextends
  rcases pathText_cases (G := G) n with hsame | ⟨-, halone⟩
  · rwa [← hsame]
  · rw [halone]
    exact hopens.fits.trans (by decide)

/-- The path of a workspace leads to it. -/
theorem locate_workspaceAt (aim : Aim) :
    fs.locate G.machine.here aim (G.workspaceAt n).path.toText
      = .ok (.found (G.lot n) .directory) := by
  obtain ⟨left, hleft⟩ := exists_walk G
  have hname := isComponent_name (G := G) n
  have hslash : [G.name n] ≠ [[]] := fun heq => hname.nonempty (List.cons.inj heq).1
  rw [locate_toText (isNormal_workspaceAt n) (parts_workspaceAt_ne_nil n),
    if_neg (not_lt.mpr (byteCount_workspaceAt htakes hextends)), start_workspaceAt]
  exact (hleft fs hextends aim [G.name n] (List.cons_ne_nil _ _) hslash).trans
    (walk_eq_ok_iff.mpr (.arrives (htakes.opens hextends).2 hentry fun _ h => nomatch h))

/-- **A workspace that is removed is gone, and nothing else is.** -/
theorem removeDirectory_workspaceAt :
    fs.removeDirectory G.machine.here (G.workspaceAt n).path
      = ((fs.clear (G.lot n)).removeTree (G.lot n), none) := by
  have hcleared : (fs.clear (G.lot n)).Extends G.rooted := by
    intro l e hl
    rw [entry?_clear, if_neg]
    · exact hextends l e hl
    · rintro ⟨⟨rest, rfl⟩, -⟩
      exact nomatch (htakes.isNew rest).free.symm.trans hl
  refine removeDirectory_of_found (isNormal_workspaceAt n) rfl (name_ne_dotDot n)
    (locate_workspaceAt htakes hextends hentry .itself) ?_ hentry
  have hsettle : (fs.clear (child G.place (G.name n))).settle G.machine.here = G.machine.here :=
    settle_here hcleared
  rw [hsettle, start_workspaceAt]
  exact G.found.extends hcleared

end Lots

/-- The path of a file in a workspace leads into the workspace. -/
theorem exists_locate_file (htakes : G.Takes n) : ∃ left, ∀ fs : FileSystem,
    fs.Extends G.rooted → fs.entry? (G.lot n) = some .directory →
      ∀ aim file, IsComponent file →
        fs.locate G.machine.here aim ((G.workspaceAt n).path.child file).toText
          = if byteCount ((G.workspaceAt n).path.child file).toText > pathLimit then
              .error .nameTooLong
            else fs.walk aim left (G.lot n) [file] := by
  obtain ⟨left, hleft⟩ := exists_walk G
  refine ⟨left, fun fs hextends hentry aim file hfile => ?_⟩
  have hslash : [file] ≠ [[]] := fun heq => hfile.nonempty (List.cons.inj heq).1
  have hlonger : [G.name n, file] ≠ [[]] := fun heq => nomatch (List.cons.inj heq).2
  have hnormal : ((G.workspaceAt n).path.child file).IsNormal := by
    rw [Path.child_eq hfile]
    intro piece hpiece
    rcases List.mem_append.mp hpiece with hdirectory | hlast
    · exact isNormal_workspaceAt n piece hdirectory
    · exact List.mem_singleton.mp hlast ▸ hfile
  have hparts : ((G.workspaceAt n).path.child file).parts = G.root.parts ++ [G.name n, file] := by
    rw [Path.child_eq hfile]
    exact List.append_assoc _ _ _
  have hstart : startOf G.machine.here ((G.workspaceAt n).path.child file).toText = G.start := by
    unfold start
    rw [startOf_toText hnormal, startOf_toText G.normal, Path.child_eq hfile]
    rfl
  rw [locate_toText hnormal (by rw [hparts]; simp), hstart, hparts,
    hleft fs hextends aim _ (List.cons_ne_nil _ _) hlonger,
    walk_lot htakes hextends hentry aim (List.cons_ne_nil _ _) hslash]

end Ground

end HermesBundle.Build
