import HermesBundle.Build.Workspace
import HermesBundle.Proofs.Storage.Names
import HermesBundle.Proofs.Storage.Paths

/-! # Workspaces — what acquiring and closing one comes to

    A workspace is a fresh directory below a parent (`acquire_gives`), and
    its path can be handed to the system, with whatever file below it.  So
    nothing but the file system decides what becomes of its removal:

    * a workspace that is removed, or gone already, leaves the outcome of
      its scope as it was;
    * a workspace that cannot be removed is a failure if the body
      succeeded, and a warning in the log if it did not (`close_iff`). -/

namespace HermesBundle.Build.Workspace

open HermesBundle.Action FileSystem

/-! ## Names of workspaces -/

theorem isUsable_suffixDigit (n : Nat) : isUsable [suffixDigit (n % 37)] = true := by
  have hdigits : ∀ k < 37, isUsable [suffixDigit k] = true := by decide
  exact hdigits _ (Nat.mod_lt n (by decide))

theorem isUsable_suffix (width n : Nat) : isUsable (suffix width n) = true := by
  induction width generalizing n with
  | zero => rfl
  | succ width ih => rw [suffix, isUsable_append, ih, isUsable_suffixDigit, Bool.and_true]

/-- Whether the name of a workspace is usable does not depend on its
    number. -/
theorem isUsable_nameOf (processId n : Nat) :
    isUsable (nameOf processId n) = isUsable (namePrelude processId) := by
  rw [nameOf, isUsable_append, isUsable_suffix, Bool.and_true]

theorem isUsable_inside (parent name : Text) :
    isUsable (Temporary.inside parent name) = (isUsable parent && isUsable name) := by
  unfold Temporary.inside
  split
  · exact isUsable_append parent name
  · rw [isUsable_append, isUsable_append, isUsable_slash, Bool.and_true]

/-- Whether a code point is a digit, a letter, a low line or a hyphen.  (A
    few other marks pass, too.) -/
def isNamePoint (c : CodePoint) : Bool := (0x30 ≤ c.val && c.val ≤ 0x7A) || c.val == 0x2D

theorem all_isNamePoint_suffix (width n : Nat) : (suffix width n).all isNamePoint = true := by
  have hdigits : ∀ k < 37, isNamePoint (suffixDigit k) = true := by decide
  induction width generalizing n with
  | zero => rfl
  | succ width ih =>
      rw [suffix, List.all_append, ih, Bool.true_and, List.all_cons,
        hdigits _ (Nat.mod_lt n (by decide))]
      rfl

theorem all_isNamePoint_ofNat (n : Nat) : (Text.ofNat n).all isNamePoint = true := by
  rw [List.all_eq_true]
  intro c hc
  obtain ⟨digit, hdigit, rfl⟩ := List.mem_map.mp hc
  have h := Nat.isDigit_of_mem_toDigits (by decide) (by decide) hdigit
  rw [Char.isDigit, Bool.and_eq_true, decide_eq_true_eq, decide_eq_true_eq] at h
  unfold isNamePoint CodePoint.ofChar
  have hlow : 0x30 ≤ digit.toNat := h.1
  have hhigh : digit.toNat ≤ 0x39 := h.2
  simp only [Bool.or_eq_true, Bool.and_eq_true, decide_eq_true_eq]
  exact .inl ⟨hlow, by omega⟩

/-- Names of workspaces are made of such code points. -/
theorem all_isNamePoint_nameOf (processId n : Nat) :
    (nameOf processId n).all isNamePoint = true := by
  unfold nameOf namePrelude
  rw [List.all_append, List.all_append, List.all_append, all_isNamePoint_suffix,
    all_isNamePoint_ofNat]
  rfl

/-- They can be handed to the system. -/
theorem isUsable_nameOf_always (processId n : Nat) : isUsable (nameOf processId n) = true := by
  rw [isUsable_eq_all, List.all_eq_true]
  intro c hc
  have h := List.all_eq_true.mp (all_isNamePoint_nameOf processId n) c hc
  unfold isNamePoint at h
  simp only [Bool.or_eq_true, Bool.and_eq_true, decide_eq_true_eq, beq_iff_eq] at h
  have hnonzero : c.val ≠ 0 := by omega
  have hsmall : c.val < 0x80 := by omega
  have hplain : Utf8.isEscapedByte c = false := by
    unfold Utf8.isEscapedByte
    simp only [Bool.and_eq_false_iff, decide_eq_false_iff_not]
    omega
  unfold isUsablePoint Utf8.encodeNamePoint Utf8.encodePoint
  rw [hplain, if_neg Bool.false_ne_true, if_pos hsmall]
  simpa using hnonzero

/-- They are components of paths. -/
theorem isComponent_nameOf (processId n : Nat) : IsComponent (nameOf processId n) := by
  have hhead : (nameOf processId n).head? = some 'h' := rfl
  refine ⟨fun h => ?_, fun h => ?_, fun h => ?_⟩
  · rw [h] at hhead
    exact nomatch hhead
  · rw [h] at hhead
    exact absurd hhead (by decide)
  · exact absurd (List.all_eq_true.mp (all_isNamePoint_nameOf processId n) slash h) (by decide)

theorem nameOf_ne_dotDot (processId n : Nat) : nameOf processId n ≠ dotDot := by
  intro h
  have hhead : (nameOf processId n).head? = some 'h' := rfl
  rw [h] at hhead
  exact absurd hhead (by decide)

/-- They stay as they are. -/
theorem settledName_nameOf (processId n : Nat) :
    Utf8.settledName (nameOf processId n) = nameOf processId n := by
  have hplain : (nameOf processId n).any Utf8.isEscapedByte = false := by
    rw [List.any_eq_false]
    intro c hc
    have h := List.all_eq_true.mp (all_isNamePoint_nameOf processId n) c hc
    unfold isNamePoint at h
    unfold Utf8.isEscapedByte
    simp only [Bool.or_eq_true, Bool.and_eq_true, decide_eq_true_eq, beq_iff_eq] at h ⊢
    omega
  unfold Utf8.settledName
  rw [hplain]
  rfl

/-! ## Acquiring -/

/-- The fresh directory is one that could be made. -/
theorem makeFresh_eq_ok {fs files : FileSystem} {here : Location} {parent path : Text}
    {draws : Nat → Nat} {processId n k left : Nat}
    (h : makeFresh fs here parent processId draws n left = .ok (files, path, k)) :
    path = Temporary.inside parent (nameOf processId (draws k))
      ∧ fs.makeDirectory here path = .ok files := by
  induction left generalizing n with
  | zero => exact nomatch h
  | succ left ih =>
      dsimp only [makeFresh] at h
      split at h
      · rename_i made hmade
        obtain ⟨rfl, rfl, rfl⟩ : made = files ∧ _ = path ∧ n = k := by simpa using h
        exact ⟨rfl, hmade⟩
      · exact ih h
      · exact nomatch h

/-- What making a fresh directory consists of. -/
theorem create_gives {parent : Option Path} {m after : Machine} {path : Text}
    (h : (create parent).Gives m path after) :
    ∃ directory middle n files, (directoryFor parent).Gives m directory middle
      ∧ path = Temporary.inside directory (nameOf middle.processId (middle.draws n))
      ∧ isUsable path = true ∧ middle.files.makeDirectory middle.here path = .ok files
      ∧ after = { middle with files := files, tickets := n + 1 } := by
  obtain ⟨directory, middle, hdirectory, hrest⟩ := gives_bind.mp h
  obtain ⟨_, _, hget, hchecked⟩ := gives_bind.mp hrest
  obtain ⟨rfl, rfl⟩ := gives_get.mp hget
  obtain ⟨_, checked, hname, hmade⟩ := gives_bind.mp hchecked
  obtain ⟨husable, rfl⟩ := checkName_gives_iff.mp hname
  split at hmade
  · rename_i files fresh n hfresh
    obtain ⟨_, written, hset, hpure⟩ := gives_bind.mp hmade
    obtain ⟨rfl, rfl⟩ := gives_pure.mp hpure
    obtain rfl := gives_set.mp hset
    obtain ⟨rfl, hnew⟩ := makeFresh_eq_ok hfresh
    refine ⟨directory, _, n, files, hdirectory, rfl, ?_, hnew, rfl⟩
    rw [isUsable_inside, isUsable_nameOf] at husable ⊢
    exact husable
  · exact nomatch hmade

/-- What acquiring a workspace consists of: below the parent, which is
    there by then, a fresh directory is made. -/
theorem acquire_gives {root : Option Path} {m after : Machine} {ws : Workspace}
    (h : (acquire root).Gives m ws after) :
    ∃ parent asked directory middle n files path, (parentOf root).Gives m parent asked
      ∧ (directoryFor parent).Gives asked directory middle
      ∧ path = Temporary.inside directory (nameOf middle.processId (middle.draws n))
      ∧ isUsable path = true ∧ middle.files.makeDirectory middle.here path = .ok files
      ∧ ws.path = Path.ofText path
      ∧ after = Machine.noting { middle with files := files, tickets := n + 1 } .debug
        workspaceOrigin (Text.ofString "acquired workspace " ++ ws.path.toText) := by
  obtain ⟨parent, asked, hparent, h⟩ := gives_bind.mp h
  obtain ⟨outcome, made, hmade, h⟩ := gives_bind.mp h
  split at h
  · rename_i path
    obtain ⟨directory, middle, n, files, hdirectory, hpath, husable, hnew, rfl⟩ :=
      create_gives (gives_of_attempt hmade)
    obtain ⟨_, _, hrecord, h⟩ := gives_bind.mp h
    obtain ⟨rfl, rfl⟩ := gives_pure.mp h
    obtain rfl := (Prod.mk.inj hrecord).2
    exact ⟨parent, asked, directory, middle, n, files, path, hparent, hdirectory, hpath, husable,
      hnew, rfl, rfl⟩
  · exact nomatch h
  · exact nomatch h

/-- The path of an acquired workspace can be handed to the system. -/
theorem isUsable_of_acquire {root : Option Path} {m after : Machine} {ws : Workspace}
    (h : (acquire root).Gives m ws after) : isUsable ws.path.toText = true := by
  obtain ⟨_, _, _, _, _, _, _, _, _, _, husable, _, hpath, _⟩ := acquire_gives h
  rw [hpath]
  exact isUsable_ofText husable

/-- The last component of that path is the name of the fresh directory. -/
theorem path_of_acquire {root : Option Path} {m after : Machine} {ws : Workspace}
    (h : (acquire root).Gives m ws after) :
    ws.path.IsNormal ∧ ∃ names n, ws.path.parts = names ++ [nameOf after.processId n] := by
  obtain ⟨_, _, directory, middle, n, _, _, _, _, rfl, _, _, hpath, rfl⟩ := acquire_gives h
  rw [hpath]
  exact ⟨Path.isNormal_ofText _, components directory, middle.draws n,
    Path.components_inside directory (isComponent_nameOf middle.processId (middle.draws n))⟩

/-- So can the paths of the files in it. -/
theorem isUsable_childNamed {ws : Workspace} {name : String} (h : isUsable ws.path.toText = true)
    (hname : isUsable (Text.ofString name) = true) :
    isUsable (ws.path.childNamed name).toText = true := isUsable_child h hname

/-! ## Removing -/

/-- Why a workspace cannot be removed from a machine, if it cannot.  That
    it is gone already is no reason. -/
def removalFailure (ws : Workspace) (m : Machine) : Option SystemError :=
  (m.files.removeDirectory m.here ws.path).2.filter fun e => !e.isNoEntry

/-- The machine after a workspace has been removed, as far as that was
    possible. -/
def removed (ws : Workspace) (m : Machine) : Machine :=
  let files := (m.files.removeDirectory m.here ws.path).1
  { m with files := files, here := files.settle m.here }

/-- What is logged of a workspace that has been removed. -/
def releasedMessage (ws : Workspace) : Text :=
  Text.ofString "released workspace " ++ ws.path.toText

/-- What is logged of a workspace that could not be removed while another
    failure propagates. -/
def remainsMessage (ws : Workspace) (e : SystemError) : Text :=
  Text.ofString "failed to remove workspace " ++ ws.path.toText ++ Text.ofString ": " ++ e.message

variable {ws : Workspace} {m : Machine}

/-- Releasing a workspace that can be removed succeeds. -/
theorem release_of_removable (husable : isUsable ws.path.toText = true)
    (h : removalFailure ws m = none) (strict : Bool) :
    (release ws strict).Gives m ()
      ((removed ws m).noting .debug workspaceOrigin (releasedMessage ws)) := by
  unfold release
  rw [Gives, perform_bind_of_gives (checkName_gives_iff.mpr ⟨husable, rfl⟩)]
  unfold removalFailure at h
  simp only [perform_bind, perform_get, perform_settle, h]
  rfl

/-- Releasing a workspace that cannot be removed fails only if that
    matters. -/
theorem release_of_failure (husable : isUsable ws.path.toText = true) {e : SystemError}
    (h : removalFailure ws m = some e) :
    (release ws true).FailsWith m (.build (.workspace (.notRemoved ws.path.toText e)))
        (removed ws m)
      ∧ (release ws false).Gives m ()
        ((removed ws m).noting .warning workspaceOrigin (remainsMessage ws e)) := by
  unfold release FailsWith Gives
  unfold removalFailure at h
  rw [perform_bind_of_gives (checkName_gives_iff.mpr ⟨husable, rfl⟩),
    perform_bind_of_gives (checkName_gives_iff.mpr ⟨husable, rfl⟩)]
  simp only [perform_bind, perform_get, perform_settle, h]
  exact ⟨rfl, rfl⟩

/-- How the scope of a workspace is left: the outcome of its body, that of
    the scope, and the machine afterwards. -/
inductive Closed {α : Type} (ws : Workspace) (m : Machine) :
    Except Failure α → Except Failure α → Machine → Prop where
  /-- The workspace is removed, or gone already. -/
  | clean (outcome : Except Failure α) :
      removalFailure ws m = none →
      Closed ws m outcome outcome
        ((removed ws m).noting .debug workspaceOrigin (releasedMessage ws))
  /-- It cannot be removed, and nothing else has failed. -/
  | refused (value : α) (e : SystemError) :
      removalFailure ws m = some e →
      Closed ws m (.ok value) (.error (.build (.workspace (.notRemoved ws.path.toText e))))
        (removed ws m)
  /-- It cannot be removed, but the body has failed before. -/
  | outweighed (f : Failure) (e : SystemError) :
      removalFailure ws m = some e →
      Closed ws m (.error f) (.error f)
        ((removed ws m).noting .warning workspaceOrigin (remainsMessage ws e))

/-- Every scope is left in some way. -/
theorem exists_closed {α : Type} (ws : Workspace) (m : Machine) (outcome : Except Failure α) :
    ∃ final after, Closed ws m outcome final after := by
  cases hfailure : removalFailure ws m with
  | none => exact ⟨_, _, .clean outcome hfailure⟩
  | some e =>
      cases outcome with
      | ok value => exact ⟨_, _, .refused value e hfailure⟩
      | error f => exact ⟨_, _, .outweighed f e hfailure⟩

/-- A scope is left as `Closed` says, and in no other way. -/
theorem close_iff {α : Type} (husable : isUsable ws.path.toText = true)
    {outcome final : Except Failure α} {after : Machine} :
    (close ws outcome).perform m = (final, after) ↔ Closed ws m outcome final after := by
  refine perform_iff (exists_closed ws m outcome) fun final after hclosed => ?_
  cases hclosed with
  | clean _ hfailure =>
      have hrelease := release_of_removable husable hfailure
      cases outcome with
      | ok value => exact perform_bind_of_gives (hrelease true) _
      | error f => exact perform_bind_of_gives (hrelease false) _
  | refused value e hfailure =>
      exact perform_bind_of_failsWith (release_of_failure husable hfailure).1 _
  | outweighed f e hfailure =>
      exact perform_bind_of_gives (release_of_failure husable hfailure).2 _

end HermesBundle.Build.Workspace
