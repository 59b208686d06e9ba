import HermesBundle.Machine
import HermesBundle.Proofs.Actions
import HermesBundle.Proofs.Text.Pieces

/-! # Names — what is handed to the system and comes back

    A text can be the name of something if it has a form in bytes, none of
    which is zero.  That is a matter of its code points one by one
    (`isUsable_eq_all`), so it is a matter of the pieces that a text is
    joined from (`isUsable_join`), and a path is usable exactly if its
    components are (`isUsable_toText`).

    The bytes of a file name are read as a text again, whatever they are.
    The machine that reads them either says something for a byte or owes
    it for later (`step_reads_or_owes`), so some bytes are never read as
    no text (`decodeName_ne_nil`), and a name that is settled keeps being
    a name (`settledName_ne_nil`). -/

namespace HermesBundle

/-! ## Settled names -/

namespace Utf8

/-- What one piece of a file name is read as. -/
def pieceName : Piece → Text
  | .point c => [c]
  | .bad taken => taken.map escapedByte

/-- Whether a machine holds bytes that have not been read as anything yet. -/
def State.owes : State → Prop
  | .start => False
  | .owing _ _ _ _ taken => taken ≠ []

/-- The first byte of a character is read as something, or is kept. -/
theorem first_reads_or_owes (b : UInt8) :
    (first b).1.flatMap pieceName ≠ [] ∨ (first b).2.owes := by
  unfold first
  simp only [apply_ite Prod.fst, apply_ite Prod.snd]
  repeat' split
  all_goals simp [pieceName, State.owes]

theorem step_reads_or_owes (state : State) (b : UInt8) :
    (step state b).1.flatMap pieceName ≠ [] ∨ (step state b).2.owes := by
  cases state with
  | start => exact first_reads_or_owes b
  | owing count low high value taken =>
      simp only [step]
      split
      · split
        · exact .inl (List.cons_ne_nil _ _)
        · exact .inr (List.append_ne_nil_of_right_ne_nil _ (List.cons_ne_nil _ _))
      · rcases first_reads_or_owes b with hread | howes
        · exact .inl (List.append_ne_nil_of_right_ne_nil _ hread)
        · exact .inr howes

/-- Bytes are read as something, and so is what a machine holds. -/
theorem flatMap_piecesFrom_ne_nil {state : State} {bytes : Bytes} (h : state.owes ∨ bytes ≠ []) :
    (piecesFrom state bytes).flatMap pieceName ≠ [] := by
  induction bytes generalizing state with
  | nil =>
      cases state with
      | start => simp [State.owes] at h
      | owing count low high value taken =>
          simpa [piecesFrom, pieceName, State.owes] using h
  | cons b rest ih =>
      have hstep : piecesFrom state (b :: rest)
          = (step state b).1 ++ piecesFrom (step state b).2 rest := by
        cases state <;> rfl
      rw [hstep, List.flatMap_append]
      rcases step_reads_or_owes state b with hread | howes
      · exact List.append_ne_nil_of_left_ne_nil hread _
      · exact List.append_ne_nil_of_right_ne_nil _ (ih (.inl howes))

theorem decodeName_ne_nil {bytes : Bytes} (h : bytes ≠ []) : decodeName bytes ≠ [] := by
  have hname : decodeName bytes = (pieces bytes).flatMap pieceName := by
    unfold decodeName
    congr 1
  rw [hname]
  exact flatMap_piecesFrom_ne_nil (.inr h)

theorem encodePoint_ne_nil {c : CodePoint} {bytes : Bytes} (h : encodePoint c = some bytes) :
    bytes ≠ [] := by
  unfold encodePoint at h
  repeat' split at h
  all_goals first
    | exact Option.some.inj h ▸ List.cons_ne_nil _ _
    | exact nomatch h

theorem encodeNamePoint_ne_nil {c : CodePoint} {bytes : Bytes}
    (h : encodeNamePoint c = some bytes) : bytes ≠ [] := by
  unfold encodeNamePoint at h
  split at h
  · exact Option.some.inj h ▸ List.cons_ne_nil _ _
  · exact encodePoint_ne_nil h

/-- A name that is not empty is settled as one that is not. -/
theorem settledName_ne_nil {name : Text} (h : name ≠ []) : settledName name ≠ [] := by
  unfold settledName
  split
  · cases hencoded : encodeName? name with
    | none => exact h
    | some bytes =>
        refine decodeName_ne_nil ?_
        obtain ⟨c, rest, rfl⟩ := List.exists_cons_of_ne_nil h
        unfold encodeName? at hencoded
        rw [List.mapM_cons] at hencoded
        cases hfirst : encodeNamePoint c with
        | none => simp [hfirst] at hencoded
        | some first =>
            cases hrest : rest.mapM encodeNamePoint with
            | none => simp [hfirst, hrest] at hencoded
            | some more =>
                have hbytes : first ++ more.flatten = bytes := by
                  simpa [hfirst, hrest] using hencoded
                exact hbytes ▸ List.append_ne_nil_of_left_ne_nil (encodeNamePoint_ne_nil hfirst) _
  · exact h

end Utf8

/-! ## Usable names -/

namespace FileSystem

/-- Whether a code point can stand in a name. -/
def isUsablePoint (c : CodePoint) : Bool := c.val != 0 && (Utf8.encodeNamePoint c).isSome

/-- A computation on a list that may give nothing gives something if it
    does for each element. -/
theorem isSome_mapM {α β : Type} (f : α → Option β) (xs : List α) :
    (xs.mapM f).isSome = xs.all fun x => (f x).isSome := by
  induction xs with
  | nil => rfl
  | cons x rest ih =>
      rw [List.mapM_cons, List.all_cons, ← ih]
      cases f x with
      | none => rfl
      | some y =>
          cases rest.mapM f with
          | none => rfl
          | some ys => rfl

theorem isUsable_eq_all (t : Text) : isUsable t = t.all isUsablePoint := by
  have hencode : (Utf8.encodeName? t).isSome = (t.mapM Utf8.encodeNamePoint).isSome := by
    unfold Utf8.encodeName?
    cases t.mapM Utf8.encodeNamePoint <;> rfl
  unfold isUsable
  rw [hencode, isSome_mapM, Bool.eq_iff_iff]
  simp only [Bool.and_eq_true_iff, List.all_eq_true, isUsablePoint]
  constructor
  · exact fun h c hc => ⟨h.1 c hc, h.2 c hc⟩
  · exact fun h => ⟨fun c hc => (h c hc).1, fun c hc => (h c hc).2⟩

@[simp] theorem isUsable_append (s t : Text) : isUsable (s ++ t) = (isUsable s && isUsable t) := by
  rw [isUsable_eq_all, List.all_append, ← isUsable_eq_all, ← isUsable_eq_all]

@[simp] theorem isUsable_slash : isUsable [slash] = true := rfl

/-- A text joined from pieces is usable if the pieces are. -/
theorem isUsable_join {separator : Text} (hseparator : isUsable separator = true) (ts : List Text) :
    isUsable (Text.join separator ts) = ts.all isUsable := by
  induction ts with
  | nil => rfl
  | cons t rest ih =>
      cases rest with
      | nil => exact (Bool.and_true _).symm
      | cons u more =>
          show isUsable (t ++ separator ++ Text.join separator (u :: more)) = _
          rw [isUsable_append, isUsable_append, hseparator, Bool.and_true, ih]
          rfl

/-- The pieces of a usable text are usable. -/
theorem isUsable_of_mem_splitOn {t piece : Text} (ht : isUsable t = true)
    (hpiece : piece ∈ t.splitOn slash) : isUsable piece = true := by
  rw [← Text.join_splitOn slash t, isUsable_join isUsable_slash, List.all_eq_true] at ht
  exact ht piece hpiece

/-- A path is usable if its components are. -/
theorem isUsable_toText (p : Path) : isUsable p.toText = p.parts.all isUsable := by
  obtain ⟨anchor, parts⟩ := p
  have hanchor : isUsable (Path.anchorText anchor) = true := by cases anchor <;> rfl
  have hjoined : isUsable (Path.anchorText anchor ++ Text.join [slash] parts)
      = parts.all isUsable := by
    rw [isUsable_append, hanchor, Bool.true_and, isUsable_join isUsable_slash]
  cases anchor with
  | here =>
      cases parts with
      | nil => rfl
      | cons name rest => exact hjoined
  | root => exact hjoined
  | doubleRoot => exact hjoined

/-- The path of a usable text is usable. -/
theorem isUsable_ofText {t : Text} (h : isUsable t = true) :
    isUsable (Path.ofText t).toText = true := by
  rw [isUsable_toText, List.all_eq_true]
  exact fun name hname => isUsable_of_mem_splitOn h (List.mem_filter.mp hname).1

/-- A usable path continued by a usable text is usable. -/
theorem isUsable_child {p : Path} {t : Text} (hp : isUsable p.toText = true)
    (ht : isUsable t = true) : isUsable (p.child t).toText = true := by
  have hcontinuation := isUsable_ofText ht
  unfold Path.child Path.join
  split
  · exact hcontinuation
  · rw [isUsable_toText] at hp hcontinuation ⊢
    rw [List.all_append, hp, hcontinuation]
    rfl

end FileSystem

namespace Action

open FileSystem

/-- Checking a name changes nothing, and succeeds if the name is usable. -/
theorem checkName_gives_iff {path : Text} {m after : Machine} :
    (checkName path).Gives m () after ↔ isUsable path = true ∧ m = after := by
  unfold checkName isUsable Gives
  rw [List.all_eq_not_any_not]
  cases hencoded : Utf8.encodeName? path with
  | none => simp
  | some bytes =>
      cases hzero : path.any (fun c => c.val == 0) with
      | true => simp [hzero, bne]
      | false => simp [hzero, bne]

/-- Checking a name that is not usable fails. -/
theorem exists_checkName_failsWith {path : Text} (h : isUsable path = false) :
    ∃ f, ∀ m, (checkName path).FailsWith m f m := by
  unfold checkName FailsWith
  unfold isUsable at h
  rw [List.all_eq_not_any_not] at h
  cases hencoded : Utf8.encodeName? path with
  | none => exact ⟨.unencodable, fun m => by simp⟩
  | some bytes =>
      cases hzero : path.any (fun c => c.val == 0) with
      | true => exact ⟨.invalidValue "embedded null byte", fun m => by simp⟩
      | false => simp [hencoded, hzero, bne] at h

/-- The check of a name fails in two ways. -/
theorem checkName_failsWith_cases {name : Text} {f : Failure} {m after : Machine}
    (h : (checkName name).FailsWith m f after) :
    (f = .unencodable ∨ f = .invalidValue "embedded null byte") ∧ after = m := by
  unfold checkName FailsWith at h
  split at h
  · obtain ⟨hf, hafter⟩ := Prod.mk.inj h
    exact ⟨.inl (Except.error.inj hf).symm, hafter.symm⟩
  · split at h
    · obtain ⟨hf, hafter⟩ := Prod.mk.inj h
      exact ⟨.inr (Except.error.inj hf).symm, hafter.symm⟩
    · exact nomatch h

/-- What reading a file comes to. -/
theorem perform_readBytes {path : Text} (husable : isUsable path = true) (m : Machine) :
    (readBytes path).perform m = ((m.files.readFile m.here path).mapError .system, m) := by
  refine (perform_bind_of_gives (checkName_gives_iff.mpr ⟨husable, rfl⟩) _).trans ?_
  exact (perform_bind_of_gives (perform_get m) _).trans (perform_ofExcept ..)

/-- What reading the start of a file comes to. -/
theorem perform_readStart {path : Text} (husable : isUsable path = true) (count : Nat)
    (m : Machine) :
    (readStart path count).perform m
      = ((m.files.readStart m.here path count).mapError .system, m) := by
  refine (perform_bind_of_gives (checkName_gives_iff.mpr ⟨husable, rfl⟩) _).trans ?_
  exact (perform_bind_of_gives (perform_get m) _).trans (perform_ofExcept ..)

/-- What writing a file comes to. -/
theorem perform_writeBytes {path : Text} (husable : isUsable path = true) (content : Bytes)
    (m : Machine) :
    (writeBytes path content).perform m =
      match m.files.writeFile m.here path content with
      | .ok files => (.ok (), { m with files := files })
      | .error e => (.error (.system e), m) := by
  unfold writeBytes
  rw [perform_bind_of_gives (checkName_gives_iff.mpr ⟨husable, rfl⟩)]
  unfold onFiles
  rw [perform_bind, perform_get]
  dsimp only
  cases m.files.writeFile m.here path content <;> rfl

/-- Writing a file changes the files, or fails and changes nothing. -/
theorem writeBytes_cases (path : Text) (content : Bytes) (m : Machine) :
    (∃ files, m.files.writeFile m.here path content = .ok files
        ∧ (writeBytes path content).Gives m () { m with files := files })
      ∨ ∃ f, (writeBytes path content).FailsWith m f m := by
  cases husable : isUsable path with
  | false =>
      obtain ⟨f, hf⟩ := exists_checkName_failsWith husable
      exact .inr ⟨f, perform_bind_of_failsWith (hf m) _⟩
  | true =>
      have hperform := perform_writeBytes husable content m
      cases hwrite : m.files.writeFile m.here path content with
      | ok files =>
          rw [hwrite] at hperform
          exact .inl ⟨files, rfl, hperform⟩
      | error e =>
          rw [hwrite] at hperform
          exact .inr ⟨_, hperform⟩

end Action

end HermesBundle
