import HermesBundle.Json.Reader
import HermesBundle.Json.Writer
import HermesBundle.Text.Utf8
import Mathlib

/-! # Encoding documents — what was read can be written and stored

    A text has bytes unless it holds a lone surrogate (`encode?_isSome`).
    Documents escape what is not plain ASCII, so whatever a value holds,
    the document that says so has bytes (`encode?_dump`).

    A value has a document unless it exceeds a limit on digits or on
    nesting.  Reading keeps to the same limits, so what was read can be
    written (`excess?_of_read`). -/

namespace HermesBundle

/-- Whether a text holds no surrogates. -/
def Text.IsWhole (t : Text) : Prop := ∀ c ∈ t, c.isSurrogate = false

namespace Text

variable {s t : Text}

@[simp] theorem isWhole_nil : IsWhole [] := fun _ h => nomatch h

@[simp] theorem isWhole_cons {c : CodePoint} :
    IsWhole (c :: t) ↔ c.isSurrogate = false ∧ IsWhole t := List.forall_mem_cons

@[simp] theorem isWhole_append : IsWhole (s ++ t) ↔ IsWhole s ∧ IsWhole t :=
  List.forall_mem_append

theorem IsWhole.sublist (h : IsWhole t) (hst : s.Sublist t) : IsWhole s := fun c hc =>
  h c (hst.subset hc)

/-- A character is no surrogate. -/
@[simp] theorem isSurrogate_ofChar (c : Char) : (CodePoint.ofChar c).isSurrogate = false := by
  have hvalid := c.valid
  simp only [UInt32.isValidChar, Nat.isValidChar] at hvalid
  have hval : (CodePoint.ofChar c).val = c.val.toNat := rfl
  unfold CodePoint.isSurrogate
  rw [hval, Bool.and_eq_false_iff, decide_eq_false_iff_not, decide_eq_false_iff_not]
  omega

theorem isWhole_map_ofChar (chars : List Char) : IsWhole (chars.map CodePoint.ofChar) := by
  intro c hc
  obtain ⟨char, -, rfl⟩ := List.mem_map.mp hc
  exact isSurrogate_ofChar char

@[simp] theorem isWhole_ofString (s : String) : IsWhole (ofString s) := isWhole_map_ofChar _

@[simp] theorem isWhole_ofNat (n : Nat) : IsWhole (ofNat n) := isWhole_map_ofChar _

@[simp] theorem isWhole_ofInt (i : Int) : IsWhole (ofInt i) := by
  cases i with
  | ofNat n => exact isWhole_ofNat n
  | negSucc n => exact isWhole_cons.mpr ⟨isSurrogate_ofChar _, isWhole_ofNat _⟩

@[simp] theorem isWhole_replicate (n : Nat) (c : Char) :
    IsWhole (List.replicate n (CodePoint.ofChar c)) := by
  intro point hpoint
  rw [List.eq_of_mem_replicate hpoint]
  exact isSurrogate_ofChar c

/-- A number below the surrogates is none. -/
theorem isSurrogate_ofNat {n : Nat} (h : n < 0xD800) : (CodePoint.ofNat n).isSurrogate = false := by
  unfold CodePoint.ofNat CodePoint.isSurrogate
  rw [dif_pos (by omega), Bool.and_eq_false_iff, decide_eq_false_iff_not]
  exact .inl (by dsimp only; omega)

@[simp] theorem isWhole_hex (width n : Nat) : IsWhole (hex width n) := by
  induction width generalizing n with
  | zero => exact isWhole_nil
  | succ w ih =>
      refine isWhole_append.mpr ⟨ih _, isWhole_cons.mpr ⟨?_, isWhole_nil⟩⟩
      unfold CodePoint.ofHexValue
      split
      · exact isSurrogate_ofNat (by omega)
      · exact isSurrogate_ofNat (by omega)

end Text

open Text

/-- A point that is no surrogate has bytes. -/
theorem Utf8.encodePoint_isSome {c : CodePoint} (h : c.isSurrogate = false) :
    (encodePoint c).isSome := by
  unfold encodePoint
  rw [h]
  split
  · rfl
  · split
    · rfl
    · simp only [Bool.false_eq_true, if_false]
      split
      · rfl
      · rfl

/-- **A text without surrogates has bytes.** -/
theorem Utf8.encode?_isSome {t : Text} (h : IsWhole t) : (encode? t).isSome := by
  have hpoints : (t.mapM encodePoint).isSome := by
    induction t with
    | nil => rfl
    | cons c rest ih =>
        obtain ⟨hc, hrest⟩ := isWhole_cons.mp h
        obtain ⟨bytes, hbytes⟩ := Option.isSome_iff_exists.mp (encodePoint_isSome hc)
        obtain ⟨more, hmore⟩ := Option.isSome_iff_exists.mp (ih hrest)
        rw [List.mapM_cons, hbytes, hmore]
        rfl
  obtain ⟨parts, hparts⟩ := Option.isSome_iff_exists.mp hpoints
  unfold encode?
  rw [hparts]
  rfl

/-! ## Documents -/

theorem isWhole_renderDouble (layout : DoubleLayout) (d : Double) : IsWhole (layout.render d) := by
  have hexponent : ∀ e, IsWhole (layout.exponentText e) := fun e => by
    simp [DoubleLayout.exponentText, Text.zeros]
  have hdigits : ∀ n k, IsWhole ((Text.ofNat n).take k) ∧ IsWhole ((Text.ofNat n).drop k) :=
    fun n k => ⟨(isWhole_ofNat n).sublist (List.take_sublist _ _),
      (isWhole_ofNat n).sublist (List.drop_sublist _ _)⟩
  cases d with
  | nan => exact isWhole_ofString _
  | infinite negative => simp [DoubleLayout.render]
  | finite negative mantissa scale =>
      unfold DoubleLayout.render
      dsimp only
      have hnumber := isWhole_ofNat (Double.shortest mantissa scale).1
      split
      · simp
      · split
        · split
          · simp [Text.zeros]
          · split
            · simp [hdigits]
            · simp [Text.zeros]
        · split
          · simp
          · rename_i d heq
            rw [heq] at hnumber
            simpa [hexponent] using hnumber
          · rename_i d rest _ heq
            rw [heq] at hnumber
            simpa [hexponent] using hnumber

namespace Json

theorem isWhole_unitEscape (n : Nat) : IsWhole (unitEscape n) := by simp [unitEscape]

theorem isWhole_writePoint (c : CodePoint) : IsWhole (writePoint c) := by
  have hplain : (0x20 ≤ c.val && c.val ≤ 0x7E) = true → c.isSurrogate = false := by
    intro h
    simp only [Bool.and_eq_true, decide_eq_true_eq] at h
    unfold CodePoint.isSurrogate
    rw [Bool.and_eq_false_iff, decide_eq_false_iff_not]
    exact .inl (by omega)
  unfold writePoint
  split_ifs with _ _ _ _ _ _ _ hc
  iterate 7 exact isWhole_ofString _
  · exact isWhole_cons.mpr ⟨hplain hc, isWhole_nil⟩
  · exact isWhole_unitEscape _
  · exact isWhole_append.mpr ⟨isWhole_unitEscape _, isWhole_unitEscape _⟩

theorem isWhole_writeString (t : Text) : IsWhole (writeString t) := by
  have hquote : (CodePoint.ofNat 0x22).isSurrogate = false := by decide
  have hpoints : IsWhole (t.flatMap writePoint) := by
    intro c hc
    obtain ⟨point, -, hc⟩ := List.mem_flatMap.mp hc
    exact isWhole_writePoint point c hc
  simp [writeString, hquote, hpoints]

theorem isWhole_break (layout : Layout) (depth : Nat) : IsWhole (layout.break depth) := by
  unfold Layout.break
  split
  · exact isWhole_nil
  · simp

theorem isSurrogate_braces :
    (CodePoint.ofNat 0x7B).isSurrogate = false ∧ (CodePoint.ofNat 0x7D).isSurrogate = false :=
  ⟨by decide, by decide⟩

mutual

theorem isWhole_write (layout : Layout) (depth : Nat) :
    ∀ j : Json, IsWhole (write layout depth j)
  | .null => isWhole_ofString _
  | .bool true => isWhole_ofString _
  | .bool false => isWhole_ofString _
  | .int i => isWhole_ofInt i
  | .float d => isWhole_renderDouble _ d
  | .str t => isWhole_writeString t
  | .arr [] => isWhole_ofString _
  | .arr (item :: rest) => by
      simp [write, isWhole_break, isWhole_write layout (depth + 1) item,
        isWhole_writeItems layout (depth + 1) rest]
  | .obj [] => by simp [write, isSurrogate_braces]
  | .obj ((name, value) :: rest) => by
      simp [write, isSurrogate_braces, isWhole_break, isWhole_writeString,
        isWhole_write layout (depth + 1) value, isWhole_writeMembers layout (depth + 1) rest]

theorem isWhole_writeItems (layout : Layout) (depth : Nat) :
    ∀ items : List Json, IsWhole (writeItems layout depth items)
  | [] => isWhole_nil
  | item :: rest => by
      simp [writeItems, isWhole_break, isWhole_write layout depth item,
        isWhole_writeItems layout depth rest]

theorem isWhole_writeMembers (layout : Layout) (depth : Nat) :
    ∀ members : List (Text × Json), IsWhole (writeMembers layout depth members)
  | [] => isWhole_nil
  | (name, value) :: rest => by
      simp [writeMembers, isWhole_break, isWhole_writeString, isWhole_write layout depth value,
        isWhole_writeMembers layout depth rest]

end

/-- **Every document has bytes.** -/
theorem encode?_dump {layout : Layout} {j : Json} {t : Text} (h : dump layout j = .ok t) :
    (Utf8.encode? t).isSome := by
  obtain ⟨-, rfl⟩ := dump_eq_ok_iff.mp h
  exact Utf8.encode?_isSome (isWhole_write layout 0 j)

/-! ## Limits -/

/-- A number fits into some digits if it is below that power of ten. -/
theorem fitsDigits_iff {digits n : Nat} : fitsDigits digits n = true ↔ n < 10 ^ digits := by
  induction digits generalizing n with
  | zero =>
      rw [fitsDigits, beq_iff_eq, Nat.pow_zero, Nat.lt_one_iff]
  | succ digits ih =>
      rw [fitsDigits, Nat.pow_succ, ← Nat.div_lt_iff_lt_mul (by decide)]
      split
      · rename_i hsmall
        rw [Nat.div_eq_of_lt hsmall]
        exact iff_of_true rfl (Nat.pow_pos (by decide))
      · exact ih

/-- A row of digits says a number below that power of ten. -/
theorem digitsValue_lt {digits : Text} (h : ∀ c ∈ digits, c.isDigit = true) :
    digitsValue digits < 10 ^ digits.length := by
  induction digits using List.reverseRecOn with
  | nil => exact Nat.one_pos
  | append_singleton digits c ih =>
      obtain ⟨hdigits, hlast⟩ := List.forall_mem_append.mp h
      have hdigit : c.val - 0x30 ≤ 9 := by
        have hc := hlast c (List.mem_singleton_self c)
        unfold CodePoint.isDigit at hc
        simp only [Bool.and_eq_true, decide_eq_true_eq] at hc
        omega
      calc digitsValue (digits ++ [c])
          = digitsValue digits * 10 + (c.val - 0x30) := by
            rw [digitsValue, List.foldl_append]
            rfl
        _ < (digitsValue digits + 1) * 10 := by omega
        _ ≤ 10 ^ digits.length * 10 := Nat.mul_le_mul_right _ (ih hdigits)
        _ = 10 ^ (digits ++ [c]).length := by
            rw [List.length_append, List.length_singleton, Nat.pow_succ]

/-- Items keep to the limits if each of them does. -/
theorem itemsExcess?_eq_none_iff {room : Nat} {items : List Json} :
    itemsExcess? room items = none ↔ ∀ item ∈ items, excess? room item = none := by
  induction items with
  | nil => exact ⟨fun _ _ h => (nomatch h), fun _ => rfl⟩
  | cons item rest ih =>
      rw [itemsExcess?, Option.or_eq_none_iff, ih, List.forall_mem_cons]

/-- So do members. -/
theorem membersExcess?_eq_none_iff {room : Nat} {members : List (Text × Json)} :
    membersExcess? room members = none ↔ ∀ entry ∈ members, excess? room entry.2 = none := by
  induction members with
  | nil => exact ⟨fun _ _ h => (nomatch h), fun _ => rfl⟩
  | cons entry rest ih =>
      rw [membersExcess?, Option.or_eq_none_iff, ih, List.forall_mem_cons]

/-- A number that was read has no more digits than are written. -/
theorem excess?_of_readNumber {room : Nat} {input next : Input} {j : Json}
    (h : readNumber input = .ok (j, next)) : excess? room j = none := by
  unfold readNumber at h
  extract_lets negative body run whole at h
  have hdigits : ∀ c ∈ whole, c.isDigit = true := by
    have hrun : ∀ c ∈ run, c.isDigit = true := fun c hc => List.mem_takeWhile_imp hc
    intro c hc
    unfold whole at hc
    split at hc
    · exact hrun c (List.mem_of_mem_take hc)
    · exact hrun c hc
  split at h
  · exact nomatch h
  · dsimp only at h
    split at h
    · split at h
      · exact nomatch h
      · rename_i hshort
        obtain ⟨rfl, -⟩ := Prod.mk.inj (Except.ok.inj h)
        have hvalue : digitsValue whole < 10 ^ digitLimit :=
          (digitsValue_lt hdigits).trans_le (Nat.pow_le_pow_right (by decide) (not_lt.mp hshort))
        have hsize : (if negative = true then -(digitsValue whole : Int)
            else (digitsValue whole : Int)).natAbs = digitsValue whole := by
          split <;> simp
        rw [excess?, hsize, fitsDigits_iff.mpr hvalue]
        rfl
    · obtain ⟨rfl, -⟩ := Prod.mk.inj (Except.ok.inj h)
      rfl

/-- A value that is written as a name has no limits to exceed. -/
theorem excess?_of_readName? {room : Nat} {input next : Input} {j : Json}
    (h : readName? input = some (j, next)) : excess? room j = none := by
  obtain ⟨entry, hfound, heq⟩ := Option.map_eq_some_iff.mp h
  obtain ⟨rfl, -⟩ := Prod.mk.inj heq
  have hnames : ∀ entry ∈ names, excess? room entry.2 = none := by
    unfold names
    simp only [List.forall_mem_cons]
    exact ⟨rfl, rfl, rfl, rfl, rfl, rfl, fun _ h => nomatch h⟩
  exact hnames entry (List.mem_of_find?_eq_some hfound)

/-- Whether all that is read with some fuel keeps to the limits, where
    items and members are inside of what takes up room itself. -/
structure KeepsLimits (fuel : Nat) : Prop where
  value : ∀ {room : Nat} {input next : Input} {j : Json},
    readValue fuel room input = .ok (j, next) → excess? room j = none
  items : ∀ {room : Nat} {taken : List Json} {input next : Input} {j : Json},
    (∀ item ∈ taken, excess? room item = none) →
    readItems fuel room taken input = .ok (j, next) → excess? (room + 1) j = none
  members : ∀ {room : Nat} {taken : List (Text × Json)} {input next : Input} {j : Json},
    (∀ entry ∈ taken, excess? room entry.2 = none) →
    readMembers fuel room taken input = .ok (j, next) → excess? (room + 1) j = none

section Limits

variable {fuel room : Nat} {input next : Input} {j : Json}

/-- A value keeps to the limits if its items or members do. -/
theorem KeepsLimits.value_succ (h : KeepsLimits fuel)
    (hread : readValue (fuel + 1) room input = .ok (j, next)) : excess? room j = none := by
  unfold readValue at hread
  split at hread
  · exact nomatch hread
  split at hread
  · -- A string.
    split at hread
    · exact nomatch hread
    · obtain ⟨rfl, -⟩ := Prod.mk.inj (Except.ok.inj hread)
      rfl
  split at hread
  · -- An object.
    split at hread
    · exact nomatch hread
    · dsimp only at hread
      split at hread
      · obtain ⟨rfl, -⟩ := Prod.mk.inj (Except.ok.inj hread)
        rfl
      · refine h.members ?_ hread
        exact fun _ hentry => nomatch hentry
  split at hread
  · -- An array.
    split at hread
    · exact nomatch hread
    · dsimp only at hread
      split at hread
      · obtain ⟨rfl, -⟩ := Prod.mk.inj (Except.ok.inj hread)
        rfl
      · refine h.items ?_ hread
        exact fun _ hitem => nomatch hitem
  split at hread
  · rename_i hname
    exact excess?_of_readName? (hname.trans (congrArg some (Except.ok.inj hread)))
  · exact excess?_of_readNumber hread

/-- An array keeps to the limits if the items that were taken do. -/
theorem KeepsLimits.items_succ (h : KeepsLimits fuel) {taken : List Json}
    (htaken : ∀ item ∈ taken, excess? room item = none)
    (hread : readItems (fuel + 1) room taken input = .ok (j, next)) :
    excess? (room + 1) j = none := by
  unfold readItems at hread
  split at hread
  · exact nomatch hread
  · rename_i item after hitem
    have hmore : ∀ x ∈ item :: taken, excess? room x = none :=
      List.forall_mem_cons.mpr ⟨h.value hitem, htaken⟩
    dsimp only at hread
    split at hread
    · obtain ⟨rfl, -⟩ := Prod.mk.inj (Except.ok.inj hread)
      exact itemsExcess?_eq_none_iff.mpr fun x hx => hmore x (List.mem_reverse.mp hx)
    · split at hread
      · exact h.items hmore hread
      · exact nomatch hread

/-- An object keeps to the limits if the members that were taken do. -/
theorem KeepsLimits.members_succ (h : KeepsLimits fuel) {taken : List (Text × Json)}
    (htaken : ∀ entry ∈ taken, excess? room entry.2 = none)
    (hread : readMembers (fuel + 1) room taken input = .ok (j, next)) :
    excess? (room + 1) j = none := by
  unfold readMembers at hread
  split at hread
  · exact nomatch hread
  split at hread
  swap
  · exact nomatch hread
  split at hread
  · exact nomatch hread
  rename_i name _ _
  dsimp only at hread
  split at hread
  swap
  · exact nomatch hread
  split at hread
  · exact nomatch hread
  · rename_i value after hvalue
    have hmore : ∀ entry ∈ Entries.set taken name value, excess? room entry.2 = none := by
      intro entry hentry
      rcases Entries.mem_of_mem_set hentry with hold | hnew
      · exact htaken entry hold
      · exact hnew ▸ h.value hvalue
    split at hread
    · obtain ⟨rfl, -⟩ := Prod.mk.inj (Except.ok.inj hread)
      exact membersExcess?_eq_none_iff.mpr hmore
    · split at hread
      · exact h.members hmore hread
      · exact nomatch hread

/-- **Reading keeps to the limits**, whatever its fuel. -/
theorem keepsLimits (fuel : Nat) : KeepsLimits fuel := by
  induction fuel with
  | zero => exact ⟨fun h => (nomatch h), fun _ h => (nomatch h), fun _ h => nomatch h⟩
  | succ fuel ih => exact ⟨ih.value_succ, ih.items_succ, ih.members_succ⟩

end Limits

/-- **What was read can be written.** -/
theorem excess?_of_read {t : Text} {j : Json} (h : read t = .ok j) :
    excess? depthLimit j = none := by
  unfold read at h
  dsimp only at h
  split at h
  · exact nomatch h
  · split at h
    · exact nomatch h
    · rename_i value next hvalue
      split at h
      · obtain rfl := Except.ok.inj h
        exact (keepsLimits _).value hvalue
      · exact nomatch h

end Json

end HermesBundle
