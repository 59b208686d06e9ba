import HermesBundle.SourceMap.Mapping

/-! # Plain mappings — integers for positions, texts for sources and names

    A document may put any value into a mapping, but one that keeps to
    the format has integers for positions and texts for sources and
    names.  Such mappings are given here by a type of their own.  Putting
    them in order needs no case distinction any more, and it is stable:

    * the result has the same mappings, none before an earlier one;
    * those of one position keep their order (`filter_sorted`);
    * nothing but positions matters (`sorted_map`). -/

namespace HermesBundle.SourceMap

/-- A mapping of integers and texts. -/
structure PlainMapping where
  line : Int
  column : Int
  source : Option Text
  sourceLine : Option Int
  sourceColumn : Option Int
  name : Option Text
deriving DecidableEq

namespace PlainMapping

/-- The value of a text that may be missing. -/
def textValue : Option Text → Json
  | none => .null
  | some t => .str t

/-- The value of an integer that may be missing. -/
def integerValue : Option Int → Json
  | none => .null
  | some i => .int i

/-- The mapping of values. -/
def toMapping (m : PlainMapping) : Mapping :=
  ⟨.int m.line, .int m.column, textValue m.source, integerValue m.sourceLine,
    integerValue m.sourceColumn, textValue m.name⟩

/-- A mapping that has a generated position only. -/
def bare (line column : Int) : PlainMapping := ⟨line, column, none, none, none, none⟩

/-- Whether the mapping leads to a place in a source. -/
def isLocated (m : PlainMapping) : Bool :=
  m.source.isSome && m.sourceLine.isSome && m.sourceColumn.isSome

/-- What a document keeps of a mapping: without a place in a source only
    the generated position. -/
def settled (m : PlainMapping) : PlainMapping :=
  if m.isLocated then m else bare m.line m.column

/-- Whether the mapping has a generated position. -/
def isAt (line column : Int) (m : PlainMapping) : Bool :=
  decide (m.line = line ∧ m.column = column)

/-- Whether the second of two mappings may follow the first. -/
def notAfter (a b : PlainMapping) : Bool :=
  decide (a.line < b.line ∨ (a.line = b.line ∧ a.column ≤ b.column))

/-- Mappings in the order of their generated positions; those with equal
    positions keep their order. -/
def sorted (ms : List PlainMapping) : List PlainMapping := ms.mergeSort notAfter

variable {m : PlainMapping} {ms : List PlainMapping}

@[simp] theorem textValue_isNull (t : Option Text) : (textValue t).isNull = !t.isSome := by
  cases t with
  | none => rfl
  | some t => rfl

@[simp] theorem integerValue_isNull (i : Option Int) : (integerValue i).isNull = !i.isSome := by
  cases i with
  | none => rfl
  | some i => rfl

@[simp] theorem toMapping_isLocated (m : PlainMapping) : m.toMapping.isLocated = m.isLocated := by
  simp [toMapping, Mapping.isLocated, isLocated]

/-- Either a mapping has a place in a source, or it is settled without. -/
theorem located_or_bare (m : PlainMapping) :
    (∃ line column source sourceLine sourceColumn name,
        m = ⟨line, column, some source, some sourceLine, some sourceColumn, name⟩)
      ∨ m.isLocated = false := by
  obtain ⟨line, column, source, sourceLine, sourceColumn, name⟩ := m
  cases source with
  | none => exact Or.inr rfl
  | some s =>
      cases sourceLine with
      | none => exact Or.inr rfl
      | some l =>
          cases sourceColumn with
          | none => exact Or.inr rfl
          | some c => exact Or.inl ⟨_, _, _, _, _, _, rfl⟩

/-- A mapping that has a place in a source has a source. -/
theorem source_isSome_of_isLocated (h : m.isLocated = true) : m.source.isSome = true :=
  (Bool.and_eq_true_iff.mp (Bool.and_eq_true_iff.mp h).1).1

@[simp] theorem settled_line (m : PlainMapping) : m.settled.line = m.line := by
  unfold settled
  split <;> rfl

@[simp] theorem settled_column (m : PlainMapping) : m.settled.column = m.column := by
  unfold settled
  split <;> rfl

/-- A mapping without a place in a source is reduced to its position. -/
theorem settled_of_not_located (h : m.isLocated = false) : m.settled = bare m.line m.column :=
  if_neg (by rw [h]; decide)

/-- What is settled stays as it is. -/
@[simp] theorem settled_settled (m : PlainMapping) : m.settled.settled = m.settled := by
  cases h : m.isLocated with
  | true =>
      have hm : m.settled = m := if_pos h
      rw [hm, hm]
  | false =>
      rw [settled_of_not_located h]
      rfl

/-! ## Order -/

/-- The order has no gaps. -/
theorem notAfter_trans (a b c : PlainMapping) (hab : notAfter a b = true)
    (hbc : notAfter b c = true) : notAfter a c = true := by
  unfold notAfter at *
  rw [decide_eq_true_eq] at *
  omega

/-- Of two mappings one may follow the other. -/
theorem notAfter_total (a b : PlainMapping) : (notAfter a b || notAfter b a) = true := by
  unfold notAfter
  rw [Bool.or_eq_true, decide_eq_true_eq, decide_eq_true_eq]
  omega

/-- The order of plain mappings is that of their values. -/
theorem notAfter_eq_before (a b : PlainMapping) :
    notAfter a b = !Mapping.before b.toMapping a.toMapping := by
  have hline : Json.same b.toMapping.line a.toMapping.line = decide (b.line = a.line) := by
    show (b.line == a.line) = _
    rw [Bool.eq_iff_iff, beq_iff_eq, decide_eq_true_eq]
  have hcolumn : Json.less b.toMapping.column a.toMapping.column = decide (b.column < a.column) :=
    rfl
  have hless : Json.less b.toMapping.line a.toMapping.line = decide (b.line < a.line) := rfl
  unfold notAfter Mapping.before
  rw [hline, hcolumn, hless]
  by_cases h : b.line = a.line
  · rw [if_pos (decide_eq_true h), ← decide_not, decide_eq_decide]
    omega
  · rw [if_neg (by rw [decide_eq_true_eq]; exact h), ← decide_not, decide_eq_decide]
    omega

/-- Plain mappings can always be put in order. -/
theorem sort_toMapping (origin : Mapping.Origin) (ms : List PlainMapping) :
    Mapping.sort origin (ms.map toMapping) = .ok ((sorted ms).map toMapping) := by
  have hplain : (ms.map toMapping).all Mapping.hasPlainPosition = true := by
    rw [List.all_eq_true]
    intro x hx
    obtain ⟨m, -, rfl⟩ := List.mem_map.mp hx
    rfl
  have hsorted : (sorted ms).map toMapping = Mapping.sorted (ms.map toMapping) :=
    List.map_mergeSort fun a _ b _ => notAfter_eq_before a b
  unfold Mapping.sort
  rw [if_pos hplain, hsorted]

/-- Putting mappings in order neither loses nor adds any. -/
theorem sorted_perm (ms : List PlainMapping) : (sorted ms).Perm ms := List.mergeSort_perm ms _

@[simp] theorem mem_sorted : m ∈ sorted ms ↔ m ∈ ms := List.mem_mergeSort

@[simp] theorem sorted_length (ms : List PlainMapping) : (sorted ms).length = ms.length :=
  (sorted_perm ms).length_eq

/-- No mapping comes before an earlier one. -/
theorem sorted_pairwise (ms : List PlainMapping) :
    (sorted ms).Pairwise fun a b => notAfter a b = true :=
  List.pairwise_mergeSort notAfter_trans notAfter_total ms

/-- Mappings that are in order stay where they are. -/
theorem sorted_of_pairwise (h : ms.Pairwise fun a b => notAfter a b = true) : sorted ms = ms :=
  List.mergeSort_of_pairwise h

/-- Mappings of one position keep their order. -/
theorem filter_sorted (ms : List PlainMapping) (line column : Int) :
    (sorted ms).filter (isAt line column) = ms.filter (isAt line column) := by
  have hpair : (ms.filter (isAt line column)).Pairwise fun a b => notAfter a b = true := by
    refine List.pairwise_of_forall_mem_list fun a ha b hb => ?_
    have hat := (List.mem_filter.mp ha).2
    have hbt := (List.mem_filter.mp hb).2
    unfold isAt at hat hbt
    unfold notAfter
    rw [decide_eq_true_eq] at *
    omega
  have hsub : (ms.filter (isAt line column)).Sublist (sorted ms) :=
    List.sublist_mergeSort notAfter_trans notAfter_total hpair List.filter_sublist
  have hfilter := hsub.filter (isAt line column)
  rw [List.filter_filter] at hfilter
  simp only [Bool.and_self] at hfilter
  exact (hfilter.eq_of_length ((sorted_perm ms).filter _).length_eq.symm).symm

/-- Where positions are kept, changing mappings and putting them in order
    can be exchanged. -/
theorem sorted_map {f : PlainMapping → PlainMapping} (hline : ∀ m, (f m).line = m.line)
    (hcolumn : ∀ m, (f m).column = m.column) (ms : List PlainMapping) :
    sorted (ms.map f) = (sorted ms).map f := by
  refine (List.map_mergeSort fun a _ b _ => ?_).symm
  unfold notAfter
  rw [hline, hline, hcolumn, hcolumn]

end PlainMapping

end HermesBundle.SourceMap
