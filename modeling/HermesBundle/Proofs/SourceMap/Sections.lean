import HermesBundle.Proofs.SourceMap.PlainDocument
import HermesBundle.Proofs.SourceMap.Scanning

/-! # Sections — a lookup among all sections is one in a single section

    An indexed document is read to one list: the mappings of its sections,
    shifted by their offsets, one section after another.  Where sections
    keep to their places, a query among all of them has the answer of the
    section that covers it:

    * a shifted document lists shifted mappings (`parseBasic_shifted`);
    * a query among shifted mappings is one within the section among the
      mappings themselves (`finds_map_shifted_iff`);
    * mappings that end before a section are overtaken by its own, and
      those that start after the query do not count
      (`wins_append_append_iff`);
    * so the covering section answers for all
      (`sourcePosition_indexed`). -/

namespace HermesBundle.SourceMap

open Outcome

/-! ## Positions -/

/-- A generated position. -/
structure Position where
  line : Int
  column : Int
deriving DecidableEq

namespace Position

/-- One position is not after another one. -/
def NotAfter (p q : Position) : Prop :=
  p.line < q.line ∨ (p.line = q.line ∧ p.column ≤ q.column)

/-- One position is before another one. -/
def Before (p q : Position) : Prop := p.line < q.line ∨ (p.line = q.line ∧ p.column < q.column)

instance : LE Position := ⟨NotAfter⟩

instance : LT Position := ⟨Before⟩

instance (p q : Position) : Decidable (p ≤ q) :=
  inferInstanceAs (Decidable (p.line < q.line ∨ (p.line = q.line ∧ p.column ≤ q.column)))

instance (p q : Position) : Decidable (p < q) :=
  inferInstanceAs (Decidable (p.line < q.line ∨ (p.line = q.line ∧ p.column < q.column)))

variable {p q r : Position}

theorem le_iff : p ≤ q ↔ p.line < q.line ∨ (p.line = q.line ∧ p.column ≤ q.column) := Iff.rfl

theorem lt_iff : p < q ↔ p.line < q.line ∨ (p.line = q.line ∧ p.column < q.column) := Iff.rfl

theorem lt_trans (hpq : p < q) (hqr : q < r) : p < r := by
  rw [lt_iff] at *
  omega

theorem lt_of_lt_of_le (hpq : p < q) (hqr : q ≤ r) : p < r := by
  rw [lt_iff, le_iff] at *
  omega

theorem lt_of_not_le (h : ¬p ≤ q) : q < p := by
  rw [le_iff] at h
  rw [lt_iff]
  omega

/-- A position of a section in the whole: the columns of its first line
    are counted from its offset. -/
def shifted (offset p : Position) : Position :=
  ⟨offset.line + p.line, if p.line = 0 then offset.column + p.column else p.column⟩

/-- A position of the whole within a section. -/
def within (offset p : Position) : Position :=
  ⟨p.line - offset.line, if p.line = offset.line then p.column - offset.column else p.column⟩

/-- The positions of a section are those of the whole within it. -/
theorem shifted_eq_iff (offset : Position) : shifted offset p = q ↔ p = within offset q := by
  obtain ⟨l, c⟩ := p
  obtain ⟨l', c'⟩ := q
  unfold shifted within
  rw [mk.injEq, mk.injEq]
  dsimp only
  by_cases hline : l = 0
  · rw [if_pos hline]
    constructor
    · intro h
      rw [if_pos (by omega)]
      omega
    · intro h
      rw [if_pos (by omega)] at h
      omega
  · rw [if_neg hline]
    constructor
    · intro h
      rw [if_neg (by omega)]
      omega
    · intro h
      rw [if_neg (by omega)] at h
      omega

end Position

namespace Mapping

/-- The generated position of a mapping. -/
def position (m : Mapping) : Position := ⟨m.line.toInt?.getD 0, m.column.toInt?.getD 0⟩

/-- A mapping of a section in the whole. -/
def shifted (offset : Position) (m : Mapping) : Mapping :=
  { m with
    line := .int (offset.shifted m.position).line
    column := .int (offset.shifted m.position).column }

theorem IsAt.position_eq {line column : Int} {m : Mapping} (h : m.IsAt line column) :
    m.position = ⟨line, column⟩ := by
  unfold position
  rw [h.1, h.2]
  rfl

theorem HasIntegerPosition.isAt {m : Mapping} (h : m.HasIntegerPosition) :
    m.IsAt m.position.line m.position.column := by
  obtain ⟨line, column, hat⟩ := h
  rw [hat.position_eq]
  exact hat

theorem isAt_shifted (offset : Position) (m : Mapping) :
    (m.shifted offset).IsAt (offset.shifted m.position).line (offset.shifted m.position).column :=
  ⟨rfl, rfl⟩

/-- A shifted mapping stands where the mapping stands within the
    section. -/
theorem isAt_shifted_iff {offset : Position} {line column : Int} {m : Mapping}
    (hm : m.HasIntegerPosition) :
    (m.shifted offset).IsAt line column
      ↔ m.IsAt (offset.within ⟨line, column⟩).line (offset.within ⟨line, column⟩).column := by
  constructor
  · intro h
    have hat := hm.isAt
    have hposition : offset.shifted m.position = ⟨line, column⟩ :=
      (isAt_shifted offset m).position_eq.symm.trans h.position_eq
    rwa [(Position.shifted_eq_iff offset).mp hposition] at hat
  · intro h
    have hat := isAt_shifted offset m
    rwa [(Position.shifted_eq_iff offset).mpr h.position_eq] at hat

end Mapping

/-! ## Shifted documents -/

/-- A shifted segment is read to the shifted mapping. -/
theorem place_shifted (sources names : List Json) (offset : Position) (line : Nat) (s : Segment) :
    place sources names (.int offset.line) (.int offset.column) line s
      = (place sources names (.int 0) (.int 0) line s).map (Mapping.shifted offset) := by
  obtain ⟨c, origin⟩ := s
  have hshift : ∀ n i : Int, shift n (.int i) = .ok (.int (i + n)) := fun n i =>
    congrArg (fun sum => Except.ok (Json.int sum)) (Int.add_comm n i)
  have hcolumn : ∀ i : Int, shift c (if line = 0 then .int i else .int 0)
      = .ok (.int (if (line : Int) = 0 then i + c else c)) := by
    intro i
    by_cases hline : line = 0
    · rw [if_pos hline, if_pos (Int.natCast_eq_zero.mpr hline), hshift]
    · rw [if_neg hline, if_neg (Int.natCast_eq_zero.not.mpr hline), hshift, Int.zero_add]
  have hown : (if (line : Int) = 0 then 0 + c else c) = c := by
    rw [Int.zero_add, ite_self]
  unfold place
  dsimp only
  rw [bind_of_eq_ok (hcolumn offset.column), bind_of_eq_ok (hcolumn 0), hown]
  cases origin with
  | none =>
      dsimp only
      rw [bind_of_eq_ok (hshift line offset.line), bind_of_eq_ok (hshift line 0), Int.zero_add]
      rfl
  | some o =>
      dsimp only
      rw [hshift, hshift, Int.zero_add]
      obtain ⟨source, l, sourceColumn, name⟩ := o
      cases name with
      | none =>
          cases entryAt .sources sources source with
          | error e => rfl
          | ok source => rfl
      | some index =>
          dsimp only
          cases entryAt .names names index with
          | error e => rfl
          | ok name =>
              cases entryAt .sources sources source with
              | error e => rfl
              | ok source => rfl

/-- Shifted lines are read to the shifted mappings. -/
theorem placeLines_shifted (sources names : List Json) (offset : Position) (line : Nat)
    (lines : List (List Segment)) :
    placeLines sources names (.int offset.line) (.int offset.column) line lines
      = (placeLines sources names (.int 0) (.int 0) line lines).map
          (List.map (Mapping.shifted offset)) := by
  induction lines generalizing line with
  | nil => rfl
  | cons segments rest ih =>
      rw [placeLines, placeLines, ih, mapM_eq_map_mapM (place_shifted sources names offset line)]
      cases segments.mapM (place sources names (.int 0) (.int 0) line) with
      | error e => rfl
      | ok here =>
          cases placeLines sources names (.int 0) (.int 0) (line + 1) rest with
          | error e => rfl
          | ok more => exact congrArg Except.ok List.map_append.symm

/-- **A shifted document lists shifted mappings.** -/
theorem parseBasic_shifted (doc : Json) (offset : Position) :
    parseBasic doc (.int offset.line) (.int offset.column)
      = (parseBasic doc (.int 0) (.int 0)).map (List.map (Mapping.shifted offset)) := by
  unfold parseBasic
  cases sourceNames doc with
  | error e => rfl
  | ok sources =>
      dsimp only [bind, Except.bind]
      split
      · rename_i text names _ _
        cases Mappings.decode text with
        | error e => rfl
        | ok lines => exact placeLines_shifted sources names offset 0 lines
      · rfl

/-- What a basic document lists stands at integer positions. -/
theorem hasIntegerPosition_of_parseBasic {doc : Json} {ms : List Mapping}
    (h : parseBasic doc (.int 0) (.int 0) = .ok ms) : ∀ m ∈ ms, m.HasIntegerPosition := by
  have hshifted := parseBasic_shifted doc ⟨0, 0⟩
  dsimp only at hshifted
  rw [h] at hshifted
  have hms : ms = ms.map (Mapping.shifted ⟨0, 0⟩) := Except.ok.inj hshifted
  intro m hm
  rw [hms] at hm
  obtain ⟨own, -, rfl⟩ := List.mem_map.mp hm
  exact ⟨_, _, own.isAt_shifted ⟨0, 0⟩⟩

/-! ## Queries among shifted mappings -/

/-- Where mappings are moved along a line, and all of them alike, the same
    ones win. -/
theorem wins_map_iff {f : Mapping → Mapping} {g : Int → Int} {line line' column : Int}
    {ms : List Mapping} {won : Mapping}
    (hat : ∀ m ∈ ms, ∀ c, (f m).IsAt line c ↔ m.IsAt line' (g c))
    (hmono : ∀ c d, g c ≤ g d ↔ c ≤ d) (hsurj : ∀ d, ∃ c, g c = d) :
    Wins line column (ms.map f) won ↔ ∃ m, Wins line' (g column) ms m ∧ f m = won := by
  have hlt : ∀ c d, g c < g d ↔ c < d := fun c d => by
    rw [← Int.not_le, ← Int.not_le, hmono]
  constructor
  · intro h
    obtain ⟨front, rear, start, hsplit, hwon, hle, hbefore, hbehind⟩ := wins_iff.mp h
    obtain ⟨before, tail, rfl, rfl, htail⟩ := List.map_eq_append_iff.mp hsplit
    obtain ⟨m, behind, rfl, rfl, rfl⟩ := List.map_eq_cons_iff.mp htail
    refine ⟨m, .intro ((hat m (by simp) _).mp hwon) ((hmono ..).mpr hle) ?_ ?_, rfl⟩
    · intro x hx d hd hbound
      obtain ⟨c, rfl⟩ := hsurj d
      have hxc := (hat x (List.mem_append_left _ hx) c).mpr hd
      exact (hmono ..).mpr (hbefore _ (List.mem_map_of_mem hx) c hxc ((hmono ..).mp hbound))
    · intro x hx d hd hbound
      obtain ⟨c, rfl⟩ := hsurj d
      have hxc := (hat x (List.mem_append_right _ (List.mem_cons_of_mem _ hx)) c).mpr hd
      exact (hlt ..).mpr (hbehind _ (List.mem_map_of_mem hx) c hxc ((hmono ..).mp hbound))
  · rintro ⟨m, h, rfl⟩
    obtain ⟨before, behind, start, rfl, hm, hle, hbefore, hbehind⟩ := wins_iff.mp h
    obtain ⟨start, rfl⟩ := hsurj start
    rw [List.map_append, List.map_cons]
    refine .intro ((hat m (by simp) _).mpr hm) ((hmono ..).mp hle) ?_ ?_
    · intro y hy c hc hbound
      obtain ⟨x, hx, rfl⟩ := List.mem_map.mp hy
      have hxc := (hat x (List.mem_append_left _ hx) c).mp hc
      exact (hmono ..).mp (hbefore x hx _ hxc ((hmono ..).mpr hbound))
    · intro y hy c hc hbound
      obtain ⟨x, hx, rfl⟩ := List.mem_map.mp hy
      have hxc := (hat x (List.mem_append_right _ (List.mem_cons_of_mem _ hx)) c).mp hc
      exact (hlt ..).mp (hbehind x hx _ hxc ((hmono ..).mpr hbound))

section
variable {offset : Position} {line column : Int} {ms front rear : List Mapping} {m : Mapping}

/-- Among shifted mappings those win whose originals win within the
    section. -/
theorem wins_map_shifted_iff (hms : ∀ m ∈ ms, m.HasIntegerPosition) :
    Wins line column (ms.map (Mapping.shifted offset)) m
      ↔ ∃ own, Wins (offset.within ⟨line, column⟩).line (offset.within ⟨line, column⟩).column ms own
        ∧ own.shifted offset = m := by
  refine wins_map_iff (g := fun c => (offset.within ⟨line, c⟩).column)
    (fun x hx c => Mapping.isAt_shifted_iff (hms x hx)) (fun c d => ?_) fun d => ?_
  · unfold Position.within
    dsimp only
    split <;> omega
  · unfold Position.within
    dsimp only
    by_cases hline : line = offset.line
    · exact ⟨d + offset.column, by rw [if_pos hline]; omega⟩
    · exact ⟨d, if_neg hline⟩

/-- What is found within a section is found shifted among the shifted
    mappings. -/
theorem Finds.shifted {found : Option Mapping} (hms : ∀ m ∈ ms, m.HasIntegerPosition)
    (h : Finds (offset.within ⟨line, column⟩).line (offset.within ⟨line, column⟩).column ms found) :
    Finds line column (ms.map (Mapping.shifted offset)) (found.map (Mapping.shifted offset)) := by
  cases h with
  | winner hm hsource => exact .winner ((wins_map_shifted_iff hms).mpr ⟨_, hm, rfl⟩) hsource
  | nothing hnone =>
      refine .nothing fun m hm => ?_
      obtain ⟨own, hown, rfl⟩ := (wins_map_shifted_iff hms).mp hm
      exact hnone own hown

/-- Mappings in front that are overtaken, and mappings behind that start
    after the query, do not change who wins. -/
theorem wins_append_append_iff
    (hfront : ∀ x ∈ front, ∀ c, x.IsAt line c → c ≤ column →
      ∃ y ∈ ms, ∃ d, y.IsAt line d ∧ c ≤ d ∧ d ≤ column)
    (hrear : ∀ x ∈ rear, ∀ c, x.IsAt line c → column < c) :
    Wins line column (front ++ (ms ++ rear)) m ↔ Wins line column ms m := by
  constructor
  · intro h
    obtain ⟨before, behind, start, hsplit, hm, hle, hbefore, hbehind⟩ := wins_iff.mp h
    have hms : ∀ a, ms ++ rear = a ++ m :: behind → (∀ x ∈ a, x ∈ before) →
        Wins line column ms m := by
      intro a hsplit ha
      rcases List.append_eq_append_iff.mp hsplit with ⟨more, rfl, hrest⟩ | ⟨more, rfl, hrest⟩
      · exact absurd hle (Int.not_le.mpr (hrear m (by rw [hrest]; simp) start hm))
      · rcases List.cons_eq_append_iff.mp hrest with ⟨rfl, rfl⟩ | ⟨later, rfl, rfl⟩
        · exact absurd hle (Int.not_le.mpr (hrear m (by simp) start hm))
        · exact .intro hm hle (fun x hx => hbefore x (ha x hx))
            fun x hx => hbehind x (List.mem_append_left _ hx)
    rcases List.append_eq_append_iff.mp hsplit with ⟨a, rfl, hrest⟩ | ⟨more, rfl, hrest⟩
    · exact hms a hrest fun x hx => List.mem_append_right _ hx
    · rcases List.cons_eq_append_iff.mp hrest with ⟨rfl, hrest⟩ | ⟨later, rfl, rfl⟩
      · exact hms [] hrest.symm fun x hx => nomatch hx
      · obtain ⟨y, hy, d, hd, hcd, hdle⟩ := hfront m (by simp) start hm hle
        have hlt := hbehind y (by simp [hy]) d hd hdle
        omega
  · intro h
    obtain ⟨before, behind, start, rfl, hm, hle, hbefore, hbehind⟩ := wins_iff.mp h
    have hsplit : front ++ (before ++ m :: behind ++ rear)
        = (front ++ before) ++ m :: (behind ++ rear) := by
      simp only [List.append_assoc, List.cons_append]
    rw [hsplit]
    refine .intro hm hle (fun x hx c hc hbound => ?_) fun x hx c hc hbound => ?_
    · rcases List.mem_append.mp hx with hx | hx
      · obtain ⟨y, hy, d, hd, hcd, hdle⟩ := hfront x hx c hc hbound
        exact Int.le_trans hcd (h.greatest hm hy hd hdle)
      · exact hbefore x hx c hc hbound
    · rcases List.mem_append.mp hx with hx | hx
      · exact hbehind x hx c hc hbound
      · exact absurd hbound (Int.not_le.mpr (hrear x hx c hc))

end

/-! ## The covering section -/

/-- The offset of a section; a coordinate that is missing is 0. -/
def offsetOf (part : Json) : Position :=
  ⟨(offsetMember (member part "offset") "line").toInt?.getD 0,
    (offsetMember (member part "offset") "column").toInt?.getD 0⟩

/-- The section that covers a position: the last one whose offset is not
    after it. -/
def covering? (sections : List Json) (p : Position) : Option Json :=
  (sections.filter fun part => decide (offsetOf part ≤ p)).getLast?

/-- The source position of a generated one by a single section, which is
    asked for the position within it. -/
def sectionPosition (part : Json) (p : Position) : Except Fault (Option Mapping) := do
  let own ← parse (member part "map")
  let q := (offsetOf part).within p
  let found ← sourcePosition own (.int q.line) (.int q.column)
  return found.map (Mapping.shifted (offsetOf part))

/-- The source position of a generated one by the section that covers it,
    if one does. -/
def coveringPosition (sections : List Json) (p : Position) : Except Fault (Option Mapping) :=
  match covering? sections p with
  | none => .ok none
  | some part => sectionPosition part p

/-- A section in its place: its offset and its columns are natural
    numbers, no mapping is in front of the offset, and one is right there
    unless the section starts a line. -/
structure IsPlaced (part : Json) : Prop where
  plain : hasPlainOffset part = true
  nonneg : 0 ≤ (offsetOf part).line ∧ 0 ≤ (offsetOf part).column
  columns : ∀ own, parse (member part "map") = .ok own → ∀ m ∈ own, 0 ≤ m.position.column
  after : ∀ own, parse (member part "map") = .ok own →
    ∀ m ∈ own, offsetOf part ≤ (offsetOf part).shifted m.position
  anchored : ∀ own, parse (member part "map") = .ok own →
    (offsetOf part).column = 0 ∨ ∃ m ∈ own, m.position = ⟨0, 0⟩

/-- A section and its mappings come before the offset of another one. -/
structure Precedes (part next : Json) : Prop where
  offset : offsetOf part < offsetOf next
  mappings : ∀ own, parse (member part "map") = .ok own →
    ∀ m ∈ own, (offsetOf part).shifted m.position < offsetOf next

instance : Trans Precedes Precedes Precedes where
  trans h h' := ⟨Position.lt_trans h.offset h'.offset,
    fun own hown m hm => Position.lt_trans (h.mappings own hown m hm) h'.offset⟩

/-- Sections in their places, each of which precedes the next. -/
structure AreLaidOut (sections : List Json) : Prop where
  placed : ∀ part ∈ sections, IsPlaced part
  ordered : sections.IsChain Precedes

/-- All sections in front of one precede it. -/
theorem AreLaidOut.precedes {before behind : List Json} {part : Json}
    (h : AreLaidOut (before ++ part :: behind)) : ∀ front ∈ before, Precedes front part := by
  have hordered := List.isChain_iff_pairwise.mp h.ordered
  rw [List.pairwise_append] at hordered
  exact fun front hfront => hordered.2.2 front hfront part (List.mem_cons_self ..)

/-- The document in a section that can be read is basic and declares its
    version. -/
theorem isBasic_of_parseSection {part : Json} {ms : List Mapping}
    (h : parseSection part = .ok ms) :
    requireVersion (member part "map") = .ok () ∧ (member part "map").get? "sections" = none := by
  unfold parseSection at h
  dsimp only at h
  split at h
  · exact nomatch h
  · split at h
    · obtain ⟨_, hversion, h⟩ := bind_eq_ok.mp h
      split at h
      · exact nomatch h
      · rename_i hsections
        unfold hasMember at hsections
        exact ⟨hversion, Option.not_isSome_iff_eq_none.mp hsections⟩
    · exact nomatch h

/-- By itself it is read without a shift. -/
theorem parse_map_of_parseSection {part : Json} {ms : List Mapping}
    (h : parseSection part = .ok ms) :
    parse (member part "map") = parseBasic (member part "map") (.int 0) (.int 0) := by
  obtain ⟨hversion, hnone⟩ := isBasic_of_parseSection h
  unfold parse
  rw [bind_of_eq_ok hversion, hnone]

/-- What reading a section that is shifted by integers consists of. -/
theorem exists_own_of_parseSection {part : Json} {ms : List Mapping}
    (hplain : hasPlainOffset part = true) (h : parseSection part = .ok ms) :
    ∃ own, parse (member part "map") = .ok own
      ∧ own.map (Mapping.shifted (offsetOf part)) = ms
      ∧ ∀ m ∈ own, m.HasIntegerPosition := by
  obtain ⟨hline, hcolumn⟩ := Bool.and_eq_true_iff.mp hplain
  obtain ⟨l, hl⟩ := exists_int hline
  obtain ⟨c, hc⟩ := exists_int hcolumn
  have hoffset : offsetOf part = ⟨l, c⟩ := by
    unfold offsetOf
    rw [hl, hc]
    rfl
  have hread := parseSection_eq_ok h
  rw [hl, hc, parseBasic_shifted _ ⟨l, c⟩] at hread
  cases hown : parseBasic (member part "map") (.int 0) (.int 0) with
  | error e =>
      rw [hown] at hread
      exact nomatch hread
  | ok own =>
      rw [hown] at hread
      refine ⟨own, (parse_map_of_parseSection h).trans hown, ?_,
        hasIntegerPosition_of_parseBasic hown⟩
      rw [hoffset]
      exact Except.ok.inj hread

/-- A mapping of an indexed document is that of a section, shifted. -/
theorem exists_of_mem_parts {sections : List Json} {parts : List (List Mapping)} {x : Mapping}
    (hplain : ∀ part ∈ sections, hasPlainOffset part = true)
    (h : sections.mapM parseSection = .ok parts) (hx : x ∈ parts.flatten) :
    ∃ part ∈ sections, ∃ own, parse (member part "map") = .ok own
      ∧ ∃ m ∈ own, m.HasIntegerPosition ∧ m.shifted (offsetOf part) = x := by
  obtain ⟨ms, hms, hx⟩ := List.mem_flatten.mp hx
  obtain ⟨part, hpart, hread⟩ := exists_of_mem_mapM h hms
  obtain ⟨own, hown, rfl, hints⟩ := exists_own_of_parseSection (hplain part hpart) hread
  obtain ⟨m, hm, rfl⟩ := List.mem_map.mp hx
  exact ⟨part, hpart, own, hown, m, hm, hints m hm, rfl⟩

/-- What the sections behind a position list starts after it. -/
theorem column_lt_of_behind {sections : List Json} {parts : List (List Mapping)} {p : Position}
    (hplaced : ∀ part ∈ sections, IsPlaced part) (hbehind : ∀ part ∈ sections, ¬offsetOf part ≤ p)
    (h : sections.mapM parseSection = .ok parts) :
    ∀ x ∈ parts.flatten, ∀ c, x.IsAt p.line c → p.column < c := by
  intro x hx c hat
  obtain ⟨part, hpart, own, hown, m, hm, -, rfl⟩ :=
    exists_of_mem_parts (fun part hpart => (hplaced part hpart).plain) h hx
  have hposition := (m.isAt_shifted (offsetOf part)).position_eq.symm.trans hat.position_eq
  have hafter := (hplaced part hpart).after own hown m hm
  have hlt := Position.lt_of_lt_of_le (Position.lt_of_not_le (hbehind part hpart)) hafter
  rw [Position.lt_iff, show (offsetOf part).shifted m.position = ⟨p.line, c⟩ from hposition] at hlt
  dsimp only at hlt
  omega

/-- What the sections in front of the covering one list is overtaken by its
    own mappings. -/
theorem overtaken_of_front {sections : List Json} {parts : List (List Mapping)} {part : Json}
    {own : List Mapping} {p : Position} (hplaced : ∀ part ∈ sections, IsPlaced part)
    (hordered : ∀ front ∈ sections, Precedes front part) (hpart : IsPlaced part)
    (hcovers : offsetOf part ≤ p) (hown : parse (member part "map") = .ok own)
    (h : sections.mapM parseSection = .ok parts) :
    ∀ x ∈ parts.flatten, ∀ c, x.IsAt p.line c → c ≤ p.column →
      ∃ y ∈ own.map (Mapping.shifted (offsetOf part)), ∃ d, y.IsAt p.line d ∧ c ≤ d
        ∧ d ≤ p.column := by
  intro x hx c hat hle
  obtain ⟨front, hfront, others, hothers, m, hm, -, rfl⟩ :=
    exists_of_mem_parts (fun part hpart => (hplaced part hpart).plain) h hx
  have hposition : (offsetOf front).shifted m.position = ⟨p.line, c⟩ :=
    (m.isAt_shifted (offsetOf front)).position_eq.symm.trans hat.position_eq
  have hlt := (hordered front hfront).mappings others hothers m hm
  have hnonneg : 0 ≤ c := by
    have hc : ((offsetOf front).shifted m.position).column = c := by rw [hposition]
    have hcolumn := (hplaced front hfront).columns others hothers m hm
    have hoffset := (hplaced front hfront).nonneg.2
    unfold Position.shifted at hc
    dsimp only at hc
    split at hc <;> omega
  rw [hposition, Position.lt_iff] at hlt
  rw [Position.le_iff] at hcovers
  dsimp only at hlt
  rcases hpart.anchored own hown with hzero | ⟨y, hy, hstart⟩
  · omega
  · refine ⟨_, List.mem_map_of_mem hy, (offsetOf part).column, ?_, ?_, ?_⟩
    · have hline : (offsetOf part).line + 0 = p.line := by omega
      have hat := y.isAt_shifted (offsetOf part)
      rw [hstart] at hat
      have hcolumn := hat.2.trans (congrArg Json.int (Int.add_zero _))
      exact ⟨hat.1.trans (congrArg Json.int hline), hcolumn⟩
    · omega
    · omega

/-- **The covering section answers for all.**  Where the sections of an
    indexed document are laid out in their places, a lookup in the
    flattened document always has an outcome, which is that of the
    section that covers the position, and nothing if none does. -/
theorem sourcePosition_indexed {doc : Json} {sections : List Json} {ms : List Mapping}
    (hsections : doc.get? "sections" = some (.arr sections)) (hms : parse doc = .ok ms)
    (hlaid : AreLaidOut sections) (p : Position) :
    ∃ found, sourcePosition ms (.int p.line) (.int p.column) = .ok found
      ∧ coveringPosition sections p = .ok found := by
  have hplain : ∀ part ∈ sections, hasPlainOffset part = true := fun part hpart =>
    (hlaid.placed part hpart).plain
  obtain ⟨parts, hparts, rfl⟩ : ∃ parts, sections.mapM parseSection = .ok parts
      ∧ parts.flatten = ms := by
    rcases parse_eq_ok hms with ⟨hnone, -⟩ | ⟨others, parts, hsome, hparts, hflat⟩
    · exact nomatch hsections.symm.trans hnone
    · obtain rfl : sections = others := Json.arr.inj (Option.some.inj (hsections.symm.trans hsome))
      exact ⟨parts, hparts, hflat⟩
  have hints : ∀ m ∈ parts.flatten, m.HasIntegerPosition := by
    intro x hx
    obtain ⟨part, _, _, _, m, _, _, rfl⟩ := exists_of_mem_parts hplain hparts hx
    exact ⟨_, _, m.isAt_shifted (offsetOf part)⟩
  unfold coveringPosition
  cases hcovering : covering? sections p with
  | none =>
      have hbehind : ∀ part ∈ sections, ¬offsetOf part ≤ p := fun part hpart hle => by
        have hnone := List.filter_eq_nil_iff.mp (List.getLast?_eq_none_iff.mp hcovering) part hpart
        exact hnone (decide_eq_true hle)
      refine ⟨none, sourcePosition_of_finds hints (.nothing fun m hm => ?_), rfl⟩
      obtain ⟨_, _, start, hsplit, hat, hle, -, -⟩ := wins_iff.mp hm
      have hlt := column_lt_of_behind hlaid.placed hbehind hparts m (by rw [hsplit]; simp) start hat
      omega
  | some part =>
      obtain ⟨before, behind, rfl, hcovers, hbehind⟩ :=
        Ordering.exists_of_getLast?_filter hcovering
      obtain ⟨front, listed, rear, hfront, hlisted, hrear, rfl⟩ :=
        exists_of_mapM_append_cons hparts
      have hpart := hlaid.placed part (List.mem_append_right _ (List.mem_cons_self ..))
      obtain ⟨own, hown, rfl, hownints⟩ := exists_own_of_parseSection hpart.plain hlisted
      obtain ⟨found, hfound, hfinds⟩ := exists_finds hownints
        ((offsetOf part).within p).line ((offsetOf part).within p).column
      have hovertaken := overtaken_of_front
        (fun x hx => hlaid.placed x (List.mem_append_left _ hx)) hlaid.precedes hpart
        (of_decide_eq_true hcovers) hown hfront
      have hstarts := column_lt_of_behind
        (fun x hx => hlaid.placed x (List.mem_append_right _ (List.mem_cons_of_mem _ hx)))
        (fun x hx => of_decide_eq_false (hbehind x hx)) hrear
      refine ⟨found.map (Mapping.shifted (offsetOf part)), sourcePosition_of_finds hints ?_, ?_⟩
      · rw [List.flatten_append, List.flatten_cons]
        exact (hfinds.shifted hownints).congr
          fun m => (wins_append_append_iff hovertaken hstarts).symm
      · show sectionPosition part p = _
        unfold sectionPosition
        rw [bind_of_eq_ok hown]
        exact bind_of_eq_ok hfound

/-- A section at an offset whose document has one source. -/
def sectionAt (line column : Int) (source mappings : String) : Json :=
  .obj [(Text.ofString "offset",
      .obj [(Text.ofString "line", .int line), (Text.ofString "column", .int column)]),
    (Text.ofString "map", .obj [(Text.ofString "version", .int 3),
      (Text.ofString "sources", .arr [.string source]),
      (Text.ofString "mappings", .string mappings)])]

/-- Two sections on one line, of which the second goes on to another
    one. -/
def neighbours : List Json :=
  [sectionAt 0 0 "a.js" "AAAA,IAAA", sectionAt 0 9 "b.js" "AAAA,GAAA;CAAA"]

/-- The document of the two sections. -/
def neighbourDocument : Json :=
  .obj [(Text.ofString "version", .int 3), (Text.ofString "sections", .arr neighbours)]

theorem areLaidOut_neighbours : AreLaidOut neighbours := by
  have hfirst : parse (member (sectionAt 0 0 "a.js" "AAAA,IAAA") "map")
      = .ok [⟨.int 0, .int 0, .string "a.js", .int 0, .int 0, .null⟩,
        ⟨.int 0, .int 4, .string "a.js", .int 0, .int 0, .null⟩] := rfl
  have hsecond : parse (member (sectionAt 0 9 "b.js" "AAAA,GAAA;CAAA") "map")
      = .ok [⟨.int 0, .int 0, .string "b.js", .int 0, .int 0, .null⟩,
        ⟨.int 0, .int 3, .string "b.js", .int 0, .int 0, .null⟩,
        ⟨.int 1, .int 1, .string "b.js", .int 0, .int 0, .null⟩] := rfl
  refine ⟨List.forall_mem_cons.mpr ⟨⟨rfl, by decide, ?_, ?_, fun _ _ => .inl rfl⟩,
    List.forall_mem_singleton.mpr ⟨rfl, by decide, ?_, ?_, ?_⟩⟩,
    .cons_cons ⟨by decide, ?_⟩ (.singleton _)⟩
  · intro own hown
    obtain rfl := Except.ok.inj (hfirst.symm.trans hown)
    decide
  · intro own hown
    obtain rfl := Except.ok.inj (hfirst.symm.trans hown)
    decide
  · intro own hown
    obtain rfl := Except.ok.inj (hsecond.symm.trans hown)
    decide
  · intro own hown
    obtain rfl := Except.ok.inj (hsecond.symm.trans hown)
    decide
  · intro own hown
    obtain rfl := Except.ok.inj (hsecond.symm.trans hown)
    exact .inr ⟨_, List.mem_cons_self .., rfl⟩
  · intro own hown
    obtain rfl := Except.ok.inj (hfirst.symm.trans hown)
    decide

/-- On the shared line and behind it the second section answers. -/
theorem sourcePosition_neighbours :
    ∃ ms, neighbourDocument.get? "sections" = some (.arr neighbours)
      ∧ parse neighbourDocument = .ok ms ∧ AreLaidOut neighbours
      ∧ (∃ found, sourcePosition ms (.int 0) (.int 10) = .ok found
        ∧ coveringPosition neighbours ⟨0, 10⟩ = .ok found)
      ∧ ∃ found, sourcePosition ms (.int 1) (.int 0) = .ok found
        ∧ coveringPosition neighbours ⟨1, 0⟩ = .ok found := by
  obtain ⟨ms, hms⟩ : ∃ ms, parse neighbourDocument = .ok ms := ⟨_, rfl⟩
  exact ⟨ms, rfl, hms, areLaidOut_neighbours,
    sourcePosition_indexed rfl hms areLaidOut_neighbours ⟨0, 10⟩,
    sourcePosition_indexed rfl hms areLaidOut_neighbours ⟨1, 0⟩⟩

end HermesBundle.SourceMap
