import HermesBundle.Proofs.SourceMap.Codes
import HermesBundle.Proofs.Text.Pieces
import HermesBundle.SourceMap.Assembly
import Mathlib.Data.Set.List

/-! # Differences — reading the mappings text undoes writing it

    Writer and reader carry the same references along: the column starts
    anew on each line, the other fields run on across lines, and each of
    them moves only where a segment has it.  The route:

    * a segment is written as the codes of its differences, and those
      differences give the segment back (`segmentOf?_differences`);
    * no code holds a separator, so the pieces that the reader cuts are
      the texts that the writer joined;
    * along a line, and from line to line, the reader has the references
      of the writer (`decodeLine_encodeLine`, `decodeLines_encodeLines`). -/

namespace HermesBundle.SourceMap

namespace Mappings

/-! ## One segment -/

/-- The integers that a segment is written as. -/
def differences (previous : Int) (r : Reference) (s : Segment) : List Int :=
  match s.origin with
  | none => [s.column - previous]
  | some o =>
      [s.column - previous, o.source - r.source, o.line - r.line, o.column - r.column]
        ++ (o.name.map (· - r.name)).toList

/-- A segment is written as the codes of its differences. -/
theorem encodeSegment_eq_codes (previous : Int) (r : Reference) (s : Segment) :
    encodeSegment previous r s = (differences previous r s).flatMap Vlq.encode := by
  obtain ⟨column, origin⟩ := s
  cases origin with
  | none => simp [encodeSegment, differences]
  | some o =>
      obtain ⟨source, line, sourceColumn, name⟩ := o
      cases name with
      | none => simp [encodeSegment, differences]
      | some n => simp [encodeSegment, differences]

/-- The differences of a segment give it back. -/
theorem segmentOf?_differences (previous : Int) (r : Reference) (s : Segment) :
    segmentOf? previous r (differences previous r s) = some s := by
  obtain ⟨column, origin⟩ := s
  cases origin with
  | none => simp [differences, segmentOf?]
  | some o =>
      obtain ⟨source, line, sourceColumn, name⟩ := o
      cases name with
      | none => simp [differences, segmentOf?]
      | some n => simp [differences, segmentOf?]

/-- The text of a segment is not empty. -/
theorem encodeSegment_ne_nil (previous : Int) (r : Reference) (s : Segment) :
    encodeSegment previous r s ≠ [] := by
  intro h
  unfold encodeSegment at h
  exact Vlq.encode_ne_nil _ (List.append_eq_nil_iff.mp h).1

/-- The text of a segment holds no separator. -/
theorem not_separator_of_mem_encodeSegment {previous : Int} {r : Reference} {s : Segment}
    {c : CodePoint} (h : c ∈ encodeSegment previous r s) :
    c ≠ CodePoint.ofChar ',' ∧ c ≠ CodePoint.ofChar ';' := by
  rw [encodeSegment_eq_codes] at h
  obtain ⟨i, -, hc⟩ := List.mem_flatMap.mp h
  obtain ⟨k, hk, rfl⟩ := Vlq.exists_digit_of_mem_encodeNat hc
  exact Vlq.digit_ne_separator hk

/-! ## One line -/

/-- The texts of a line are those of its segments. -/
theorem exists_segment_of_mem_encodeLine {line : List Segment} {previous : Int} {r : Reference}
    {t : Text} (h : t ∈ encodeLine previous r line) :
    ∃ column s r', t = encodeSegment column r' s := by
  induction line generalizing previous r with
  | nil => exact nomatch h
  | cons s rest ih =>
      rcases List.mem_cons.mp h with hhead | hrest
      · exact ⟨previous, s, r, hhead⟩
      · exact ih hrest

/-- Reading the texts of a line gives its segments, and the references
    after them. -/
theorem decodeLine_encodeLine (line : List Segment) (previous : Int) (r : Reference) :
    decodeLine previous r (encodeLine previous r line) = .ok (line, line.foldl after r) := by
  induction line generalizing previous r with
  | nil => rfl
  | cons s rest ih =>
      have hne : (encodeSegment previous r s).isEmpty = false := by
        rw [List.isEmpty_eq_false_iff]
        exact encodeSegment_ne_nil previous r s
      have hcodes : Vlq.decode (encodeSegment previous r s) = .ok (differences previous r s) := by
        rw [Vlq.decode, encodeSegment_eq_codes]
        exact Vlq.decodeFrom_codes _ _
      simp only [encodeLine, decodeLine, hne, hcodes, segmentOf?_differences, ih]
      rfl

/-- A line is read from the text that its segments were joined to.  An
    empty line is one empty piece, which holds nothing. -/
theorem decodeLine_joined (line : List Segment) (r : Reference) :
    decodeLine 0 r ((Text.join "," (encodeLine 0 r line)).splitOn ',')
      = .ok (line, line.foldl after r) := by
  by_cases hline : line = []
  · rw [hline]
    rfl
  · have hne : encodeLine 0 r line ≠ [] := by
      obtain ⟨s, rest, rfl⟩ := List.exists_cons_of_ne_nil hline
      exact List.cons_ne_nil _ _
    have hfree : ∀ t ∈ encodeLine 0 r line, CodePoint.ofChar ',' ∉ t := by
      intro t ht hc
      obtain ⟨column, s, r', rfl⟩ := exists_segment_of_mem_encodeLine ht
      exact (not_separator_of_mem_encodeSegment hc).1 rfl
    have hcut := Text.splitOn_join hne hfree
    show decodeLine 0 r (Text.splitOn _ (Text.join [CodePoint.ofChar ','] _)) = _
    rw [hcut, decodeLine_encodeLine]

/-! ## All lines -/

/-- The text of a line holds no semicolon. -/
theorem semicolon_not_mem_of_mem_encodeLines {lines : List (List Segment)} {r : Reference}
    {t : Text} (h : t ∈ encodeLines r lines) : CodePoint.ofChar ';' ∉ t := by
  induction lines generalizing r with
  | nil => exact nomatch h
  | cons line rest ih =>
      rcases List.mem_cons.mp h with hhead | hrest
      · intro hc
        rw [hhead] at hc
        rcases Text.mem_join hc with hsep | ⟨piece, hpiece, hin⟩
        · exact absurd hsep (by decide)
        · obtain ⟨column, s, r', rfl⟩ := exists_segment_of_mem_encodeLine hpiece
          exact (not_separator_of_mem_encodeSegment hin).2 rfl
      · exact ih hrest

/-- From line to line the reader has the references of the writer. -/
theorem decodeLines_encodeLines (lines : List (List Segment)) (r : Reference) :
    decodeLines r (encodeLines r lines) = .ok lines := by
  induction lines generalizing r with
  | nil => rfl
  | cons line rest ih =>
      simp only [encodeLines, decodeLines, decodeLine_joined, ih]

/-- Lines are read from the text they were written to, if there are any. -/
theorem decode_encode {lines : List (List Segment)} (hne : lines ≠ []) :
    decode (encode lines) = .ok lines := by
  have htexts : encodeLines start lines ≠ [] := by
    obtain ⟨line, rest, rfl⟩ := List.exists_cons_of_ne_nil hne
    exact List.cons_ne_nil _ _
  have hcut := Text.splitOn_join htexts fun t ht => semicolon_not_mem_of_mem_encodeLines ht
  show decodeLines start (Text.splitOn _ (Text.join [CodePoint.ofChar ';'] _)) = _
  rw [hcut, decodeLines_encodeLines]

end Mappings

/-! ## Rows of integers -/

/-- The row that lists some integers. -/
def integerRow (fields : List Int) : Json := .arr (fields.map Json.int)

/-- The rows of each line, as one value. -/
def integerRows (lines : List (List (List Int))) : Json :=
  .arr (lines.map fun line => .arr (line.map integerRow))

/-- The row of a segment stands for that segment. -/
theorem segmentOfRow_fields (previous : Int) (r : Reference) (s : Segment) :
    segmentOfRow previous r (s.fields.map Json.int) = .ok s := by
  obtain ⟨column, origin⟩ := s
  cases origin with
  | none => rfl
  | some o =>
      obtain ⟨source, line, sourceColumn, name⟩ := o
      cases name with
      | none => rfl
      | some n => rfl

/-- The rows of a line stand for its segments. -/
theorem segmentsOfRows_fields (line : List Segment) (previous : Int) (r : Reference) :
    segmentsOfRows previous r (line.map fun s => integerRow s.fields)
      = .ok (line, line.foldl Mappings.after r) := by
  induction line generalizing previous r with
  | nil => rfl
  | cons s rest ih =>
      have hrow : fieldsOf (integerRow s.fields) = .ok (s.fields.map Json.int) := rfl
      simp only [List.map_cons, segmentsOfRows, hrow, segmentOfRow_fields, ih, bind, Except.bind]
      rfl

/-- The rows of lines stand for their segments. -/
theorem segmentsOfLines_fields (lines : List (List Segment)) (r : Reference) :
    segmentsOfLines r (lines.map fun line => .arr (line.map fun s => integerRow s.fields))
      = .ok lines := by
  induction lines generalizing r with
  | nil => rfl
  | cons line rest ih =>
      simp only [List.map_cons, segmentsOfLines, elements, segmentsOfRows_fields, ih, bind,
        Except.bind]
      rfl

/-- The rows of fields stand for the lines of segments they are from. -/
theorem segmentsOfJson_fields (lines : List (List Segment)) :
    segmentsOfJson (integerRows (lines.map (·.map Segment.fields))) = .ok lines := by
  have hlines := segmentsOfLines_fields lines Mappings.start
  simpa [segmentsOfJson, integerRows, elements, bind, Except.bind, Function.comp_def] using hlines

/-- Every row of one, four or five integers is the row of a segment. -/
theorem exists_segment_of_length {row : List Int}
    (h : row.length = 1 ∨ row.length = 4 ∨ row.length = 5) :
    ∃ s : Segment, s.fields = row := by
  match row, h with
  | [column], _ => exact ⟨⟨column, none⟩, rfl⟩
  | [column, source, line, sourceColumn], _ =>
      exact ⟨⟨column, some ⟨source, line, sourceColumn, none⟩⟩, rfl⟩
  | [column, source, line, sourceColumn, name], _ =>
      exact ⟨⟨column, some ⟨source, line, sourceColumn, some name⟩⟩, rfl⟩

/-- Rows of one, four or five integers are the rows of segments. -/
theorem exists_segments_of_lengths {lines : List (List (List Int))}
    (h : ∀ line ∈ lines, ∀ row ∈ line, row.length = 1 ∨ row.length = 4 ∨ row.length = 5) :
    ∃ segments : List (List Segment), segments.map (·.map Segment.fields) = lines := by
  have hlines : ∀ line ∈ lines, line ∈ Set.range (List.map Segment.fields) := by
    intro line hmem
    rw [Set.range_list_map]
    exact fun row hrow => exists_segment_of_length (h line hmem row hrow)
  have hall : lines ∈ Set.range (List.map (List.map Segment.fields)) := by
    rw [Set.range_list_map]
    exact hlines
  exact hall

/-- **Reading undoes writing**: rows of one, four or five integers are
    read back, whatever the integers are, from the text that they are
    written to. -/
theorem decode_encode_integerRows (lines : List (List (List Int))) (hne : lines ≠ [])
    (hlength : ∀ line ∈ lines, ∀ row ∈ line,
      row.length = 1 ∨ row.length = 4 ∨ row.length = 5) :
    ∃ segments, segmentsOfJson (integerRows lines) = .ok segments
      ∧ ∃ back, Mappings.decode (Mappings.encode segments) = .ok back
        ∧ back.map (·.map Segment.fields) = lines := by
  obtain ⟨segments, rfl⟩ := exists_segments_of_lengths hlength
  have hsegments : segments ≠ [] := fun h => hne (by rw [h]; rfl)
  exact ⟨segments, segmentsOfJson_fields segments, segments, Mappings.decode_encode hsegments, rfl⟩

/-- Lines with negative and large integers, and an empty line between
    them. -/
theorem decode_encode_mixed_rows :
    ∃ segments,
      segmentsOfJson (integerRows [[[-7], [3, 0, -2, 5]], [], [[12345678901, 1, 0, -1, -4]]])
          = .ok segments
        ∧ ∃ back, Mappings.decode (Mappings.encode segments) = .ok back
          ∧ back.map (·.map Segment.fields)
            = [[[-7], [3, 0, -2, 5]], [], [[12345678901, 1, 0, -1, -4]]] :=
  decode_encode_integerRows _ (List.cons_ne_nil _ _) (by decide)

end HermesBundle.SourceMap
