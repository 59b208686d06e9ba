import HermesBundle.Proofs.SourceMap.Codes
import HermesBundle.Proofs.SourceMap.Unchecked
import HermesBundle.Proofs.Text.Pieces

/-! # Grammar — which mappings texts are read, and as what

    A mappings text is cut into lines and these into pieces; the pieces
    that are not empty are the texts of segments.  It is read exactly if
    each of them is closed and has one, four or five codes
    (`IsWellFormed`), and then every field of a segment is a sum
    (`meaning`): the column over the pieces of its line, every other
    field over the pieces of the whole text that have it.  The route:

    * the reader's references are such sums at every piece, since each
      piece adds its own field (`total_concat`, `segmentOf?_integers`);
    * along a line and from line to line the sums go on
      (`decodeLine_meant`, `decodeLines_meant`);
    * a piece that is no segment text stops the reader with a fault that
      is reported. -/

namespace HermesBundle.SourceMap.Mappings

open Vlq

/-! ## Segment texts -/

/-- Whether a text is that of a segment: it consists of digits, ends in
    one that closes a code, and has one, four or five such. -/
structure IsSegmentText (piece : Text) : Prop where
  digits : ∀ c ∈ piece, c ∈ alphabet
  ends : EndsCode piece
  fields : piece.countP closes = 1 ∨ piece.countP closes = 4 ∨ piece.countP closes = 5

/-- Whether every piece of a mappings text that is not empty is the text
    of a segment. -/
def IsWellFormed (t : Text) : Prop :=
  ∀ line ∈ t.splitOn ';', ∀ piece ∈ line.splitOn ',', piece ≠ [] → IsSegmentText piece

theorem IsSegmentText.isClosed {piece : Text} (h : IsSegmentText piece) : IsClosed piece :=
  isClosed_iff.mpr ⟨h.digits, h.ends⟩

theorem isSegmentText_iff {piece : Text} :
    IsSegmentText piece ↔ IsClosed piece ∧ ((integers piece).length = 1
      ∨ (integers piece).length = 4 ∨ (integers piece).length = 5) := by
  unfold integers
  rw [List.length_map]
  constructor
  · intro h
    rw [length_codes h.isClosed]
    exact ⟨h.isClosed, h.fields⟩
  · rintro ⟨hclosed, hlength⟩
    rw [length_codes hclosed] at hlength
    exact ⟨(isClosed_iff.mp hclosed).1, (isClosed_iff.mp hclosed).2, hlength⟩

/-! ## Sums of fields -/

/-- The sum of the fields of a kind over the pieces that have one; fields
    are counted from 0. -/
def total (k : Nat) (pieces : List Text) : Int :=
  (pieces.filterMap fun piece => (integers piece)[k]?).sum

/-- The segment that a piece stands for, given the pieces of its line and
    those of the text, both up to the piece. -/
def segmentMeant (line text : List Text) (piece : Text) : Segment :=
  ⟨total 0 line,
    match (integers piece).length with
    | 4 => some ⟨total 1 text, total 2 text, total 3 text, none⟩
    | 5 => some ⟨total 1 text, total 2 text, total 3 text, some (total 4 text)⟩
    | _ => none⟩

/-- The segments of a line behind some pieces of the text. -/
def lineMeant (before pieces : List Text) : List Segment :=
  pieces.mapIdx fun j piece =>
    segmentMeant (pieces.take (j + 1)) (before ++ pieces.take (j + 1)) piece

/-- The segments of lines, each of which is given by its pieces. -/
def linesMeant (lines : List (List Text)) : List (List Segment) :=
  lines.mapIdx fun i pieces => lineMeant (lines.take i).flatten pieces

/-- What a mappings text means: the segments of the pieces of its lines
    that are not empty. -/
def meaning (t : Text) : List (List Segment) := linesMeant ((t.splitOn ';').map segmentPieces)

/-- The references behind some pieces. -/
def referenceAfter (pieces : List Text) : Reference :=
  ⟨total 1 pieces, total 2 pieces, total 3 pieces, total 4 pieces⟩

/-- A piece adds its own field, if it has one. -/
theorem total_concat (k : Nat) (pieces : List Text) (piece : Text) :
    total k (pieces ++ [piece]) = total k pieces + ((integers piece)[k]?).getD 0 := by
  unfold total
  rw [List.filterMap_append, List.sum_append]
  cases h : (integers piece)[k]? with
  | none => simp [h]
  | some i => simp [h]

/-- The fields of a piece, added to the references in front of it, give
    the segment that the piece stands for. -/
theorem segmentOf?_integers (line text : List Text) {piece : Text} (h : IsSegmentText piece) :
    segmentOf? (total 0 line) (referenceAfter text) (integers piece)
        = some (segmentMeant (line ++ [piece]) (text ++ [piece]) piece)
      ∧ after (referenceAfter text) (segmentMeant (line ++ [piece]) (text ++ [piece]) piece)
        = referenceAfter (text ++ [piece]) := by
  obtain ⟨-, hlength⟩ := isSegmentText_iff.mp h
  unfold segmentMeant referenceAfter
  simp only [total_concat]
  generalize integers piece = fields at hlength ⊢
  match fields, hlength with
  | [column], _ => simp [segmentOf?, after]
  | [column, source, line, sourceColumn], _ => simp [segmentOf?, after, advance]
  | [column, source, line, sourceColumn, name], _ => simp [segmentOf?, after, advance]

/-! ## Lines -/

/-- Pieces that are empty are passed over. -/
theorem decodeLine_filter (previous : Int) (r : Reference) (pieces : List Text) :
    decodeLine previous r (pieces.filter fun piece => !piece.isEmpty)
      = decodeLine previous r pieces := by
  induction pieces generalizing previous r with
  | nil => rfl
  | cons piece rest ih =>
      cases hempty : piece.isEmpty with
      | true =>
          rw [List.filter_cons_of_neg (by rw [hempty]; decide), ih, decodeLine, if_pos hempty]
      | false =>
          rw [List.filter_cons_of_pos (by rw [hempty]; decide), decodeLine, decodeLine]
          simp only [hempty, Bool.false_eq_true, if_false, ih]

/-- **Along a line** the sums go on: the pieces give the segments that
    they stand for behind those in front of them. -/
theorem decodeLine_meant (line text : List Text) {pieces : List Text}
    (h : ∀ piece ∈ pieces, IsSegmentText piece) :
    decodeLine (total 0 line) (referenceAfter text) pieces
      = .ok (pieces.mapIdx fun j piece =>
          segmentMeant (line ++ pieces.take (j + 1)) (text ++ pieces.take (j + 1)) piece,
        referenceAfter (text ++ pieces)) := by
  -- the pieces that were read move from `pieces` to `line` and `text`
  induction pieces generalizing line text with
  | nil =>
      rw [List.append_nil]
      rfl
  | cons piece rest ih =>
      obtain ⟨hpiece, hrest⟩ := List.forall_mem_cons.mp h
      have hne : piece ≠ [] := hpiece.isClosed.ne_nil
      have hempty : ¬piece.isEmpty = true := by rwa [List.isEmpty_iff]
      have hread : Vlq.decode piece = .ok (integers piece) :=
        (decode_eq_ok_iff hne).mpr ⟨hpiece.isClosed, rfl⟩
      obtain ⟨hsegment, hafter⟩ := segmentOf?_integers line text hpiece
      have hmore := ih (line ++ [piece]) (text ++ [piece]) hrest
      rw [decodeLine, if_neg hempty, hread]
      dsimp only
      rw [hsegment]
      dsimp only
      rw [hafter, show (segmentMeant (line ++ [piece]) (text ++ [piece]) piece).column
        = total 0 (line ++ [piece]) from rfl, hmore, List.mapIdx_cons]
      simp only [List.take_succ_cons, List.take_zero, List.append_assoc, List.singleton_append]

/-- Only one, four or five fields make a segment. -/
theorem length_of_segmentOf? {previous : Int} {r : Reference} {fields : List Int} {s : Segment}
    (h : segmentOf? previous r fields = some s) :
    fields.length = 1 ∨ fields.length = 4 ∨ fields.length = 5 := by
  unfold segmentOf? at h
  split at h
  · exact .inl rfl
  · exact .inr (.inl rfl)
  · exact .inr (.inr rfl)
  · cases h

/-- Pieces that are not empty are read only if they are texts of
    segments. -/
theorem isSegmentText_of_decodeLine {pieces : List Text} {previous : Int} {r last : Reference}
    {segments : List Segment} (h : decodeLine previous r pieces = .ok (segments, last)) :
    ∀ piece ∈ pieces, piece ≠ [] → IsSegmentText piece := by
  induction pieces generalizing previous r last segments with
  | nil => exact fun piece hpiece => nomatch hpiece
  | cons piece rest ih =>
      rw [decodeLine] at h
      split at h
      · rename_i hempty
        refine List.forall_mem_cons.mpr ⟨fun hne => ?_, ih h⟩
        exact absurd (List.isEmpty_iff.mp hempty) hne
      · split at h
        · cases h
        · rename_i fields hfields
          split at h
          · cases h
          · rename_i s hsegment
            split at h
            · cases h
            · rename_i hrest
              refine List.forall_mem_cons.mpr ⟨fun hne => ?_, ih hrest⟩
              obtain ⟨hclosed, rfl⟩ := (decode_eq_ok_iff hne).mp hfields
              exact isSegmentText_iff.mpr ⟨hclosed, length_of_segmentOf? hsegment⟩

/-! ## All lines -/

/-- The segments of the pieces of a line. -/
theorem decodeLine_lineMeant (before : List Text) {line : Text}
    (h : ∀ piece ∈ line.splitOn ',', piece ≠ [] → IsSegmentText piece) :
    decodeLine 0 (referenceAfter before) (line.splitOn ',')
      = .ok (lineMeant before (segmentPieces line),
        referenceAfter (before ++ segmentPieces line)) := by
  have hpieces : ∀ piece ∈ segmentPieces line, IsSegmentText piece := by
    intro piece hpiece
    obtain ⟨hmem, hfull⟩ := List.mem_filter.mp hpiece
    refine h piece hmem fun hnil => ?_
    rw [hnil] at hfull
    exact nomatch hfull
  rw [← decodeLine_filter]
  exact decodeLine_meant [] before hpieces

/-- **From line to line** the sums go on, those of the columns apart. -/
theorem decodeLines_meant (before : List Text) {texts : List Text}
    (h : ∀ line ∈ texts, ∀ piece ∈ line.splitOn ',', piece ≠ [] → IsSegmentText piece) :
    decodeLines (referenceAfter before) texts
      = .ok ((texts.map segmentPieces).mapIdx fun i pieces =>
          lineMeant (before ++ ((texts.map segmentPieces).take i).flatten) pieces) := by
  induction texts generalizing before with
  | nil => rfl
  | cons line rest ih =>
      obtain ⟨hline, hrest⟩ := List.forall_mem_cons.mp h
      have hmore := ih (before ++ segmentPieces line) hrest
      rw [decodeLines, decodeLine_lineMeant before hline]
      dsimp only
      rw [hmore, List.map_cons, List.mapIdx_cons]
      simp only [List.take_zero, List.flatten_nil, List.append_nil, List.take_succ_cons,
        List.flatten_cons, List.append_assoc]

theorem isSegmentText_of_decodeLines {texts : List Text} {r : Reference}
    {lines : List (List Segment)} (h : decodeLines r texts = .ok lines) :
    ∀ line ∈ texts, ∀ piece ∈ line.splitOn ',', piece ≠ [] → IsSegmentText piece := by
  induction texts generalizing r lines with
  | nil => exact fun line hline => nomatch hline
  | cons line rest ih =>
      rw [decodeLines] at h
      split at h
      · cases h
      · rename_i segments next hline
        split at h
        · cases h
        · rename_i more hmore
          exact List.forall_mem_cons.mpr ⟨isSegmentText_of_decodeLine hline, ih hmore⟩

/-- A mappings text that is well formed is read as what it means. -/
theorem decode_of_isWellFormed {t : Text} (h : IsWellFormed t) : decode t = .ok (meaning t) := by
  have hlines := decodeLines_meant [] h
  simp only [List.nil_append] at hlines
  exact hlines

/-- **The grammar of mappings texts**: a text is read exactly if it is
    well formed, namely as the sums of its fields, and any other text is
    reported.  It has one line more than semicolons. -/
theorem decode_eq_ok_iff_isWellFormed (t : Text) :
    (∀ lines, decode t = .ok lines ↔ IsWellFormed t ∧ lines = meaning t)
      ∧ ((∃ fault, decode t = .error fault ∧ fault.IsReported) ↔ ¬IsWellFormed t)
      ∧ (meaning t).length = t.count (CodePoint.ofChar ';') + 1 := by
  refine ⟨fun lines => ⟨fun h => ?_, ?_⟩, ⟨?_, fun h => ?_⟩, ?_⟩
  · have hformed : IsWellFormed t := isSegmentText_of_decodeLines h
    rw [decode_of_isWellFormed hformed] at h
    exact ⟨hformed, (Except.ok.inj h).symm⟩
  · rintro ⟨hformed, rfl⟩
    exact decode_of_isWellFormed hformed
  · rintro ⟨fault, hfault, -⟩ hformed
    rw [decode_of_isWellFormed hformed] at hfault
    exact nomatch hfault
  · cases hdecode : decode t with
    | ok lines => exact absurd (isSegmentText_of_decodeLines hdecode) h
    | error fault => exact ⟨fault, rfl, failsOnly_decode t fault hdecode⟩
  · unfold meaning linesMeant
    rw [List.length_mapIdx, List.length_map, Text.length_splitOn]

example : meaning "AAgBC,,C;IACDA,BDDD" =
    [[⟨0, some ⟨0, 16, 1, none⟩⟩, ⟨1, none⟩],
      [⟨4, some ⟨0, 17, 0, some 0⟩⟩, ⟨4, some ⟨-1, 16, -1, none⟩⟩]] := by decide +kernel

end HermesBundle.SourceMap.Mappings
