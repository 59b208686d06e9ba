import HermesBundle.Proofs.SourceMap.Differences
import HermesBundle.Proofs.SourceMap.Grammar

/-! # Canonical texts — which mappings texts are written back as they are

    The writer has one text for every list of lines, the reader accepts
    many.  A text that is read comes back from the writer exactly if it
    has no empty piece beside others and each of its codes is canonical
    (`encode_eq_iff_isCanonicalText`).  The route:

    * the writer gives a number its digits and no zero behind them, and
      it has one zero, the positive one (`encode_integerOf_iff`);
    * the differences that are written are the integers that were read,
      so every piece is written anew from its own codes, whatever stands
      in front of it (`encodeLine_eq_map_recoded`);
    * codes and pieces can be told apart, so that the whole text comes
      back only if each of them does. -/

namespace HermesBundle.SourceMap

namespace Vlq

/-! ## Canonical codes -/

/-- Whether a code is one that is written: a single digit other than that
    of the negative zero, or several of which the last is not zero. -/
def IsCanonical (code : Text) : Prop :=
  (code.length = 1 ∧ code ≠ [CodePoint.ofChar 'B'])
    ∨ (2 ≤ code.length ∧ code.getLast? ≠ some (CodePoint.ofChar 'A'))

instance (code : Text) : Decidable (IsCanonical code) :=
  inferInstanceAs (Decidable ((code.length = 1 ∧ code ≠ [CodePoint.ofChar 'B'])
    ∨ (2 ≤ code.length ∧ code.getLast? ≠ some (CodePoint.ofChar 'A'))))

/-- The number of a code has the digits of the code unless the last of
    several is zero. -/
theorem encodeNat_numberOf_iff {code : Text} (h : IsCode code) :
    encodeNat (numberOf code) = code
      ↔ code.length = 1 ∨ code.getLast? ≠ some (CodePoint.ofChar 'A') := by
  induction h with
  | single hd =>
      rw [numberOf_single hd, encodeNat_small hd]
      exact iff_of_true rfl (.inl rfl)
  | @next d rest hd hrest ih =>
      have hlength : ¬(digit (d + 32) :: rest).length = 1 := by
        have := List.length_pos_of_ne_nil hrest.ne_nil
        rw [List.length_cons]
        omega
      rw [numberOf_cons (by omega), Nat.add_mod_right, Nat.mod_eq_of_lt hd,
        List.getLast?_cons_of_ne_nil hrest.ne_nil, or_iff_right hlength]
      by_cases hzero : numberOf rest = 0
      · -- the digits behind the first are zeros, and the number has one digit
        rw [hzero, Nat.mul_zero, Nat.add_zero, encodeNat_small hd]
        refine iff_of_false (fun heq => hlength (heq ▸ rfl)) fun hlast => hlast ?_
        have hback := ih.mpr (.inr hlast)
        rw [hzero, encodeNat_small (by decide)] at hback
        rw [← hback]
        rfl
      · have hmod : (d + 32 * numberOf rest) % 32 = d := by omega
        have hdiv : (d + 32 * numberOf rest) / 32 = numberOf rest := by omega
        rw [encodeNat_large (by omega), hmod, hdiv, List.cons_inj_right, ih]
        refine or_iff_right_of_imp fun hone hlast => hzero ?_
        obtain ⟨c, rfl⟩ := List.length_eq_one_iff.mp hone
        obtain rfl : c = CodePoint.ofChar 'A' := Option.some.inj hlast
        decide +kernel

/-- A number whose sign was taken from the lowest bit comes back unless it
    is the negative zero. -/
theorem foldSign_unfoldSign (n : Nat) : foldSign (unfoldSign n) = if n = 1 then 0 else n := by
  unfold foldSign unfoldSign
  split <;> split <;> split <;> omega

/-- **The integer of a code is written as that code** exactly if the code
    is canonical. -/
theorem encode_integerOf_iff {code : Text} (h : IsCode code) :
    encode (integerOf code) = code ↔ IsCanonical code := by
  have hdigits := encodeNat_numberOf_iff h
  unfold encode integerOf
  rw [foldSign_unfoldSign]
  by_cases hone : numberOf code = 1
  · rw [if_pos hone, encodeNat_small (by decide)]
    -- the negative zero is written as the positive one, and no canonical
    -- code has its number
    refine iff_of_false (fun heq => ?_) ?_
    · rw [← heq] at hone
      exact absurd hone (by decide +kernel)
    · rw [hone, encodeNat_small (by decide)] at hdigits
      rintro (⟨hlength, hother⟩ | ⟨hlength, hlast⟩)
      · exact hother (hdigits.mpr (.inl hlength)).symm
      · have hback := hdigits.mpr (.inr hlast)
        rw [← hback] at hlength
        exact absurd hlength (by decide)
  · rw [if_neg hone, hdigits]
    have hpos := List.length_pos_of_ne_nil h.ne_nil
    constructor
    · intro hshort
      by_cases hlength : code.length = 1
      · refine .inl ⟨hlength, ?_⟩
        rintro rfl
        exact hone (by decide +kernel)
      · exact .inr ⟨by omega, hshort.resolve_left hlength⟩
    · rintro (⟨hlength, -⟩ | ⟨-, hlast⟩)
      · exact .inl hlength
      · exact .inr hlast

/-! ## Texts that are written anew -/

/-- The text that the integers of a text are written to. -/
def recoded (t : Text) : Text := (integers t).flatMap encode

theorem recoded_eq (t : Text) : recoded t = ((codes t).map (encode ∘ integerOf)).flatten := by
  unfold recoded integers
  rw [List.flatMap_map]
  rfl

/-- A closed text is written anew as it is if its codes are canonical. -/
theorem recoded_eq_self_iff {t : Text} (h : IsClosed t) :
    recoded t = t ↔ ∀ code ∈ codes t, IsCanonical code := by
  have heach : (∀ code ∈ codes t, IsCanonical code)
      ↔ (codes t).map (encode ∘ integerOf) = (codes t).map id := by
    rw [List.map_inj_left]
    exact forall₂_congr fun code hcode =>
      (encode_integerOf_iff (isCode_of_mem_codes h code hcode)).symm
  rw [heach, List.map_id]
  constructor
  · intro heq
    have hcodes : codes (recoded t) = (codes t).map (encode ∘ integerOf) := by
      unfold recoded integers
      rw [codes_flatMap_encode, List.map_map]
    rw [← hcodes, heq]
  · intro heq
    rw [recoded_eq, heq, codes_flatten]

end Vlq

namespace Mappings

open Vlq

/-! ## Pieces -/

/-- The differences of a segment are the integers that it was read from. -/
theorem differences_of_segmentOf? {previous : Int} {r : Reference} {fields : List Int}
    {s : Segment} (h : segmentOf? previous r fields = some s) : differences previous r s = fields := by
  unfold segmentOf? at h
  split at h
  · obtain rfl := Option.some.inj h
    simp [differences]
  · obtain rfl := Option.some.inj h
    simp [differences]
  · obtain rfl := Option.some.inj h
    simp [differences]
  · cases h

/-- **Along a line** each piece that is not empty is written anew from its
    own codes, and the references are those of the reader. -/
theorem encodeLine_eq_map_recoded {pieces : List Text} {previous : Int} {r last : Reference}
    {segments : List Segment} (h : decodeLine previous r pieces = .ok (segments, last)) :
    encodeLine previous r segments = (pieces.filter fun piece => !piece.isEmpty).map recoded
      ∧ segments.foldl after r = last := by
  induction pieces generalizing previous r last segments with
  | nil =>
      obtain ⟨rfl, rfl⟩ := Prod.mk.inj (Except.ok.inj h)
      exact ⟨rfl, rfl⟩
  | cons piece rest ih =>
      rw [decodeLine] at h
      split at h
      · rename_i hempty
        rw [List.filter_cons_of_neg (by rw [hempty]; decide)]
        exact ih h
      · rename_i hfull
        have hne : piece ≠ [] := fun hnil => hfull (by rw [hnil]; rfl)
        rw [List.filter_cons_of_pos (by simpa using hfull), List.map_cons]
        split at h
        · cases h
        · rename_i fields hfields
          obtain ⟨-, rfl⟩ := (decode_eq_ok_iff hne).mp hfields
          split at h
          · cases h
          · rename_i s hsegment
            split at h
            · cases h
            · rename_i more next hrest
              obtain ⟨rfl, rfl⟩ := Prod.mk.inj (Except.ok.inj h)
              obtain ⟨htexts, hlast⟩ := ih hrest
              refine ⟨?_, hlast⟩
              rw [encodeLine, htexts, encodeSegment_eq_codes, differences_of_segmentOf? hsegment]
              rfl

/-! ## Lines -/

/-- The text that a line is written to after it was read. -/
def recodedLine (line : Text) : Text := Text.join "," ((segmentPieces line).map recoded)

/-- The lines that are written are those that were read, written anew. -/
theorem encodeLines_eq_map_recodedLine {texts : List Text} {r : Reference}
    {lines : List (List Segment)} (h : decodeLines r texts = .ok lines) :
    encodeLines r lines = texts.map recodedLine := by
  induction texts generalizing r lines with
  | nil =>
      obtain rfl := Except.ok.inj h
      rfl
  | cons line rest ih =>
      rw [decodeLines] at h
      split at h
      · cases h
      · rename_i segments next hline
        split at h
        · cases h
        · rename_i more hmore
          obtain rfl := Except.ok.inj h
          obtain ⟨htexts, rfl⟩ := encodeLine_eq_map_recoded hline
          rw [encodeLines, htexts, ih hmore]
          rfl

/-- Whether a line is empty or has no empty piece, and all its codes are
    canonical. -/
structure IsCanonicalLine (line : Text) : Prop where
  full : line = [] ∨ ∀ piece ∈ line.splitOn ',', piece ≠ []
  codes : ∀ piece ∈ line.splitOn ',', ∀ code ∈ Vlq.codes piece, IsCanonical code

instance (line : Text) : Decidable (IsCanonicalLine line) :=
  decidable_of_iff ((line = [] ∨ ∀ piece ∈ line.splitOn ',', piece ≠ [])
      ∧ ∀ piece ∈ line.splitOn ',', ∀ code ∈ Vlq.codes piece, IsCanonical code)
    ⟨fun h => ⟨h.1, h.2⟩, fun h => ⟨h.full, h.codes⟩⟩

/-- What is written for pieces holds no comma. -/
theorem comma_not_mem_recoded (piece : Text) : CodePoint.ofChar ',' ∉ recoded piece := by
  intro h
  obtain ⟨i, -, hi⟩ := List.mem_flatMap.mp h
  obtain ⟨k, hk, heq⟩ := exists_digit_of_mem_encodeNat hi
  exact (digit_ne_separator hk).1 heq.symm

/-- If a line that is not empty is written anew as it is, then so is each
    of its pieces. -/
theorem map_recoded_of_recodedLine {line : Text} (hne : line ≠ [])
    (h : recodedLine line = line) : (segmentPieces line).map recoded = line.splitOn ',' := by
  have hpieces : (segmentPieces line).map recoded ≠ [] := by
    intro hnil
    unfold recodedLine at h
    rw [hnil] at h
    exact hne h.symm
  have hcut : ((segmentPieces line).map recoded) = (recodedLine line).splitOn ',' := by
    refine (Text.splitOn_join hpieces fun t ht => ?_).symm
    obtain ⟨piece, -, rfl⟩ := List.mem_map.mp ht
    exact comma_not_mem_recoded piece
  rw [hcut, h]

/-- **A line is written anew as it is** exactly if it is canonical. -/
theorem recodedLine_eq_self_iff {line : Text}
    (hformed : ∀ piece ∈ line.splitOn ',', piece ≠ [] → IsSegmentText piece) :
    recodedLine line = line ↔ IsCanonicalLine line := by
  by_cases hne : line = []
  · subst hne
    refine iff_of_true rfl ⟨.inl rfl, fun piece hpiece => ?_⟩
    rw [List.mem_singleton.mp hpiece]
    exact fun code hcode => nomatch hcode
  · have hrecoded : ∀ piece ∈ line.splitOn ',', piece ≠ [] →
        (recoded piece = piece ↔ ∀ code ∈ Vlq.codes piece, IsCanonical code) :=
      fun piece hpiece hfull => recoded_eq_self_iff (hformed piece hpiece hfull).isClosed
    constructor
    · intro h
      have hmap := map_recoded_of_recodedLine hne h
      have hlength : (segmentPieces line).length = (line.splitOn ',').length := by
        rw [← hmap, List.length_map]
      -- as many pieces were written as were cut, so none of them was empty
      have hall : segmentPieces line = line.splitOn ',' :=
        List.filter_sublist.eq_of_length hlength
      have hfull : ∀ piece ∈ line.splitOn ',', piece ≠ [] := by
        intro piece hpiece hnil
        rw [← hall, hnil] at hpiece
        exact nomatch (List.mem_filter.mp hpiece).2
      refine ⟨.inr hfull, fun piece hpiece => ?_⟩
      rw [hall] at hmap
      have hsame := List.map_inj_left.mp (hmap.trans (List.map_id _).symm) piece hpiece
      exact (hrecoded piece hpiece (hfull piece hpiece)).mp hsame
    · intro h
      have hfull := h.full.resolve_left hne
      have hall : segmentPieces line = line.splitOn ',' := by
        refine List.filter_eq_self.mpr fun piece hpiece => ?_
        simpa using hfull piece hpiece
      have hmap : (line.splitOn ',').map recoded = (line.splitOn ',').map id :=
        List.map_congr_left fun piece hpiece =>
          (hrecoded piece hpiece (hfull piece hpiece)).mpr (h.codes piece hpiece)
      unfold recodedLine
      rw [hall, hmap, List.map_id]
      exact Text.join_splitOn _ line

/-! ## The whole text -/

/-- Whether each line of a mappings text is canonical. -/
def IsCanonicalText (t : Text) : Prop := ∀ line ∈ t.splitOn ';', IsCanonicalLine line

/-- **Canonical texts are written back as they are**, and of the texts
    that are read no others are.  The rows of fields that were read stand
    for the lines that are written. -/
theorem encode_eq_iff_isCanonicalText {t : Text} {lines : List (List Segment)}
    (h : decode t = .ok lines) :
    segmentsOfJson (integerRows (lines.map (·.map Segment.fields))) = .ok lines
      ∧ (encode lines = t ↔ IsCanonicalText t) := by
  refine ⟨segmentsOfJson_fields lines, ?_⟩
  have hformed : IsWellFormed t := isSegmentText_of_decodeLines h
  have htexts : encodeLines start lines = (t.splitOn ';').map recodedLine :=
    encodeLines_eq_map_recodedLine h
  have hcut : (encode lines).splitOn ';' = (t.splitOn ';').map recodedLine := by
    rw [← htexts]
    refine Text.splitOn_join ?_ fun text htext => semicolon_not_mem_of_mem_encodeLines htext
    rw [htexts, Ne, List.map_eq_nil_iff]
    exact Text.splitOn_ne_nil _ t
  have hline : IsCanonicalText t ↔ (t.splitOn ';').map recodedLine = (t.splitOn ';').map id := by
    rw [List.map_inj_left]
    exact forall₂_congr fun line hmem => (recodedLine_eq_self_iff (hformed line hmem)).symm
  rw [hline, List.map_id, ← hcut]
  constructor
  · intro heq
    rw [heq]
  · intro heq
    rw [← Text.join_splitOn (CodePoint.ofChar ';') (encode lines), heq, Text.join_splitOn]

instance (t : Text) : Decidable (IsCanonicalText t) :=
  inferInstanceAs (Decidable (∀ line ∈ t.splitOn ';', IsCanonicalLine line))

/-- A text with an empty line, codes of two digits and negative fields. -/
def spacedText : Text := "AAgBC,CDDDC;;gB"

/-- What it is read as. -/
def spacedLines : List (List Segment) :=
  [[⟨0, some ⟨0, 16, 1, none⟩⟩, ⟨1, some ⟨-1, 15, 0, some 1⟩⟩], [], [⟨16, none⟩]]

theorem encode_eq_iff_isCanonicalText_spaced :
    decode spacedText = .ok spacedLines
      ∧ segmentsOfJson (integerRows (spacedLines.map (·.map Segment.fields))) = .ok spacedLines
      ∧ encode spacedLines = spacedText := by
  have hread : decode spacedText = .ok spacedLines := by rfl
  obtain ⟨hrows, hback⟩ := encode_eq_iff_isCanonicalText hread
  exact ⟨hread, hrows, hback.mpr (by decide +kernel)⟩

end Mappings

end HermesBundle.SourceMap
