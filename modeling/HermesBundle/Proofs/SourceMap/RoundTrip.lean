import HermesBundle.Proofs.SourceMap.Arrangement
import HermesBundle.Proofs.SourceMap.Differences
import HermesBundle.Proofs.SourceMap.PlainMapping
import HermesBundle.Proofs.SourceMap.Reading

/-! # Round trip — a document says what it was assembled from

    Plain mappings on lines from 0 on can always be assembled, and the
    document lists them again: in the order of their positions, those
    without a place in a source reduced to the position.  The route:

    * assembling them gives one known document (`assemble_toMapping`),
      whose rows are the segments of the mappings;
    * reading a segment with the tables it was written for gives its
      mapping back (`place_segment`);
    * the lines, one after another, are the mappings in order.

    What a document lists is settled and in order, so assembling it once
    more changes nothing. -/

namespace HermesBundle.SourceMap

open Outcome

namespace PlainMapping

variable {m : PlainMapping} {ms : List PlainMapping}

/-! ## What is written -/

/-- The mapping with its line found fit to be written. -/
def placed (m : PlainMapping) : Placed :=
  ⟨m.line.toNat, .int m.column,
    if m.isLocated then
      some ⟨textValue m.source, integerValue m.sourceLine, integerValue m.sourceColumn,
        textValue m.name⟩
    else none⟩

/-- The segment of a mapping, with indices into the tables. -/
def segment (sources names : List Json) (m : PlainMapping) : Segment :=
  ⟨m.column,
    match m.source, m.sourceLine, m.sourceColumn with
    | some source, some line, some column =>
        some ⟨indexIn sources (.str source), line, column,
          m.name.map fun name => indexIn names (.str name)⟩
    | _, _, _ => none⟩

/-- The sources that mappings refer to. -/
def sources (ms : List PlainMapping) : List Json := sourceTable (ms.map placed)

/-- The names that mappings carry. -/
def names (ms : List PlainMapping) : List Json := nameTable (ms.map placed)

/-- The segments of each line. -/
def segmentLines (ms : List PlainMapping) : List (List Segment) :=
  (List.range (lineCount (ms.map placed))).map fun i =>
    (ms.filter fun m => m.line.toNat == i).map (segment (sources ms) (names ms))

/-- The document that mappings are assembled to. -/
def assembly (ms : List PlainMapping) (file : Json) (contents : Json.Table Json) : Assembled :=
  let ordered := sorted ms
  ⟨file, sources ordered, contentsFor contents (sources ordered), names ordered,
    Mappings.encode (segmentLines ordered)⟩

/-- A mapping without a place in a source has a segment without. -/
theorem segment_of_not_located (sources names : List Json) (h : m.isLocated = false) :
    segment sources names m = ⟨m.column, none⟩ := by
  obtain ⟨line, column, source, sourceLine, sourceColumn, name⟩ := m
  unfold segment
  split
  · exact absurd h (by simp_all [isLocated])
  · rfl

@[simp] theorem textValue_isScalar (t : Option Text) : (textValue t).isScalar = true := by
  cases t with
  | none => rfl
  | some t => rfl

/-- A mapping on a line from 0 on is fit to be written. -/
theorem placedOf_toMapping (count : Nat) (h : 0 ≤ m.line) :
    placedOf count m.toMapping = .ok m.placed := by
  have hline : m.toMapping.line.toInt? = some m.line := rfl
  have hreached : ¬isUnreachable m.toMapping.line = true := Bool.false_ne_true
  have hscalar : (m.toMapping.source.isScalar && m.toMapping.name.isScalar) = true := by
    simp [toMapping]
  unfold placedOf
  rw [if_neg hreached, hline]
  simp only [hscalar, Bool.not_true, Bool.and_false, Bool.false_eq_true, if_false,
    if_neg (show ¬m.line < -(count : Int) by omega), if_neg (show ¬m.line < 0 by omega),
    toMapping_isLocated]
  rfl

/-- Mappings on lines from 0 on are fit to be written. -/
theorem placeAll_toMapping (count : Nat) (h : ∀ m ∈ ms, 0 ≤ m.line) :
    placeAll count (ms.map toMapping) = .ok (ms.map placed) := by
  induction ms generalizing count with
  | nil => rfl
  | cons m rest ih =>
      rw [List.map_cons, placeAll,
        bind_of_eq_ok (placedOf_toMapping count (h m (List.mem_cons_self ..))),
        bind_of_eq_ok (ih _ fun x hx => h x (List.mem_cons_of_mem _ hx))]
      rfl

/-- Of mappings in order none is fit to be written if the first is on a
    line below 0. -/
theorem line_nonneg_of_placeAll {ps : List Placed}
    (hsorted : ms.Pairwise fun a b => notAfter a b = true)
    (h : placeAll 0 (ms.map toMapping) = .ok ps) : ∀ m ∈ ms, 0 ≤ m.line := by
  cases ms with
  | nil => exact fun m hm => nomatch hm
  | cons first rest =>
      obtain ⟨p, hp, -⟩ := bind_eq_ok.mp h
      have hfirst : 0 ≤ first.line := by
        by_contra hneg
        have hline : first.toMapping.line.toInt? = some first.line := rfl
        have hreached : ¬isUnreachable first.toMapping.line = true := Bool.false_ne_true
        unfold placedOf at hp
        rw [if_neg hreached, hline] at hp
        simp only [if_pos (show first.line < -((0 : Nat) : Int) by omega)] at hp
        split at hp
        · exact nomatch hp
        · exact nomatch hp
      intro m hm
      rcases List.mem_cons.mp hm with rfl | hrest
      · exact hfirst
      · have hafter := (List.pairwise_cons.mp hsorted).1 m hrest
        unfold notAfter at hafter
        rw [decide_eq_true_eq] at hafter
        omega

/-- The row of a mapping is the row of its segment. -/
theorem fieldRow_placed (sources names : List Json) (m : PlainMapping) :
    fieldRow sources names m.placed = (segment sources names m).fields.map Json.int := by
  rcases located_or_bare m with ⟨line, column, source, sourceLine, sourceColumn, name, rfl⟩ | h
  · cases name with
    | none => rfl
    | some n => rfl
  · have hplaced : m.placed = ⟨m.line.toNat, .int m.column, none⟩ := by
      unfold placed
      rw [h]
      rfl
    rw [segment_of_not_located sources names h, hplaced]
    rfl

/-- The rows of all lines are those of the segments. -/
theorem rowLines_placed (ms : List PlainMapping) :
    (rowLines ((ms.map placed).map fun p => (p.line, fieldRow (sources ms) (names ms) p))
        (lineCount (ms.map placed))).map (fun line => Json.arr (line.map Json.arr))
      = (segmentLines ms).map fun line => .arr (line.map fun s => integerRow s.fields) := by
  rw [rowLines_eq_groups, segmentLines, List.map_map, List.map_map, List.map_map]
  refine List.map_congr_left fun i _ => ?_
  simp only [Function.comp_apply, List.map_map, List.filter_map]
  refine congrArg Json.arr (List.map_congr_left fun m _ => ?_)
  exact congrArg Json.arr (fieldRow_placed _ _ m)

/-- **Assembling plain mappings** on lines from 0 on gives a known
    document. -/
theorem assemble_toMapping (origin : Mapping.Origin) (file : Json) (contents : Json.Table Json)
    (h : ∀ m ∈ ms, 0 ≤ m.line) :
    assemble origin (ms.map toMapping) file contents = .ok (assembly ms file contents) := by
  have hplaced : placeAll 0 ((sorted ms).map toMapping) = .ok ((sorted ms).map placed) :=
    placeAll_toMapping 0 fun m hm => h m (mem_sorted.mp hm)
  unfold assemble
  rw [bind_of_eq_ok (sort_toMapping origin ms), bind_of_eq_ok hplaced]
  have hsegments := segmentsOfLines_fields (segmentLines (sorted ms)) Mappings.start
  rw [← rowLines_placed] at hsegments
  exact bind_of_eq_ok hsegments

/-- Mappings that can be assembled are on lines from 0 on. -/
theorem line_nonneg_of_assemble {origin : Mapping.Origin} {file : Json}
    {contents : Json.Table Json} {a : Assembled}
    (h : assemble origin (ms.map toMapping) file contents = .ok a) : ∀ m ∈ ms, 0 ≤ m.line := by
  unfold assemble at h
  rw [bind_of_eq_ok (sort_toMapping origin ms)] at h
  obtain ⟨ps, hps, -⟩ := bind_eq_ok.mp h
  intro m hm
  exact line_nonneg_of_placeAll (sorted_pairwise ms) hps m (mem_sorted.mpr hm)

/-! ## What is read -/

/-- The sources of mappings are in their table. -/
theorem str_mem_sources {t : Text} (hm : m ∈ ms) (hlocated : m.isLocated = true)
    (ht : m.source = some t) : Json.str t ∈ sources ms := by
  refine str_mem_firstUses (List.mem_filterMap.mpr ⟨m.placed, List.mem_map_of_mem hm, ?_⟩)
  simp [placed, hlocated, ht, textValue]

/-- The names of mappings are in their table. -/
theorem str_mem_names {t : Text} (hm : m ∈ ms) (hlocated : m.isLocated = true)
    (ht : m.name = some t) : Json.str t ∈ names ms := by
  refine str_mem_firstUses (List.mem_filterMap.mpr ⟨m.placed, List.mem_map_of_mem hm, ?_⟩)
  simp [placed, hlocated, ht, textValue, Json.isNull]

/-- A coordinate that is not shifted stays as it is. -/
theorem shift_zero (n : Int) : shift n (.int 0) = .ok (.int n) := by
  show Except.ok (Json.int (n + 0)) = _
  rw [Int.add_zero]

/-- Reading a segment with the tables it was written for gives its mapping
    back. -/
theorem place_segment {i : Nat} (hm : m ∈ ms) (hline : m.line = i) :
    place (sources ms) (names ms) (.int 0) (.int 0) i (segment (sources ms) (names ms) m)
      = .ok m.settled.toMapping := by
  rcases located_or_bare m with
    ⟨line, column, source, sourceLine, sourceColumn, name, rfl⟩ | hbare
  · have hsource : entryAt .sources (sources ms) (indexIn (sources ms) (.str source))
        = .ok (.str source) := entryAt_indexIn (str_mem_sources hm rfl rfl)
    have hname : nameAt (names ms) (name.map fun n => indexIn (names ms) (.str n))
        = .ok (textValue name) := by
      cases name with
      | none => rfl
      | some n => exact entryAt_indexIn (str_mem_names hm rfl rfl)
    refine place_located_eq_ok.mpr
      ⟨_, by rw [ite_self]; exact shift_zero _, _, hname, _, shift_zero _, _, hsource, ?_⟩
    rw [← hline]
    rfl
  · rw [segment_of_not_located _ _ hbare, settled_of_not_located hbare, hline]
    exact place_bare_eq_ok.mpr ⟨_, by rw [ite_self]; exact shift_zero _, _, shift_zero _, rfl⟩

/-- Lines that are read one by one are read one after another. -/
theorem placeLines_range' {sources names : List Json} {lineOffset columnOffset : Json}
    {lines : Nat → List Segment} {mappings : Nat → List Mapping} (n k : Nat)
    (h : ∀ i, k ≤ i → i < k + n →
      (lines i).mapM (place sources names lineOffset columnOffset i) = .ok (mappings i)) :
    placeLines sources names lineOffset columnOffset k ((List.range' k n).map lines)
      = .ok ((List.range' k n).flatMap mappings) := by
  induction n generalizing k with
  | zero => rfl
  | succ n ih =>
      have hrest := ih (k + 1) fun i hk hn => h i (by omega) (by omega)
      rw [List.range'_succ, List.map_cons, placeLines,
        bind_of_eq_ok (h k (Nat.le_refl k) (by omega)), bind_of_eq_ok hrest]
      rfl

/-- A mapping counts the lines down to its own, the others those down to
    theirs. -/
theorem lineCount_cons (p : Placed) (ps : List Placed) :
    lineCount (p :: ps) = max (p.line + 1) (lineCount ps) := by
  have hfold : ∀ (ps : List Placed) (n : Nat),
      ps.foldl (fun n p => max n (p.line + 1)) n = max n (lineCount ps) := by
    intro ps
    induction ps with
    | nil => exact fun n => (Nat.max_zero n).symm
    | cons q rest ih =>
        intro n
        rw [lineCount, List.foldl_cons, List.foldl_cons, ih, ih (max 0 (q.line + 1)),
          Nat.zero_max, Nat.max_assoc]
  rw [lineCount, List.foldl_cons, hfold, Nat.zero_max]

/-- Every mapping is on a line that is counted. -/
theorem line_lt_lineCount {ps : List Placed} {p : Placed} (hp : p ∈ ps) :
    p.line < lineCount ps := by
  induction ps with
  | nil => exact nomatch hp
  | cons q rest ih =>
      rw [lineCount_cons]
      rcases List.mem_cons.mp hp with rfl | hmem
      · exact Nat.le_max_left ..
      · exact Nat.lt_of_lt_of_le (ih hmem) (Nat.le_max_right ..)

/-- The segments of a line are read as the mappings of the line. -/
theorem mapM_place_segment (hnonneg : ∀ m ∈ ms, 0 ≤ m.line) (i : Nat) :
    ((ms.filter fun m => m.line.toNat == i).map (segment (sources ms) (names ms))).mapM
        (place (sources ms) (names ms) (.int 0) (.int 0) i)
      = .ok ((ms.filter fun m => m.line.toNat == i).map fun m => m.settled.toMapping) := by
  rw [List.mapM_map]
  refine mapM_of_forall fun m hm => ?_
  obtain ⟨hmem, hi⟩ := List.mem_filter.mp hm
  have hpos := hnonneg m hmem
  have hline := beq_iff_eq.mp hi
  exact place_segment hmem (by omega)

/-- The lines of mappings in order are read as the mappings. -/
theorem placeLines_segmentLines (hsorted : ms.Pairwise fun a b => notAfter a b = true)
    (hnonneg : ∀ m ∈ ms, 0 ≤ m.line) :
    placeLines (sources ms) (names ms) (.int 0) (.int 0) 0 (segmentLines ms)
      = .ok (ms.map fun m => m.settled.toMapping) := by
  have hkeys : ms.Pairwise fun a b => a.line.toNat ≤ b.line.toNat := by
    refine hsorted.imp fun {a b} hab => ?_
    unfold notAfter at hab
    rw [decide_eq_true_eq] at hab
    omega
  have hrange : ∀ m ∈ ms, 0 ≤ m.line.toNat ∧ m.line.toNat < 0 + lineCount (ms.map placed) := by
    intro m hm
    have := line_lt_lineCount (List.mem_map_of_mem hm : m.placed ∈ ms.map placed)
    exact ⟨Nat.zero_le _, by rw [Nat.zero_add]; exact this⟩
  have hgroups := flatMap_groups (fun m : PlainMapping => m.line.toNat) _ 0 hkeys hrange
  unfold segmentLines
  rw [List.range_eq_range', placeLines_range' _ 0 fun i _ _ => mapM_place_segment hnonneg i,
    ← List.map_flatMap, hgroups]

/-- If there are mappings, there are lines. -/
theorem segmentLines_ne_nil (h : ms ≠ []) : segmentLines ms ≠ [] := by
  obtain ⟨m, rest, hms⟩ := List.exists_cons_of_ne_nil h
  have hm : m.placed ∈ ms.map placed :=
    List.mem_map_of_mem (by rw [hms]; exact List.mem_cons_self ..)
  have hcount := line_lt_lineCount hm
  unfold segmentLines
  rw [Ne, List.map_eq_nil_iff, List.range_eq_nil]
  omega

/-- The lines that are read of mappings in order: where no line is
    written, one empty line is read. -/
def readLines (ms : List PlainMapping) : List (List Segment) :=
  if ms = [] then [[]] else segmentLines ms

/-- The mappings text of an assembled document is read as its lines. -/
theorem decode_assembly (ms : List PlainMapping) (file : Json) (contents : Json.Table Json) :
    Mappings.decode (assembly ms file contents).mappings = .ok (readLines (sorted ms)) := by
  show Mappings.decode (Mappings.encode (segmentLines (sorted ms))) = _
  unfold readLines
  split
  · rename_i hempty
    rw [hempty]
    rfl
  · rename_i hsome
    exact Mappings.decode_encode (segmentLines_ne_nil hsome)

/-- The document of plain mappings on lines from 0 on lists them in order,
    each of them settled. -/
theorem parse_assembly (file : Json) (contents : Json.Table Json)
    {extensions : List (Text × Json)} (hnonneg : ∀ m ∈ ms, 0 ≤ m.line)
    (hsections : Entries.find? extensions "sections" = none)
    (hroot : Entries.find? extensions "sourceRoot" = none) :
    parse ((assembly ms file contents).extended extensions)
      = .ok ((sorted ms).map fun m => m.settled.toMapping) := by
  rw [Assembled.parse_extended _ _ hsections hroot, bind_of_eq_ok (decode_assembly ..), readLines]
  split
  · rename_i hempty
    rw [hempty]
    rfl
  · exact placeLines_segmentLines (sorted_pairwise ms) fun m hm => hnonneg m (mem_sorted.mp hm)

/-! ## Assembling once more -/

@[simp] theorem placed_settled (m : PlainMapping) : m.settled.placed = m.placed := by
  rcases located_or_bare m with
    ⟨line, column, source, sourceLine, sourceColumn, name, rfl⟩ | hbare
  · rfl
  · rw [settled_of_not_located hbare, placed, placed, hbare]
    rfl

@[simp] theorem segment_settled (sources names : List Json) (m : PlainMapping) :
    segment sources names m.settled = segment sources names m := by
  rcases located_or_bare m with
    ⟨line, column, source, sourceLine, sourceColumn, name, rfl⟩ | hbare
  · rfl
  · rw [settled_of_not_located hbare, segment_of_not_located sources names hbare]
    rfl

/-- What is settled is put into the same tables. -/
theorem map_placed_settled (ms : List PlainMapping) :
    (ms.map settled).map placed = ms.map placed := by
  rw [List.map_map]
  exact List.map_congr_left fun m _ => placed_settled m

@[simp] theorem sources_settled (ms : List PlainMapping) :
    sources (ms.map settled) = sources ms :=
  congrArg sourceTable (map_placed_settled ms)

@[simp] theorem names_settled (ms : List PlainMapping) : names (ms.map settled) = names ms :=
  congrArg nameTable (map_placed_settled ms)

/-- What is settled has the same segments. -/
theorem segmentLines_settled (ms : List PlainMapping) :
    segmentLines (ms.map settled) = segmentLines ms := by
  unfold segmentLines
  rw [sources_settled, names_settled, map_placed_settled]
  refine List.map_congr_left fun i _ => ?_
  simp only [List.filter_map, List.map_map, Function.comp_def, settled_line, segment_settled]

/-- Settled mappings in order are assembled to the document of the
    mappings they come from. -/
theorem assembly_settled (ms : List PlainMapping) (file : Json) (contents : Json.Table Json) :
    assembly ((sorted ms).map settled) file contents = assembly ms file contents := by
  have hsorted : sorted ((sorted ms).map settled) = (sorted ms).map settled := by
    rw [sorted_map settled_line settled_column, sorted_of_pairwise (sorted_pairwise ms)]
  unfold assembly
  simp only [hsorted, sources_settled, names_settled, segmentLines_settled]

end PlainMapping

open PlainMapping in
/-- **Reading undoes assembling**: mappings of integers and texts, on
    lines from 0 on, are listed by the document they are assembled to in
    the order of their positions, and those without a place in a source
    are reduced to their position.  Assembling what the document lists
    gives the document again. -/
theorem parse_assemble (origin again : Mapping.Origin) (ms : List PlainMapping) (file : Json)
    (contents : Json.Table Json) (hnonneg : ∀ m ∈ ms, 0 ≤ m.line) :
    ∃ document, assemble origin (ms.map toMapping) file contents = .ok document
      ∧ ∃ listed, parse document.toJson = .ok listed
        ∧ listed = ((sorted ms).map settled).map toMapping
        ∧ assemble again listed file contents = .ok document := by
  refine ⟨assembly ms file contents, assemble_toMapping origin file contents hnonneg, _, ?_, rfl,
    ?_⟩
  · rw [← Assembled.extended_nil, parse_assembly file contents hnonneg rfl rfl, List.map_map]
    rfl
  · have hlisted : ∀ m ∈ (sorted ms).map settled, 0 ≤ m.line := by
      intro m hm
      obtain ⟨x, hx, rfl⟩ := List.mem_map.mp hm
      rw [settled_line]
      exact hnonneg x (mem_sorted.mp hx)
    rw [assemble_toMapping again file contents hlisted, assembly_settled]

/-- Mappings that are out of order, of which two share a position, one has
    an empty name, one has no place in a source, and one a negative
    column. -/
def scatteredMappings : List PlainMapping :=
  [⟨2, 4, some (Text.ofString "a.ts"), some 7, some (-1), some []⟩,
    ⟨0, 3, some (Text.ofString "b.ts"), some 0, some 0, none⟩,
    ⟨0, 3, none, some 5, some 5, some (Text.ofString "f")⟩,
    ⟨2, -6, some [], some 1, some 2, some (Text.ofString "g")⟩]

theorem parse_assemble_scattered :
    (∀ m ∈ scatteredMappings, 0 ≤ m.line)
      ∧ ∃ document,
        assemble .given (scatteredMappings.map PlainMapping.toMapping) .null [] = .ok document
        ∧ ∃ listed, parse document.toJson = .ok listed
          ∧ listed = ((PlainMapping.sorted scatteredMappings).map PlainMapping.settled).map
              PlainMapping.toMapping
          ∧ assemble .given listed .null [] = .ok document := by
  have hnonneg : ∀ m ∈ scatteredMappings, 0 ≤ m.line := by decide
  exact ⟨hnonneg, parse_assemble .given .given scatteredMappings .null [] hnonneg⟩

end HermesBundle.SourceMap
