import HermesBundle.Proofs.SourceMap.PlainMapping
import HermesBundle.Proofs.SourceMap.Reading

/-! # Plain documents — what they list is plain

    A document is plain if its tables hold texts and nulls only and its
    sections are shifted by integers.  Whatever else stands in it, the
    mappings it lists, if it can be read at all, are plain:

    * what reading a basic document, a section or all sections consists
      of is told by one lemma each (`parseBasic_eq_ok`,
      `parseSection_eq_ok`, `parse_eq_ok`);
    * a segment is read to a plain mapping that has a place in a source
      as soon as it has a source (`place_plain`);
    * each segment is read to one mapping, so their numbers agree
      (`length_of_parse`). -/

namespace HermesBundle.SourceMap

open Outcome

/-! ## What plain means -/

/-- Whether a value is a text or null. -/
def isTextOrNull : Json → Bool
  | .null => true
  | .str _ => true
  | _ => false

/-- Whether a value is an integer. -/
def isInteger : Json → Bool
  | .int _ => true
  | _ => false

/-- The items of an array member; other members have none. -/
def itemsOf (doc : Json) (name : String) : List Json :=
  match member doc name with
  | .arr items => items
  | _ => []

/-- Whether the tables of a basic document hold texts and nulls only. -/
def hasPlainTables (doc : Json) : Bool :=
  (itemsOf doc "sources").all isTextOrNull && (itemsOf doc "names").all isTextOrNull

/-- Whether a section is shifted by integers. -/
def hasPlainOffset (part : Json) : Bool :=
  isInteger (offsetMember (member part "offset") "line")
    && isInteger (offsetMember (member part "offset") "column")

/-- Whether the tables of a document hold texts and nulls only and its
    sections are shifted by integers. -/
def isPlainDocument (doc : Json) : Bool :=
  match doc.get? "sections" with
  | some (.arr parts) =>
      parts.all fun part => hasPlainOffset part && hasPlainTables (member part "map")
  | _ => hasPlainTables doc

/-- A text or null is the value of a text that may be missing. -/
theorem exists_textValue {x : Json} (h : isTextOrNull x = true) :
    ∃ t, PlainMapping.textValue t = x := by
  cases x with
  | null => exact ⟨none, rfl⟩
  | str t => exact ⟨some t, rfl⟩
  | _ => exact nomatch h

/-- Whether a mapping that has a source has a place in it. -/
def PlainMapping.IsComplete (m : PlainMapping) : Prop :=
  m.source.isSome = true → m.isLocated = true

/-- A mapping that is plain, and has a place in its source if it has one. -/
def IsPlain (m : Mapping) : Prop := ∃ p : PlainMapping, p.toMapping = m ∧ p.IsComplete

/-- Mappings of which each is plain are a list of plain mappings. -/
theorem exists_plainMappings {ms : List Mapping} (h : ∀ m ∈ ms, IsPlain m) :
    ∃ ps : List PlainMapping, ps.map PlainMapping.toMapping = ms ∧ ∀ p ∈ ps, p.IsComplete := by
  induction ms with
  | nil => exact ⟨[], rfl, fun p hp => nomatch hp⟩
  | cons m rest ih =>
      obtain ⟨p, hp, hcomplete⟩ := h m (List.mem_cons_self ..)
      obtain ⟨ps, hps, hall⟩ := ih fun x hx => h x (List.mem_cons_of_mem _ hx)
      refine ⟨p :: ps, by rw [List.map_cons, hp, hps], ?_⟩
      intro q hq
      rcases List.mem_cons.mp hq with rfl | hmem
      · exact hcomplete
      · exact hall q hmem

/-! ## What reading consists of -/

/-- What reading a basic document consists of. -/
theorem parseBasic_eq_ok {doc lineOffset columnOffset : Json} {ms : List Mapping}
    (h : parseBasic doc lineOffset columnOffset = .ok ms) :
    ∃ sources names text lines, sourceNames doc = .ok sources
      ∧ arrayMember doc "names" = .ok names
      ∧ (doc.get? "mappings").getD (.str []) = .str text
      ∧ Mappings.decode text = .ok lines
      ∧ placeLines sources names lineOffset columnOffset 0 lines = .ok ms := by
  unfold parseBasic at h
  obtain ⟨sources, hsources, h⟩ := bind_eq_ok.mp h
  dsimp only at h
  split at h
  · rename_i text names htext hnames
    obtain ⟨lines, hlines, h⟩ := bind_eq_ok.mp h
    exact ⟨sources, names, text, lines, hsources, hnames, htext, hlines, h⟩
  · exact nomatch h

/-- An offset that counts as missing shifts by nothing. -/
theorem offsetMember_of_not_isTruthy {offset : Json} (h : offset.isTruthy = false)
    (name : String) : offsetMember offset name = .int 0 := by
  cases offset with
  | obj members =>
      cases members with
      | nil => rfl
      | cons entry rest => exact nomatch h
  | _ => rfl

/-- The coordinates of an offset are those of the members that are read
    for it. -/
theorem offsetMember_of_eq_obj {offset : Json} {members : List (Text × Json)}
    (h : (if offset.isTruthy then offset else .obj []) = .obj members) (name : String) :
    offsetMember (.obj members) name = offsetMember offset name := by
  cases htruthy : offset.isTruthy with
  | true =>
      rw [if_pos htruthy] at h
      rw [h]
  | false =>
      rw [if_neg (by rw [htruthy]; decide)] at h
      obtain rfl := Json.obj.inj h
      exact (offsetMember_of_not_isTruthy htruthy name).symm

/-- What reading a section consists of. -/
theorem parseSection_eq_ok {part : Json} {ms : List Mapping} (h : parseSection part = .ok ms) :
    parseBasic (member part "map") (offsetMember (member part "offset") "line")
      (offsetMember (member part "offset") "column") = .ok ms := by
  unfold parseSection at h
  dsimp only at h
  split at h
  · exact nomatch h
  · split at h
    · rename_i members hoffset
      obtain ⟨_, -, h⟩ := bind_eq_ok.mp h
      split at h
      · exact nomatch h
      · rw [offsetMember_of_eq_obj hoffset, offsetMember_of_eq_obj hoffset] at h
        exact h
    · exact nomatch h

/-- What reading a document consists of: it is basic, or each of its
    sections is read. -/
theorem parse_eq_ok {doc : Json} {ms : List Mapping} (h : parse doc = .ok ms) :
    (doc.get? "sections" = none ∧ parseBasic doc (.int 0) (.int 0) = .ok ms)
      ∨ ∃ sections parts, doc.get? "sections" = some (.arr sections)
        ∧ sections.mapM parseSection = .ok parts ∧ parts.flatten = ms := by
  unfold parse at h
  obtain ⟨_, -, h⟩ := bind_eq_ok.mp h
  split at h
  · rename_i hsections
    exact .inl ⟨hsections, h⟩
  · rename_i sections hsections
    split at h
    · obtain ⟨parts, hparts, h⟩ := bind_eq_ok.mp h
      exact .inr ⟨sections, parts, hsections, hparts, pure_eq_ok.mp h⟩
    · exact nomatch h
  · exact nomatch h

/-! ## What is listed is plain -/

/-- The items of an array member that can be read. -/
theorem arrayMember_eq_ok {doc : Json} {name : String} {items : List Json}
    (h : arrayMember doc name = .ok items) : ∀ x ∈ items, x ∈ itemsOf doc name := by
  unfold arrayMember at h
  unfold itemsOf
  generalize member doc name = value at h ⊢
  dsimp only at h
  split at h
  · obtain rfl := Except.ok.inj h
    exact fun x hx => nomatch hx
  · cases value with
    | arr listed =>
        obtain rfl := Except.ok.inj h
        exact fun x hx => hx
    | _ => exact nomatch h

/-- With a root in front of it a text or null is still one. -/
theorem joinRoot_isTextOrNull {root source joined : Json} (hsource : isTextOrNull source = true)
    (h : joinRoot root source = .ok joined) : isTextOrNull joined = true := by
  unfold joinRoot at h
  split at h
  · split at h
    · obtain rfl := Except.ok.inj h
      exact hsource
    · split at h
      · obtain rfl := Except.ok.inj h
        rfl
      · exact nomatch h
  · obtain rfl := Except.ok.inj h
    exact hsource

/-- Sources that are texts and nulls are such with their root. -/
theorem sourceNames_isTextOrNull {doc : Json} {sources : List Json}
    (hall : ∀ x ∈ itemsOf doc "sources", isTextOrNull x = true)
    (h : sourceNames doc = .ok sources) : ∀ x ∈ sources, isTextOrNull x = true := by
  unfold sourceNames at h
  split at h
  · split at h
    · exact nomatch h
    · rename_i items hitems
      intro x hx
      obtain ⟨source, hsource, hjoin⟩ := exists_of_mem_mapM h hx
      exact joinRoot_isTextOrNull (hall source (arrayMember_eq_ok hitems source hsource)) hjoin
  · exact nomatch h

/-- The entry at an index is in the table. -/
theorem mem_of_entryAt {table : IndexTable} {entries : List Json} {index : Int} {x : Json}
    (h : entryAt table entries index = .ok x) : x ∈ entries := by
  unfold entryAt at h
  split at h
  · exact nomatch h
  · split at h
    · exact nomatch h
    · rename_i entry hentry
      obtain rfl := Except.ok.inj h
      exact List.mem_of_getElem? hentry

/-- The name of a segment is a text or null if the table has only such. -/
theorem isTextOrNull_of_nameAt {names : List Json} {index : Option Int} {name : Json}
    (hnames : ∀ x ∈ names, isTextOrNull x = true) (h : nameAt names index = .ok name) :
    isTextOrNull name = true := by
  cases index with
  | none =>
      obtain rfl := Except.ok.inj h
      rfl
  | some i => exact hnames name (mem_of_entryAt h)

/-- A segment is read from plain tables to a plain mapping. -/
theorem place_plain {sources names : List Json} {lineOffset columnOffset : Int} {line : Nat}
    {s : Segment} {m : Mapping} (hsources : ∀ x ∈ sources, isTextOrNull x = true)
    (hnames : ∀ x ∈ names, isTextOrNull x = true)
    (h : place sources names (.int lineOffset) (.int columnOffset) line s = .ok m) :
    IsPlain m := by
  obtain ⟨c, origin⟩ := s
  have hoffset : (if line = 0 then Json.int columnOffset else .int 0)
      = .int (if line = 0 then columnOffset else 0) := (apply_ite Json.int ..).symm
  cases origin with
  | none =>
      rw [place_bare_eq_ok, hoffset] at h
      obtain ⟨_, hcolumn, _, hline, rfl⟩ := h
      obtain rfl := Except.ok.inj hcolumn
      obtain rfl := Except.ok.inj hline
      exact ⟨.bare _ _, rfl, fun hsome => nomatch hsome⟩
  | some o =>
      rw [place_located_eq_ok, hoffset] at h
      obtain ⟨_, hcolumn, name, hname, _, hline, source, hsource, rfl⟩ := h
      obtain rfl := Except.ok.inj hcolumn
      obtain rfl := Except.ok.inj hline
      obtain ⟨sourceText, rfl⟩ := exists_textValue (hsources _ (mem_of_entryAt hsource))
      obtain ⟨nameText, rfl⟩ := exists_textValue (isTextOrNull_of_nameAt hnames hname)
      refine ⟨⟨_, _, sourceText, some o.line, some o.column, nameText⟩, rfl, fun hsome => ?_⟩
      show (sourceText.isSome && true && true) = true
      rw [Bool.and_true, Bool.and_true]
      exact hsome

/-- Lines are read from plain tables to plain mappings. -/
theorem placeLines_plain {sources names : List Json} {lineOffset columnOffset : Int} {line : Nat}
    {lines : List (List Segment)} {ms : List Mapping}
    (hsources : ∀ x ∈ sources, isTextOrNull x = true)
    (hnames : ∀ x ∈ names, isTextOrNull x = true)
    (h : placeLines sources names (.int lineOffset) (.int columnOffset) line lines = .ok ms) :
    ∀ m ∈ ms, IsPlain m := by
  induction lines generalizing line ms with
  | nil =>
      obtain rfl := Except.ok.inj h
      exact fun m hm => nomatch hm
  | cons segments rest ih =>
      obtain ⟨here, hhere, h⟩ := bind_eq_ok.mp h
      obtain ⟨more, hmore, h⟩ := bind_eq_ok.mp h
      obtain rfl := pure_eq_ok.mp h
      intro m hm
      rcases List.mem_append.mp hm with hm | hm
      · obtain ⟨s, -, hs⟩ := exists_of_mem_mapM hhere hm
        exact place_plain hsources hnames hs
      · exact ih hmore m hm

/-- A basic document of plain tables lists plain mappings. -/
theorem parseBasic_plain {doc : Json} {lineOffset columnOffset : Int} {ms : List Mapping}
    (hplain : hasPlainTables doc = true)
    (h : parseBasic doc (.int lineOffset) (.int columnOffset) = .ok ms) :
    ∀ m ∈ ms, IsPlain m := by
  obtain ⟨sources, names, text, lines, hsources, hnames, -, -, hplace⟩ := parseBasic_eq_ok h
  obtain ⟨hsourceItems, hnameItems⟩ := Bool.and_eq_true_iff.mp hplain
  exact placeLines_plain
    (sourceNames_isTextOrNull (List.all_eq_true.mp hsourceItems) hsources)
    (fun x hx => List.all_eq_true.mp hnameItems x (arrayMember_eq_ok hnames x hx)) hplace

/-- An integer is the value of one. -/
theorem exists_int {x : Json} (h : isInteger x = true) : ∃ i, x = .int i := by
  cases x with
  | int i => exact ⟨i, rfl⟩
  | _ => exact nomatch h

/-- A plain document lists plain mappings. -/
theorem isPlain_of_parse {doc : Json} {ms : List Mapping} (hplain : isPlainDocument doc = true)
    (h : parse doc = .ok ms) : ∀ m ∈ ms, IsPlain m := by
  unfold isPlainDocument at hplain
  rcases parse_eq_ok h with ⟨hnone, hbasic⟩ | ⟨sections, parts, hsome, hparts, rfl⟩
  · rw [hnone] at hplain
    exact parseBasic_plain hplain hbasic
  · rw [hsome] at hplain
    intro m hm
    obtain ⟨part, hpart, hm⟩ := List.mem_flatten.mp hm
    obtain ⟨x, hx, hread⟩ := exists_of_mem_mapM hparts hpart
    obtain ⟨hoffset, htables⟩ := Bool.and_eq_true_iff.mp (List.all_eq_true.mp hplain x hx)
    obtain ⟨hline, hcolumn⟩ := Bool.and_eq_true_iff.mp hoffset
    obtain ⟨i, hi⟩ := exists_int hline
    obtain ⟨j, hj⟩ := exists_int hcolumn
    have hbasic := parseSection_eq_ok hread
    rw [hi, hj] at hbasic
    exact parseBasic_plain htables hbasic m hm

/-- What a plain document lists is a list of plain mappings. -/
theorem exists_of_parse {doc : Json} {ms : List Mapping} (hplain : isPlainDocument doc = true)
    (h : parse doc = .ok ms) :
    ∃ ps : List PlainMapping, ps.map PlainMapping.toMapping = ms ∧ ∀ p ∈ ps, p.IsComplete :=
  exists_plainMappings (isPlain_of_parse hplain h)

/-! ## How much is listed -/

/-- The texts of the segments in the text of a line; empty pieces are
    none. -/
def segmentPieces (line : Text) : List Text :=
  (line.splitOn ',').filter fun piece => !piece.isEmpty

/-- The texts of the segments of a basic document. -/
def basicSegmentTexts (doc : Json) : List Text :=
  match (doc.get? "mappings").getD (.str []) with
  | .str text => (text.splitOn ';').flatMap segmentPieces
  | _ => []

/-- The number of segments of a document, in all its sections if it has
    sections. -/
def segmentCount (doc : Json) : Nat :=
  match doc.get? "sections" with
  | some (.arr sections) =>
      (sections.flatMap fun part => basicSegmentTexts (member part "map")).length
  | _ => (basicSegmentTexts doc).length

/-- Each piece of a line that is not empty is read to one segment. -/
theorem length_of_decodeLine {previous : Int} {r last : Reference} {pieces : List Text}
    {segments : List Segment} (h : Mappings.decodeLine previous r pieces = .ok (segments, last)) :
    segments.length = (pieces.filter fun piece => !piece.isEmpty).length := by
  induction pieces generalizing previous r last segments with
  | nil =>
      obtain ⟨rfl, -⟩ := Prod.mk.inj (Except.ok.inj h)
      rfl
  | cons piece rest ih =>
      rw [Mappings.decodeLine] at h
      split at h
      · rename_i hempty
        rw [List.filter_cons_of_neg (by rw [hempty]; decide)]
        exact ih h
      · rename_i hfull
        rw [List.filter_cons_of_pos (by simpa using hfull)]
        split at h
        · exact nomatch h
        · split at h
          · exact nomatch h
          · split at h
            · exact nomatch h
            · rename_i hrest
              obtain ⟨rfl, -⟩ := Prod.mk.inj (Except.ok.inj h)
              rw [List.length_cons, List.length_cons, ih hrest]

/-- Each segment of the lines is read. -/
theorem length_of_decodeLines {r : Reference} {texts : List Text} {lines : List (List Segment)}
    (h : Mappings.decodeLines r texts = .ok lines) :
    lines.flatten.length = (texts.flatMap segmentPieces).length := by
  induction texts generalizing r lines with
  | nil =>
      obtain rfl := Except.ok.inj h
      rfl
  | cons text rest ih =>
      rw [Mappings.decodeLines] at h
      split at h
      · exact nomatch h
      · rename_i segments next hline
        split at h
        · exact nomatch h
        · rename_i more hmore
          obtain rfl := Except.ok.inj h
          rw [List.flatten_cons, List.flatMap_cons, List.length_append, List.length_append,
            ih hmore, length_of_decodeLine hline]
          rfl

/-- Each segment is placed once. -/
theorem length_of_placeLines {sources names : List Json} {lineOffset columnOffset : Json}
    {line : Nat} {lines : List (List Segment)} {ms : List Mapping}
    (h : placeLines sources names lineOffset columnOffset line lines = .ok ms) :
    ms.length = lines.flatten.length := by
  induction lines generalizing line ms with
  | nil =>
      obtain rfl := Except.ok.inj h
      rfl
  | cons segments rest ih =>
      obtain ⟨here, hhere, h⟩ := bind_eq_ok.mp h
      obtain ⟨more, hmore, h⟩ := bind_eq_ok.mp h
      obtain rfl := pure_eq_ok.mp h
      rw [List.flatten_cons, List.length_append, List.length_append, ih hmore,
        (mapM_eq_ok.mp hhere).length_eq]

/-- A basic document lists one mapping for each of its segments. -/
theorem length_of_parseBasic {doc lineOffset columnOffset : Json} {ms : List Mapping}
    (h : parseBasic doc lineOffset columnOffset = .ok ms) :
    ms.length = (basicSegmentTexts doc).length := by
  obtain ⟨sources, names, text, lines, -, -, htext, hlines, hplace⟩ := parseBasic_eq_ok h
  unfold basicSegmentTexts
  rw [htext, length_of_placeLines hplace]
  exact length_of_decodeLines hlines

/-- Sections list one mapping for each of their segments. -/
theorem length_of_sections {sections : List Json} {parts : List (List Mapping)}
    (h : List.Forall₂ (fun part ms => parseSection part = .ok ms) sections parts) :
    parts.flatten.length
      = (sections.flatMap fun part => basicSegmentTexts (member part "map")).length := by
  induction h with
  | nil => rfl
  | cons hread _ ih =>
      rw [List.flatten_cons, List.flatMap_cons, List.length_append, List.length_append, ih,
        length_of_parseBasic (parseSection_eq_ok hread)]

/-- A document lists one mapping for each of its segments. -/
theorem length_of_parse {doc : Json} {ms : List Mapping} (h : parse doc = .ok ms) :
    ms.length = segmentCount doc := by
  unfold segmentCount
  rcases parse_eq_ok h with ⟨hnone, hbasic⟩ | ⟨sections, parts, hsome, hparts, rfl⟩
  · rw [hnone]
    exact length_of_parseBasic hbasic
  · rw [hsome]
    exact length_of_sections (mapM_eq_ok.mp hparts)

end HermesBundle.SourceMap
