import HermesBundle.BuildError
import HermesBundle.Proofs.SourceMap.PlainDocument

/-! # Unchecked uses — where reading a document fails without a report

    A document is read, or what is wrong with it is reported as a source
    map error.  A few members are used before anything was checked about
    them, though, and there a document of the wrong kind ends in another
    failure.  `Unchecked` lists these uses for a chain of documents; that
    there are no others is shown here for reading:

    * a document is read unless an offset, a root or an index is used
      unchecked (`failsOnly_parse`);
    * the mappings read have numbers for their positions, integers for
      their places and scalars for the rest (`isRead_of_parse`), where a
      table entry that is no scalar is one of the listed uses. -/

namespace HermesBundle.SourceMap

open Outcome

/-! ## Unchecked uses -/

/-- A fault that is reported as a source map error. -/
def Fault.IsReported (f : Fault) : Prop := Failure.ofFault f = .build (.sourceMap (.malformed f))

/-- A basic document that is read as part of a document, with the offsets
    its lines and the columns of its first line are shifted by. -/
inductive IsPart (doc : Json) : Json → Json → Json → Prop where
  | whole : doc.get? "sections" = none → IsPart doc doc (.int 0) (.int 0)
  | section {sections : List Json} {part : Json} : doc.get? "sections" = some (.arr sections) →
      part ∈ sections →
      IsPart doc (member part "map") (offsetMember (member part "offset") "line")
        (offsetMember (member part "offset") "column")

/-- A document whose version is looked at where a document is read: the
    document itself, or one in a section of it. -/
inductive Declares (doc : Json) : Json → Prop where
  | whole : Declares doc doc
  | section {sections : List Json} {part : Json} : doc.get? "sections" = some (.arr sections) →
      part ∈ sections → Declares doc (member part "map")

/-- A basic document has a segment on a line of its mappings text. -/
def HasSegment (doc : Json) (line : Nat) (s : Segment) : Prop :=
  ∃ text lines segments, (doc.get? "mappings").getD (.str []) = .str text
    ∧ Mappings.decode text = .ok lines ∧ lines[line]? = some segments ∧ s ∈ segments

/-- A coordinate of a segment that is shifted by an offset. -/
inductive IsShifted (doc : Json) : Int → Json → Prop where
  | line {basic lineOffset columnOffset : Json} {line : Nat} {s : Segment} :
      IsPart doc basic lineOffset columnOffset → HasSegment basic line s →
      IsShifted doc line lineOffset
  | column {basic lineOffset columnOffset : Json} {s : Segment} :
      IsPart doc basic lineOffset columnOffset → HasSegment basic 0 s →
      IsShifted doc s.column columnOffset

/-- A source that a root would be put in front of. -/
def isRelative (source : Json) : Bool :=
  match source with
  | .str s => !(s.contains "://" || s.startsWith "/")
  | _ => false

/-- The indices of a segment. -/
def Segment.indices (s : Segment) : List Int :=
  match s.origin with
  | none => []
  | some o => o.source :: o.name.toList

/-- The uses of a chain of documents that nothing was checked for, with
    the faults they end in. -/
inductive Unchecked (maps : List Json) : Fault → Prop where
  /-- A version other than the one that is read is to be shown, and exceeds
      a limit. -/
  | version {doc declaring : Json} {e : Json.WriteError} : doc ∈ maps → Declares doc declaring →
      isObject declaring = true → (member declaring "version").same (.int 3) = false →
      (member declaring "version").excess? Json.depthLimit = some e →
      Unchecked maps (.ofWriteError e)
  /-- The members of an offset that is no object are asked for. -/
  | offset {doc part : Json} {sections : List Json} : doc ∈ maps →
      doc.get? "sections" = some (.arr sections) → part ∈ sections →
      (member part "offset").isTruthy = true → isObject (member part "offset") = false →
      Unchecked maps (.misuse .noMembers)
  /-- A coordinate is shifted by what is no number. -/
  | shift {doc offset : Json} {n : Int} : doc ∈ maps → IsShifted doc n offset →
      offset.key.isNumber = false → Unchecked maps (.misuse .unsuitedKind)
  /-- A coordinate that no fraction can hold is shifted by a fraction. -/
  | shiftTooLarge {doc : Json} {n : Int} {d : Double} {negative : Bool} : doc ∈ maps →
      IsShifted doc n (.float d) → Double.ofInt n = .infinite negative →
      Unchecked maps (.misuse .tooLarge)
  /-- A root that is no text is put in front of a source. -/
  | root {doc basic lineOffset columnOffset source : Json} : doc ∈ maps →
      IsPart doc basic lineOffset columnOffset → source ∈ itemsOf basic "sources" →
      isRelative source = true → (member basic "sourceRoot").isTruthy = true →
      (member basic "sourceRoot").key.isText = false → Unchecked maps (.misuse .noMembers)
  /-- The embedded contents are no sequence. -/
  | contents {doc basic lineOffset columnOffset : Json} : doc ∈ maps →
      IsPart doc basic lineOffset columnOffset →
      (member basic "sourcesContent").isTruthy = true →
      (member basic "sourcesContent").key.isNumber = true →
      Unchecked maps (.misuse .unsuitedKind)
  /-- A source or a name that is no scalar is entered into a table. -/
  | entry {doc basic lineOffset columnOffset x : Json} : doc ∈ maps →
      IsPart doc basic lineOffset columnOffset →
      x ∈ itemsOf basic "sources" ∨ x ∈ itemsOf basic "names" → x.isScalar = false →
      Unchecked maps (.misuse .unsuitedKind)
  /-- An index of too many digits is to be shown. -/
  | index {doc basic lineOffset columnOffset : Json} {line : Nat} {s : Segment} {index : Int} :
      doc ∈ maps → IsPart doc basic lineOffset columnOffset → HasSegment basic line s →
      index ∈ s.indices → Nat.pow 10 Json.digitLimit ≤ index.natAbs →
      Unchecked maps .tooManyDigits
  /-- Lines are added up to that of a mapping of the last document, which is
      never reached. -/
  | endless {last : Json} {own : List Mapping} {m : Mapping} : maps.getLast? = some last →
      parse last = .ok own → m ∈ own → isUnreachable m.line = true → Unchecked maps .endless
  /-- A position of the last document that is a fraction is written. -/
  | fraction {last : Json} {own : List Mapping} {m : Mapping} : maps.getLast? = some last →
      parse last = .ok own → m ∈ own →
      m.line.toInt? = none ∧ isUnreachable m.line = false ∨ m.column.toInt? = none →
      Unchecked maps (.misuse .unsuitedKind)
  /-- A fraction is written behind a column that no fraction can hold. -/
  | fractionTooLarge {last : Json} {own : List Mapping} {m previous : Mapping} {column : Int}
      {negative : Bool} : maps.getLast? = some last → parse last = .ok own → m ∈ own →
      m.column.toInt? = none → previous ∈ own → previous.column.toInt? = some column →
      Double.ofInt column = .infinite negative → Unchecked maps (.misuse .tooLarge)
  /-- A mapping of the last document is written on a line below zero. -/
  | line {last : Json} {own : List Mapping} {m : Mapping} {line : Int} :
      maps.getLast? = some last → parse last = .ok own → m ∈ own → m.line.toInt? = some line →
      line < 0 → Unchecked maps (.misuse .noElement)

/-- A fault that is reported or follows an unchecked use. -/
def Accounted (maps : List Json) (f : Fault) : Prop := f.IsReported ∨ Unchecked maps f

section
variable {maps : List Json}

/-! ## Reading segments -/

/-- Codes of integers are read or the fault is reported. -/
theorem failsOnly_decodeFrom {piece : Text} {value shift : Nat} (text : Text) :
    FailsOnly Fault.IsReported (Vlq.decodeFrom piece value shift text) := by
  induction text generalizing value shift with
  | nil =>
      unfold Vlq.decodeFrom
      split
      · exact .ok []
      · exact .error rfl
  | cons c rest ih =>
      unfold Vlq.decodeFrom
      split
      · exact .error rfl
      · dsimp only
        split
        · exact ih
        · split
          · rename_i e he
            exact .error (ih e he)
          · exact .ok _

/-- The pieces of a line are read or the fault is reported. -/
theorem failsOnly_decodeLine {previous : Int} {r : Reference} (pieces : List Text) :
    FailsOnly Fault.IsReported (Mappings.decodeLine previous r pieces) := by
  induction pieces generalizing previous r with
  | nil => exact .ok _
  | cons piece rest ih =>
      unfold Mappings.decodeLine
      split
      · exact ih
      · split
        · rename_i e he
          exact .error (failsOnly_decodeFrom piece e he)
        · split
          · exact .error rfl
          · split
            · rename_i e he
              exact .error (ih e he)
            · exact .ok _

/-- A mappings text is read or the fault is reported. -/
theorem failsOnly_decode (text : Text) : FailsOnly Fault.IsReported (Mappings.decode text) := by
  unfold Mappings.decode
  generalize Mappings.start = r
  generalize text.splitOn ';' = lines
  induction lines generalizing r with
  | nil => exact .ok []
  | cons line rest ih =>
      unfold Mappings.decodeLines
      split
      · rename_i e he
        exact .error (failsOnly_decodeLine _ e he)
      · split
        · rename_i e he
          exact .error (ih _ e he)
        · exact .ok _

/-- Coordinates are shifted unless an offset is used unchecked. -/
theorem failsOnly_shift {doc offset : Json} {n : Int} (hdoc : doc ∈ maps)
    (h : IsShifted doc n offset) : FailsOnly (Accounted maps) (SourceMap.shift n offset) := by
  cases offset with
  | int i => exact .ok _
  | bool b => exact .ok _
  | float d =>
      unfold SourceMap.shift
      dsimp only
      split
      · rename_i negative hlarge
        exact .error (.inr (.shiftTooLarge hdoc h hlarge))
      · exact .ok _
  | null => exact .error (.inr (.shift hdoc h rfl))
  | str t => exact .error (.inr (.shift hdoc h rfl))
  | arr items => exact .error (.inr (.shift hdoc h rfl))
  | obj members => exact .error (.inr (.shift hdoc h rfl))

/-- Entries are found, or it is reported that they are missing, unless the
    index cannot be shown. -/
theorem failsOnly_entryAt {table : IndexTable} {entries : List Json} {index : Int}
    (h : Nat.pow 10 Json.digitLimit ≤ index.natAbs → Unchecked maps .tooManyDigits) :
    FailsOnly (Accounted maps) (entryAt table entries index) := by
  have hmissing : Accounted maps (missingEntry table index) := by
    unfold missingEntry
    split
    · exact .inl rfl
    · rename_i hlarge
      exact .inr (h (Nat.le_of_not_lt hlarge))
  unfold entryAt
  split
  · exact .error hmissing
  · split
    · exact .error hmissing
    · exact .ok _

/-- The segments of a part are placed unless one is used unchecked. -/
theorem failsOnly_place {doc basic lineOffset columnOffset : Json} {sources names : List Json}
    {line : Nat} {s : Segment} (hdoc : doc ∈ maps)
    (hpart : IsPart doc basic lineOffset columnOffset) (hs : HasSegment basic line s) :
    FailsOnly (Accounted maps) (place sources names lineOffset columnOffset line s) := by
  have hcolumn : FailsOnly (Accounted maps)
      (SourceMap.shift s.column (if line = 0 then columnOffset else .int 0)) := by
    split
    · rename_i hzero
      subst hzero
      exact failsOnly_shift hdoc (.column hpart hs)
    · exact .ok _
  have hline := failsOnly_shift hdoc (.line hpart hs)
  have hentry : ∀ {table : IndexTable} {entries : List Json} {index : Int}, index ∈ s.indices →
      FailsOnly (Accounted maps) (entryAt table entries index) :=
    fun hindex => failsOnly_entryAt (.index hdoc hpart hs hindex)
  obtain ⟨column, origin⟩ := s
  cases origin with
  | none => exact hcolumn.bind fun _ _ => hline.bind fun _ _ => .ok _
  | some o =>
      obtain ⟨source, l, c, name⟩ := o
      have hsource : FailsOnly (Accounted maps) (entryAt .sources sources source) :=
        hentry (List.mem_cons_self ..)
      refine hcolumn.bind fun _ _ => ?_
      cases name with
      | none => exact hline.bind fun _ _ => hsource.bind fun _ _ => .ok _
      | some index =>
          have hname : FailsOnly (Accounted maps) (entryAt .names names index) :=
            hentry (List.mem_cons_of_mem _ (List.mem_singleton_self index))
          exact hname.bind fun _ _ => hline.bind fun _ _ => hsource.bind fun _ _ => .ok _

/-- The lines of a part are placed unless a segment is used unchecked. -/
theorem failsOnly_placeLines {doc basic lineOffset columnOffset : Json}
    {sources names : List Json} {line : Nat} {lines : List (List Segment)} (hdoc : doc ∈ maps)
    (hpart : IsPart doc basic lineOffset columnOffset)
    (hlines : ∀ k segments, lines[k]? = some segments → ∀ s ∈ segments,
      HasSegment basic (line + k) s) :
    FailsOnly (Accounted maps) (placeLines sources names lineOffset columnOffset line lines) := by
  induction lines generalizing line with
  | nil => exact .ok []
  | cons segments rest ih =>
      refine FailsOnly.bind (.mapM fun s hs => failsOnly_place hdoc hpart (hlines 0 segments rfl s hs))
        fun _ _ => FailsOnly.bind (ih fun k segments' hk s hs => ?_) fun _ _ => .ok _
      rw [Nat.add_assoc, Nat.add_comm 1 k]
      exact hlines (k + 1) segments' hk s hs

/-- Only texts are compared as texts. -/
theorem isText_key_of_not_text {x : Json} (h : ∀ t, x = .str t → False) : x.key.isText = false := by
  cases x with
  | str t => exact (h t rfl).elim
  | float d =>
      cases d with
      | infinite negative => cases negative <;> rfl
      | _ => rfl
  | _ => rfl

/-- The items of an array member are found or the fault is reported. -/
theorem failsOnly_arrayMember (doc : Json) (name : String) :
    FailsOnly Fault.IsReported (arrayMember doc name) := by
  unfold arrayMember
  dsimp only
  split
  · exact .ok []
  · split
    · exact .ok _
    · exact .error rfl

/-- The sources of a part are found unless a root is used unchecked. -/
theorem failsOnly_sourceNames {doc basic lineOffset columnOffset : Json} (hdoc : doc ∈ maps)
    (hpart : IsPart doc basic lineOffset columnOffset) (hobject : isObject basic = true) :
    FailsOnly (Accounted maps) (sourceNames basic) := by
  cases basic with
  | obj members =>
      unfold sourceNames
      dsimp only
      split
      · rename_i e he
        exact .error (.inl (failsOnly_arrayMember _ _ e he))
      · rename_i items hitems
        refine .mapM fun source hsource => ?_
        have hlisted := arrayMember_eq_ok hitems source hsource
        have hroot : (member (.obj members) "sourceRoot").isTruthy = true →
            isRelative source = true →
            (member (.obj members) "sourceRoot").key.isText = false →
            Unchecked maps (.misuse .noMembers) :=
          fun htruthy hrelative => .root hdoc hpart hlisted hrelative htruthy
        generalize member (.obj members) "sourceRoot" = root at hroot ⊢
        unfold joinRoot
        split
        · rename_i s
          split
          · exact .ok _
          · rename_i hneeds
            rw [Bool.or_eq_true, Bool.or_eq_true, not_or, not_or, Bool.not_eq_true',
              Bool.not_eq_false] at hneeds
            obtain ⟨⟨htruthy, hscheme⟩, habsolute⟩ := hneeds
            have hrelative : isRelative (.str s) = true := by
              unfold isRelative
              rw [Bool.not_eq_true', Bool.or_eq_false_iff]
              exact ⟨Bool.eq_false_iff.mpr hscheme, Bool.eq_false_iff.mpr habsolute⟩
            split
            · exact .ok _
            · rename_i hother
              exact .error (.inr (hroot htruthy hrelative (isText_key_of_not_text hother)))
        · exact .ok _
  | _ => exact nomatch hobject

/-- The mappings of a part are read unless something in it is used
    unchecked. -/
theorem failsOnly_parseBasic {doc basic lineOffset columnOffset : Json} (hdoc : doc ∈ maps)
    (hpart : IsPart doc basic lineOffset columnOffset) (hobject : isObject basic = true) :
    FailsOnly (Accounted maps) (parseBasic basic lineOffset columnOffset) := by
  refine (failsOnly_sourceNames hdoc hpart hobject).bind fun sources _ => ?_
  dsimp only
  split
  · rename_i text names htext hnames
    refine FailsOnly.bind (fun e he => .inl (failsOnly_decode text e he)) fun lines hlines => ?_
    refine failsOnly_placeLines hdoc hpart fun k segments hk s hs => ?_
    rw [Nat.zero_add]
    exact ⟨text, lines, segments, htext, hlines, hk, hs⟩
  · exact .error (.inl rfl)

/-- A document declares its version or the fault is reported, unless the
    version cannot be shown. -/
theorem failsOnly_requireVersion {doc declaring : Json} (hdoc : doc ∈ maps)
    (hdeclares : Declares doc declaring) :
    FailsOnly (Accounted maps) (requireVersion declaring) := by
  cases declaring with
  | obj members =>
      unfold requireVersion
      dsimp only
      split
      · exact .ok ()
      · rename_i hother
        have hnot := Bool.eq_false_iff.mpr hother
        unfold otherVersion
        split
        · exact .error (.inl rfl)
        · rename_i e hexcess
          exact .error (.inr (.version hdoc hdeclares rfl hnot hexcess))
  | _ => exact .error (.inl rfl)

/-- What declares its version is an object. -/
theorem isObject_of_requireVersion {doc : Json} (h : requireVersion doc = .ok ()) :
    isObject doc = true := by
  cases doc with
  | obj members => rfl
  | _ => exact nomatch h

/-- The mappings of a section are read unless something in it is used
    unchecked. -/
theorem failsOnly_parseSection {doc part : Json} {sections : List Json} (hdoc : doc ∈ maps)
    (hsections : doc.get? "sections" = some (.arr sections)) (hmem : part ∈ sections) :
    FailsOnly (Accounted maps) (parseSection part) := by
  have hpart : IsPart doc _ _ _ := .section hsections hmem
  unfold parseSection
  dsimp only
  split
  · exact .error (.inl rfl)
  · split
    · rename_i members hoffset
      refine (failsOnly_requireVersion hdoc (.section hsections hmem)).bind fun _ hversion => ?_
      split
      · exact .error (.inl rfl)
      · rw [offsetMember_of_eq_obj hoffset, offsetMember_of_eq_obj hoffset]
        exact failsOnly_parseBasic hdoc hpart (isObject_of_requireVersion hversion)
    · rename_i hother
      cases htruthy : (member part "offset").isTruthy with
      | false => exact absurd (if_neg (by rw [htruthy]; decide)) (hother [])
      | true =>
          rw [if_pos htruthy] at hother
          refine .error (.inr (.offset hdoc hsections hmem htruthy ?_))
          cases hoffset : member part "offset" with
          | obj members => exact absurd hoffset (hother members)
          | _ => rfl

/-- The mappings of a document are read unless something in it is used
    unchecked. -/
theorem failsOnly_parse {doc : Json} (hdoc : doc ∈ maps) :
    FailsOnly (Accounted maps) (parse doc) := by
  refine (failsOnly_requireVersion hdoc .whole).bind fun _ hversion => ?_
  split
  · rename_i hnone
    exact failsOnly_parseBasic hdoc (.whole hnone) (isObject_of_requireVersion hversion)
  · rename_i sections hsome
    split
    · exact FailsOnly.bind (.mapM fun part hpart => failsOnly_parseSection hdoc hsome hpart)
        fun _ _ => .ok _
    · exact .error (.inl rfl)
  · exact .error (.inl rfl)

/-! ## What was read -/

/-- A value that is none or an integer. -/
def IsPlace (x : Json) : Prop := x = .null ∨ ∃ i, x = .int i

/-- A mapping as it is read from a chain: numbers for its position,
    integers for its place, and scalars for the rest unless such a value
    is used unchecked. -/
structure Mapping.IsRead (maps : List Json) (m : Mapping) : Prop where
  line : m.line.key.isNumber = true
  column : m.column.key.isNumber = true
  sourceLine : IsPlace m.sourceLine
  sourceColumn : IsPlace m.sourceColumn
  source : m.source.isScalar = true ∨ Unchecked maps (.misuse .unsuitedKind)
  name : m.name.isScalar = true ∨ Unchecked maps (.misuse .unsuitedKind)

/-- A coordinate that could be shifted is a number. -/
theorem isNumber_of_shift {n : Int} {offset shifted : Json}
    (h : SourceMap.shift n offset = .ok shifted) : shifted.key.isNumber = true := by
  have hfloat : ∀ d : Double, (Json.float d).key.isNumber = true := by
    intro d
    cases d with
    | infinite negative => cases negative <;> rfl
    | _ => rfl
  cases offset with
  | int i =>
      obtain rfl := Except.ok.inj h
      rfl
  | bool b =>
      obtain rfl := Except.ok.inj h
      rfl
  | float d =>
      unfold SourceMap.shift at h
      dsimp only at h
      split at h
      · exact nomatch h
      · obtain rfl := Except.ok.inj h
        exact hfloat _
  | _ => exact nomatch h

/-- A source of a part is a scalar unless it is used unchecked. -/
theorem isScalar_of_sourceNames {doc basic lineOffset columnOffset x : Json}
    {sources : List Json} (hdoc : doc ∈ maps) (hpart : IsPart doc basic lineOffset columnOffset)
    (h : sourceNames basic = .ok sources) (hx : x ∈ sources) :
    x.isScalar = true ∨ Unchecked maps (.misuse .unsuitedKind) := by
  cases basic with
  | obj members =>
      unfold sourceNames at h
      dsimp only at h
      split at h
      · exact nomatch h
      · rename_i items hitems
        obtain ⟨source, hsource, hjoin⟩ := exists_of_mem_mapM h hx
        have hlisted := arrayMember_eq_ok hitems source hsource
        unfold joinRoot at hjoin
        split at hjoin
        · left
          split at hjoin
          · obtain rfl := Except.ok.inj hjoin
            rfl
          · split at hjoin
            · obtain rfl := Except.ok.inj hjoin
              rfl
            · exact nomatch hjoin
        · obtain rfl := Except.ok.inj hjoin
          cases hscalar : source.isScalar with
          | true => exact .inl rfl
          | false => exact .inr (.entry hdoc hpart (.inl hlisted) hscalar)
  | _ => exact nomatch h

/-- A name of a part is a scalar unless it is used unchecked. -/
theorem isScalar_of_names {doc basic lineOffset columnOffset x : Json} {names : List Json}
    (hdoc : doc ∈ maps) (hpart : IsPart doc basic lineOffset columnOffset)
    (h : arrayMember basic "names" = .ok names) (hx : x ∈ names) :
    x.isScalar = true ∨ Unchecked maps (.misuse .unsuitedKind) := by
  cases hscalar : x.isScalar with
  | true => exact .inl rfl
  | false => exact .inr (.entry hdoc hpart (.inr (arrayMember_eq_ok h x hx)) hscalar)

/-- A segment is placed as a mapping that is read. -/
theorem isRead_of_place {sources names : List Json} {lineOffset columnOffset : Json} {line : Nat}
    {s : Segment} {m : Mapping}
    (hsources : ∀ x ∈ sources, x.isScalar = true ∨ Unchecked maps (.misuse .unsuitedKind))
    (hnames : ∀ x ∈ names, x.isScalar = true ∨ Unchecked maps (.misuse .unsuitedKind))
    (h : place sources names lineOffset columnOffset line s = .ok m) : m.IsRead maps := by
  obtain ⟨c, origin⟩ := s
  cases origin with
  | none =>
      obtain ⟨column, hcolumn, l, hline, rfl⟩ := place_bare_eq_ok.mp h
      exact ⟨isNumber_of_shift hline, isNumber_of_shift hcolumn, .inl rfl, .inl rfl, .inl rfl,
        .inl rfl⟩
  | some o =>
      obtain ⟨column, hcolumn, name, hname, l, hline, source, hsource, rfl⟩ :=
        place_located_eq_ok.mp h
      refine ⟨isNumber_of_shift hline, isNumber_of_shift hcolumn, .inr ⟨_, rfl⟩, .inr ⟨_, rfl⟩,
        hsources source (mem_of_entryAt hsource), ?_⟩
      obtain ⟨_, _, _, index⟩ := o
      cases index with
      | none =>
          obtain rfl := Except.ok.inj hname
          exact .inl rfl
      | some i => exact hnames name (mem_of_entryAt hname)

/-- Lines are placed as mappings that are read. -/
theorem isRead_of_placeLines {sources names : List Json} {lineOffset columnOffset : Json}
    {line : Nat} {lines : List (List Segment)} {ms : List Mapping}
    (hsources : ∀ x ∈ sources, x.isScalar = true ∨ Unchecked maps (.misuse .unsuitedKind))
    (hnames : ∀ x ∈ names, x.isScalar = true ∨ Unchecked maps (.misuse .unsuitedKind))
    (h : placeLines sources names lineOffset columnOffset line lines = .ok ms) :
    ∀ m ∈ ms, m.IsRead maps := by
  induction lines generalizing line ms with
  | nil =>
      obtain rfl := Except.ok.inj h
      exact fun m hm => nomatch hm
  | cons segments rest ih =>
      obtain ⟨here, hhere, h⟩ := bind_eq_ok.mp h
      obtain ⟨more, hmore, h⟩ := bind_eq_ok.mp h
      obtain rfl := pure_eq_ok.mp h
      intro m hm
      rcases List.mem_append.mp hm with hm | hm
      · obtain ⟨s, -, hs⟩ := exists_of_mem_mapM hhere hm
        exact isRead_of_place hsources hnames hs
      · exact ih hmore m hm

/-- The mappings of a part are read. -/
theorem isRead_of_parseBasic {doc basic lineOffset columnOffset : Json} {ms : List Mapping}
    (hdoc : doc ∈ maps) (hpart : IsPart doc basic lineOffset columnOffset)
    (h : parseBasic basic lineOffset columnOffset = .ok ms) : ∀ m ∈ ms, m.IsRead maps := by
  obtain ⟨sources, names, _, _, hsources, hnames, -, -, hplace⟩ := parseBasic_eq_ok h
  exact isRead_of_placeLines (fun _ => isScalar_of_sourceNames hdoc hpart hsources)
    (fun _ => isScalar_of_names hdoc hpart hnames) hplace

/-- The mappings of a document are read. -/
theorem isRead_of_parse {doc : Json} {ms : List Mapping} (hdoc : doc ∈ maps)
    (h : parse doc = .ok ms) : ∀ m ∈ ms, m.IsRead maps := by
  rcases parse_eq_ok h with ⟨hnone, hbasic⟩ | ⟨sections, parts, hsome, hparts, rfl⟩
  · exact isRead_of_parseBasic hdoc (.whole hnone) hbasic
  · intro m hm
    obtain ⟨ms, hms, hm⟩ := List.mem_flatten.mp hm
    obtain ⟨part, hpart, hread⟩ := exists_of_mem_mapM hparts hms
    exact isRead_of_parseBasic hdoc (.section hsome hpart) (parseSection_eq_ok hread) m hm

end

end HermesBundle.SourceMap
