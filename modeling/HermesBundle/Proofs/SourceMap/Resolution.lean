import HermesBundle.Proofs.SourceMap.RoundTrip
import HermesBundle.Proofs.SourceMap.Unchecked

/-! # Resolution — indices lead to entries or are reported

    The segments of a basic document refer to its tables by indices,
    which are sums and may run below zero or past the end and come back.
    A document whose tables hold texts is read exactly if every index has
    an entry, and each segment then has the entries at its own indices
    (`parse_eq_ok_iff_resolved`).  The route:

    * a table is asked once for each index, the name of a segment before
      its source, and the first index without an entry decides
      (`place_eq_resolved`);
    * so it is for a line and for all lines, one after another
      (`mapM_place_eq_resolved`, `placeLines_eq_resolved`);
    * what is wrong is reported, unless the first index without an entry
      has more digits than can be shown (`missingEntry_isReported_iff`). -/

namespace HermesBundle.SourceMap

open Outcome PlainMapping

/-! ## Tables of texts -/

/-- The source root, if there is one, and the tables of a basic document
    that hold texts. -/
structure TextTables where
  root : Option Text
  sources : List Text
  names : List Text

/-- Whether a document is basic and declares version 3, a mappings text
    and tables of texts. -/
structure IsTextDocument (doc : Json) (tables : TextTables) (mappings : Text) : Prop where
  version : requireVersion doc = .ok ()
  basic : doc.get? "sections" = none
  root : doc.get? "sourceRoot" = tables.root.map Json.str
  sources : doc.get? "sources" = some (.arr (tables.sources.map Json.str))
  names : doc.get? "names" = some (.arr (tables.names.map Json.str))
  mappings : doc.get? "mappings" = some (.str mappings)

/-- The indices of a segment with the tables they refer to, in the order
    in which they are looked up. -/
def Segment.lookups (s : Segment) : List (IndexTable × Int) :=
  match s.origin with
  | none => []
  | some o => o.name.toList.map (fun index => (.names, index)) ++ [(.sources, o.source)]

namespace TextTables

variable (tables : TextTables)

/-- A source with the root in front of it, unless it has a scheme or is
    absolute. -/
def rooted (source : Text) : Text :=
  match tables.root with
  | none => source
  | some root =>
      if root.isEmpty || source.contains "://" || source.startsWith "/" then source
      else root.trimRightOf '/' ++ Text.ofString "/" ++ source

/-- The entries of a table; the sources have the root in front of them. -/
def entries : IndexTable → List Text
  | .sources => tables.sources.map tables.rooted
  | .names => tables.names

/-- Whether a table has an entry at an index. -/
def HasEntry (lookup : IndexTable × Int) : Prop :=
  0 ≤ lookup.2 ∧ lookup.2 < (tables.entries lookup.1).length

instance (lookup : IndexTable × Int) : Decidable (tables.HasEntry lookup) :=
  inferInstanceAs (Decidable (0 ≤ lookup.2 ∧ lookup.2 < (tables.entries lookup.1).length))

/-- The first of some lookups that finds no entry. -/
def firstMissing (lookups : List (IndexTable × Int)) : Option (IndexTable × Int) :=
  lookups.find? fun lookup => !decide (tables.HasEntry lookup)

/-- The mapping of a segment on a line, with the entries at its indices. -/
def mappingOf (line : Nat) (s : Segment) : PlainMapping :=
  match s.origin with
  | none => .bare line s.column
  | some o =>
      ⟨line, s.column, (tables.entries .sources)[o.source.toNat]?, some o.line, some o.column,
        o.name.bind fun index => (tables.entries .names)[index.toNat]?⟩

/-- The mappings of lines from a given one on, one for each segment. -/
def listingFrom (line : Nat) (lines : List (List Segment)) : List PlainMapping :=
  (lines.mapIdx fun i segments => segments.map (tables.mappingOf (line + i))).flatten

/-- What is read if some lookups have to find their entries: mappings, or
    the complaint about the first lookup that finds none. -/
def resolved (lookups : List (IndexTable × Int)) (ms : List PlainMapping) :
    Except Fault (List Mapping) :=
  match tables.firstMissing lookups with
  | none => .ok (ms.map toMapping)
  | some (table, index) => .error (missingEntry table index)

variable {tables}

/-! ## Looking up -/

/-- A lookup finds the entry that the table has at the index. -/
theorem entryAt_of_hasEntry {table : IndexTable} {index : Int}
    (h : tables.HasEntry (table, index)) :
    entryAt table ((tables.entries table).map Json.str) index
      = .ok (textValue (tables.entries table)[index.toNat]?) := by
  obtain ⟨hpos, hlt⟩ : 0 ≤ index ∧ index < (tables.entries table).length := h
  unfold entryAt
  rw [if_neg (Int.not_lt.mpr hpos), List.getElem?_map, List.getElem?_eq_getElem (by omega)]
  rfl

/-- Where the table has no entry, the index is complained about: one below
    zero does not count from the end. -/
theorem entryAt_of_not_hasEntry {table : IndexTable} {index : Int}
    (h : ¬tables.HasEntry (table, index)) :
    entryAt table ((tables.entries table).map Json.str) index
      = .error (missingEntry table index) := by
  unfold entryAt
  by_cases hneg : index < 0
  · rw [if_pos hneg]
  · have hnone : (tables.entries table).length ≤ index.toNat := by
      by_contra hlt
      exact h (show 0 ≤ index ∧ index < (tables.entries table).length by omega)
    rw [if_neg hneg, List.getElem?_map, List.getElem?_eq_none hnone]
    rfl

/-- A lookup that finds its entry leaves the decision to the others. -/
theorem firstMissing_cons (lookup : IndexTable × Int) (rest : List (IndexTable × Int)) :
    tables.firstMissing (lookup :: rest)
      = if tables.HasEntry lookup then tables.firstMissing rest else some lookup := by
  unfold firstMissing
  by_cases h : tables.HasEntry lookup
  · rw [if_pos h, List.find?_cons_of_neg (by simpa using h)]
  · rw [if_neg h, List.find?_cons_of_pos (by simpa using h)]

/-- Lookups one after others: the first that finds none decides. -/
theorem firstMissing_append (first second : List (IndexTable × Int)) :
    tables.firstMissing (first ++ second)
      = (tables.firstMissing first).or (tables.firstMissing second) := List.find?_append

theorem firstMissing_eq_none_iff {lookups : List (IndexTable × Int)} :
    tables.firstMissing lookups = none ↔ ∀ lookup ∈ lookups, tables.HasEntry lookup := by
  unfold firstMissing
  rw [List.find?_eq_none]
  simp

/-- What is read after other lookups is not read if those do not find
    their entries. -/
theorem resolved_append (first second : List (IndexTable × Int)) (ms more : List PlainMapping) :
    tables.resolved (first ++ second) (ms ++ more)
      = (do
          let here ← tables.resolved first ms
          let rest ← tables.resolved second more
          return here ++ rest) := by
  unfold resolved
  rw [firstMissing_append]
  cases tables.firstMissing first with
  | some lookup => rfl
  | none =>
      cases tables.firstMissing second with
      | some lookup => rfl
      | none =>
          rw [List.map_append]
          rfl

/-- A segment whose lookups find their entries is read with them. -/
theorem place_of_hasEntries (line : Nat) {s : Segment}
    (h : ∀ lookup ∈ s.lookups, tables.HasEntry lookup) :
    place ((tables.entries .sources).map Json.str) ((tables.entries .names).map Json.str)
        (.int 0) (.int 0) line s = .ok (tables.mappingOf line s).toMapping := by
  obtain ⟨column, origin⟩ := s
  cases origin with
  | none =>
      exact place_bare_eq_ok.mpr
        ⟨_, by rw [ite_self]; exact shift_zero _, _, shift_zero _, rfl⟩
  | some o =>
      obtain ⟨source, l, sourceColumn, name⟩ := o
      obtain ⟨hnames, hsource⟩ := List.forall_mem_append.mp h
      have hfound := entryAt_of_hasEntry (List.forall_mem_singleton.mp hsource)
      have hname : nameAt ((tables.entries .names).map Json.str) name
          = .ok (textValue (name.bind fun index => (tables.entries .names)[index.toNat]?)) := by
        cases name with
        | none => rfl
        | some index => exact entryAt_of_hasEntry (List.forall_mem_singleton.mp hnames)
      exact place_located_eq_ok.mpr
        ⟨_, by rw [ite_self]; exact shift_zero _, _, hname, _, shift_zero _, _, hfound, rfl⟩

/-- A segment is not read if one of its lookups finds no entry: the first
    of them is complained about. -/
theorem place_of_firstMissing (line : Nat) {s : Segment} {lookup : IndexTable × Int}
    (h : tables.firstMissing s.lookups = some lookup) :
    place ((tables.entries .sources).map Json.str) ((tables.entries .names).map Json.str)
        (.int 0) (.int 0) line s = .error (missingEntry lookup.1 lookup.2) := by
  obtain ⟨column, origin⟩ := s
  cases origin with
  | none => exact nomatch h
  | some o =>
      obtain ⟨source, l, sourceColumn, name⟩ := o
      have hsource : ∀ {lookup}, tables.firstMissing [(.sources, source)] = some lookup →
          entryAt .sources ((tables.entries .sources).map Json.str) source
            = .error (missingEntry lookup.1 lookup.2) := by
        intro lookup hmissing
        rw [firstMissing_cons] at hmissing
        split at hmissing
        · exact nomatch hmissing
        · rename_i hnone
          obtain rfl := Option.some.inj hmissing
          exact entryAt_of_not_hasEntry hnone
      cases name with
      | none =>
          unfold place
          simp only [ite_self, shift_zero, hsource h]
          rfl
      | some index =>
          change tables.firstMissing [(.names, index), (.sources, source)] = some lookup at h
          rw [firstMissing_cons] at h
          -- the name is looked up first
          unfold place
          split at h
          · rename_i hname
            simp only [ite_self, shift_zero, entryAt_of_hasEntry hname, hsource h]
            rfl
          · rename_i hname
            obtain rfl := Option.some.inj h
            simp only [ite_self, shift_zero, entryAt_of_not_hasEntry hname]
            rfl

/-- Lookups that all find their entries let the mappings be read. -/
theorem resolved_eq_ok_iff {lookups : List (IndexTable × Int)} {ps : List PlainMapping}
    {ms : List Mapping} :
    tables.resolved lookups ps = .ok ms
      ↔ (∀ lookup ∈ lookups, tables.HasEntry lookup) ∧ ms = ps.map toMapping := by
  rw [← firstMissing_eq_none_iff]
  unfold resolved
  cases tables.firstMissing lookups with
  | none => exact ⟨fun h => ⟨rfl, (Except.ok.inj h).symm⟩, fun h => congrArg Except.ok h.2.symm⟩
  | some lookup => exact ⟨fun h => (nomatch h), fun h => nomatch h.1⟩

/-- The first lookup that finds no entry is complained about. -/
theorem resolved_eq_error_iff {lookups : List (IndexTable × Int)} {ps : List PlainMapping}
    {fault : Fault} :
    tables.resolved lookups ps = .error fault
      ↔ ∃ table index, tables.firstMissing lookups = some (table, index)
        ∧ fault = missingEntry table index := by
  unfold resolved
  cases tables.firstMissing lookups with
  | none => exact ⟨fun h => (nomatch h), fun ⟨_, _, h, _⟩ => nomatch h⟩
  | some lookup =>
      obtain ⟨table, index⟩ := lookup
      constructor
      · intro h
        exact ⟨table, index, rfl, (Except.error.inj h).symm⟩
      · rintro ⟨_, _, h, hfault⟩
        obtain ⟨rfl, rfl⟩ := Prod.mk.inj (Option.some.inj h)
        rw [hfault]

/-- **A segment** is read with the entries at its indices, or the first
    lookup that finds none is complained about. -/
theorem place_eq_resolved (line : Nat) (s : Segment) :
    (place ((tables.entries .sources).map Json.str) ((tables.entries .names).map Json.str)
        (.int 0) (.int 0) line s).map (fun m => [m])
      = tables.resolved s.lookups [tables.mappingOf line s] := by
  unfold resolved
  cases hmissing : tables.firstMissing s.lookups with
  | none =>
      rw [place_of_hasEntries line (firstMissing_eq_none_iff.mp hmissing)]
      rfl
  | some lookup =>
      rw [place_of_firstMissing line hmissing]
      rfl

/-- **A line** is read segment by segment. -/
theorem mapM_place_eq_resolved (line : Nat) (segments : List Segment) :
    segments.mapM (place ((tables.entries .sources).map Json.str)
        ((tables.entries .names).map Json.str) (.int 0) (.int 0) line)
      = tables.resolved (segments.flatMap Segment.lookups) (segments.map (tables.mappingOf line)) := by
  induction segments with
  | nil => rfl
  | cons s rest ih =>
      rw [List.mapM_cons, ih, List.flatMap_cons, List.map_cons, ← List.singleton_append,
        resolved_append, ← place_eq_resolved]
      cases place ((tables.entries .sources).map Json.str) ((tables.entries .names).map Json.str)
        (.int 0) (.int 0) line s with
      | error fault => rfl
      | ok m => rfl

/-- **All lines** are read one after another. -/
theorem placeLines_eq_resolved (line : Nat) (lines : List (List Segment)) :
    placeLines ((tables.entries .sources).map Json.str) ((tables.entries .names).map Json.str)
        (.int 0) (.int 0) line lines
      = tables.resolved (lines.flatten.flatMap Segment.lookups) (tables.listingFrom line lines) := by
  induction lines generalizing line with
  | nil => rfl
  | cons segments rest ih =>
      have hlisting : tables.listingFrom line (segments :: rest)
          = segments.map (tables.mappingOf line) ++ tables.listingFrom (line + 1) rest := by
        unfold listingFrom
        rw [List.mapIdx_cons, List.flatten_cons]
        simp only [Nat.add_zero, Nat.add_assoc, Nat.add_comm 1]
      rw [placeLines, mapM_place_eq_resolved, ih, List.flatten_cons, List.flatMap_append, hlisting,
        resolved_append]

end TextTables

/-! ## Documents of texts -/

namespace IsTextDocument

variable {doc : Json} {tables : TextTables} {mappings : Text}

/-- The sources of the document have the root in front of them. -/
theorem sourceNames_eq (h : IsTextDocument doc tables mappings) :
    sourceNames doc = .ok ((tables.entries .sources).map Json.str) := by
  have hsources : arrayMember doc "sources" = .ok (tables.sources.map Json.str) :=
    arrayMember_of_arr (congrArg (·.getD .null) h.sources)
  have hroot : member doc "sourceRoot" = textValue tables.root := by
    unfold member
    rw [h.root]
    cases tables.root <;> rfl
  have hjoin : ∀ source ∈ tables.sources,
      joinRoot (textValue tables.root) (.str source) = .ok (Json.str (tables.rooted source)) := by
    intro source _
    unfold joinRoot TextTables.rooted
    cases tables.root with
    | none => rfl
    | some root =>
        have htruthy : (textValue (some root)).isTruthy = !root.isEmpty := rfl
        dsimp only
        rw [htruthy, Bool.not_not]
        split
        · rfl
        · rfl
  cases doc with
  | obj members =>
      unfold sourceNames
      rw [hsources, hroot]
      dsimp only
      rw [List.mapM_map]
      refine (mapM_of_forall hjoin).trans (congrArg Except.ok ?_)
      exact List.map_map.symm
  | _ => exact nomatch h.version

/-- Reading the document is reading its mappings text with its tables. -/
theorem parse_eq (h : IsTextDocument doc tables mappings) :
    parse doc = (Mappings.decode mappings >>= fun lines =>
      tables.resolved (lines.flatten.flatMap Segment.lookups) (tables.listingFrom 0 lines)) := by
  have hnames : arrayMember doc "names" = .ok (tables.names.map Json.str) :=
    arrayMember_of_arr (congrArg (·.getD .null) h.names)
  unfold parse
  rw [bind_of_eq_ok h.version, h.basic]
  show parseBasic _ _ _ = _
  unfold parseBasic
  rw [bind_of_eq_ok h.sourceNames_eq, h.mappings, hnames]
  show (Mappings.decode mappings >>= placeLines _ _ _ _ _) = _
  simp only [← TextTables.placeLines_eq_resolved]
  rfl

end IsTextDocument

/-- The complaint about an index is reported unless the index has more
    digits than can be shown. -/
theorem missingEntry_isReported_iff (table : IndexTable) (index : Int) :
    (missingEntry table index).IsReported ↔ index.natAbs < 10 ^ Json.digitLimit := by
  unfold missingEntry
  rw [Nat.pow_eq]
  by_cases h : index.natAbs < 10 ^ Json.digitLimit
  · rw [if_pos h]
    exact iff_of_true rfl h
  · rw [if_neg h]
    exact iff_of_false (fun hreported => nomatch hreported) h

/-- **Indices lead to entries or are reported.**  A document of texts is
    read exactly if its mappings text is and every index has an entry in
    its table, and then as one mapping for each segment, with the entries
    at its indices.  It is reported exactly if its mappings text is not
    read, or if the first index without an entry can be shown. -/
theorem parse_eq_ok_iff_resolved {doc : Json} {tables : TextTables} {mappings : Text}
    (h : IsTextDocument doc tables mappings) :
    (∀ ms, parse doc = .ok ms ↔ ∃ lines, Mappings.decode mappings = .ok lines
        ∧ (∀ lookup ∈ lines.flatten.flatMap Segment.lookups, tables.HasEntry lookup)
        ∧ ms = (tables.listingFrom 0 lines).map toMapping)
      ∧ ((∃ fault, parse doc = .error fault ∧ fault.IsReported) ↔
        (∃ fault, Mappings.decode mappings = .error fault)
          ∨ ∃ lines table index, Mappings.decode mappings = .ok lines
            ∧ tables.firstMissing (lines.flatten.flatMap Segment.lookups) = some (table, index)
            ∧ index.natAbs < 10 ^ Json.digitLimit) := by
  rw [h.parse_eq]
  cases hdecode : Mappings.decode mappings with
  | error fault =>
      refine ⟨fun ms => iff_of_false (fun hok => nomatch hok) (fun ⟨_, hok, _⟩ => nomatch hok), ?_⟩
      exact iff_of_true ⟨fault, rfl, failsOnly_decode mappings fault hdecode⟩
        (.inl ⟨fault, rfl⟩)
  | ok lines =>
      refine ⟨fun ms => ?_, ?_⟩
      · rw [bind_of_eq_ok rfl, TextTables.resolved_eq_ok_iff]
        simp only [Except.ok.injEq, exists_eq_left']
      · rw [bind_of_eq_ok rfl]
        simp only [TextTables.resolved_eq_error_iff]
        constructor
        · rintro ⟨fault, ⟨table, index, hmissing, hfault⟩, hreported⟩
          rw [hfault] at hreported
          exact .inr ⟨lines, table, index, rfl, hmissing,
            (missingEntry_isReported_iff table index).mp hreported⟩
        · rintro (⟨_, hfails⟩ | ⟨_, table, index, hlines, hmissing, hshort⟩)
          · exact nomatch hfails
          · obtain rfl := Except.ok.inj hlines
            exact ⟨_, ⟨table, index, hmissing, rfl⟩,
              (missingEntry_isReported_iff table index).mpr hshort⟩

/-- The document of some tables and a mappings text. -/
def TextTables.document (tables : TextTables) (mappings : Text) : Json :=
  .obj ([(Text.ofString "version", .int 3), (Text.ofString "sources", .arr (tables.sources.map .str)),
      (Text.ofString "names", .arr (tables.names.map .str)),
      (Text.ofString "mappings", .str mappings)]
    ++ tables.root.toList.map fun root => (Text.ofString "sourceRoot", .str root))

theorem TextTables.isTextDocument_document (tables : TextTables) (mappings : Text) :
    IsTextDocument (tables.document mappings) tables mappings := by
  obtain ⟨root, sources, names⟩ := tables
  cases root with
  | none => exact ⟨rfl, rfl, rfl, rfl, rfl, rfl⟩
  | some root => exact ⟨rfl, rfl, rfl, rfl, rfl, rfl⟩

/-- Tables with a root, and an absolute source that it does not change. -/
def rootedTables : TextTables :=
  ⟨some (Text.ofString "src//"), [Text.ofString "a.ts", Text.ofString "/b.ts"],
    [Text.ofString "f", Text.ofString "g"]⟩

/-- The indices go up and come down again. -/
theorem parse_eq_ok_iff_resolved_rooted :
    IsTextDocument (rootedTables.document "ACAAC;A,CDAAD") rootedTables "ACAAC;A,CDAAD"
      ∧ parse (rootedTables.document "ACAAC;A,CDAAD") = .ok
        ([⟨0, 0, some (Text.ofString "/b.ts"), some 0, some 0, some (Text.ofString "g")⟩,
          .bare 1 0,
          ⟨1, 1, some (Text.ofString "src/a.ts"), some 0, some 0, some (Text.ofString "f")⟩].map
            toMapping) := by
  have hdocument := rootedTables.isTextDocument_document "ACAAC;A,CDAAD"
  have hlines : Mappings.decode "ACAAC;A,CDAAD" = .ok
      [[⟨0, some ⟨1, 0, 0, some 1⟩⟩], [⟨0, none⟩, ⟨1, some ⟨0, 0, 0, some 0⟩⟩]] := rfl
  refine ⟨hdocument, ((parse_eq_ok_iff_resolved hdocument).1 _).mpr ⟨_, hlines, ?_, ?_⟩⟩
  · decide +kernel
  · rfl

/-- An index that has one digit more than can be shown. -/
def longIndex : Int := (10 ^ Json.digitLimit : Nat)

/-- A mappings text with a segment that has this index. -/
def longIndexText : Text := Mappings.encode [[⟨0, some ⟨longIndex, 0, 0, none⟩⟩]]

/-- Tables with a single source. -/
def singleTables : TextTables := ⟨none, [Text.ofString "app.js"], []⟩

/-- **An index of too many digits** has no entry, and the failure is not
    reported. -/
theorem longIndex_not_reported :
    IsTextDocument (singleTables.document longIndexText) singleTables longIndexText
      ∧ parse (singleTables.document longIndexText) = .error .tooManyDigits
      ∧ ¬Fault.tooManyDigits.IsReported := by
  have hdocument := singleTables.isTextDocument_document longIndexText
  have hlines : Mappings.decode longIndexText
      = .ok [[⟨0, some ⟨longIndex, 0, 0, none⟩⟩]] := Mappings.decode_encode (List.cons_ne_nil _ _)
  have hnone : ¬singleTables.HasEntry (.sources, longIndex) := by
    have hpos : 0 < 10 ^ Json.digitLimit := Nat.pow_pos (by decide)
    rintro ⟨-, hlt⟩
    change ((10 ^ Json.digitLimit : Nat) : Int) < ((1 : Nat) : Int) at hlt
    omega
  have hmissing : singleTables.firstMissing [(.sources, longIndex)] = some (.sources, longIndex) := by
    rw [TextTables.firstMissing_cons, if_neg hnone]
  have hlong : missingEntry .sources longIndex = .tooManyDigits := by
    unfold missingEntry longIndex
    rw [Int.natAbs_natCast, Nat.pow_eq, if_neg (Nat.lt_irrefl _)]
  refine ⟨hdocument, ?_, fun hreported => nomatch hreported⟩
  rw [hdocument.parse_eq, bind_of_eq_ok hlines, ← hlong]
  exact TextTables.resolved_eq_error_iff.mpr ⟨_, _, hmissing, rfl⟩

end HermesBundle.SourceMap
