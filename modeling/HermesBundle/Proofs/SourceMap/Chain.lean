import HermesBundle.Proofs.SourceMap.Redirection

/-! # Chains — looking up in a composed document

    A chain of plain documents that can be composed loses nothing:

    * **what is listed** (`parse_compose`) — the composed document lists
      the mappings of the last one in order, each with its place in a
      source looked up again in the earlier ones;
    * **what is found** (`lookup_compose`) — a lookup in it gives what a
      lookup in the last document and then, at the place found, in each
      earlier one gives.

    The first holds of whole lists, so the second need not look at how
    the composed document is written: putting mappings in order keeps
    every hit, and resolving them resolves the hits. -/

namespace HermesBundle.SourceMap

open Outcome PlainMapping

/-- The answer of a document to a query. -/
def lookup (doc line column : Json) : Except Fault (Option Mapping) := do
  let ms ← parse doc
  sourcePosition ms line column

/-- A mapping looked up in a document at the place it refers to.  Without
    an answer it stays as it is; else it refers to the place found, and
    keeps its name only if there is none. -/
def follow (m : Mapping) (doc : Json) : Except Fault Mapping := do
  match ← lookup doc m.sourceLine m.sourceColumn with
  | none => return m
  | some found =>
      return { m with
        source := found.source
        sourceLine := found.sourceLine
        sourceColumn := found.sourceColumn
        name := if found.name.isNull then m.name else found.name }

/-- A mapping looked up in one document after another. -/
def followAll (m : Mapping) : List Json → Except Fault Mapping
  | [] => .ok m
  | doc :: rest => do
      let next ← follow m doc
      followAll next rest

/-- A query answered by the last document, with the answer looked up in
    the earlier ones from the last of them back to the first. -/
def lookupStepwise (earlier : List Json) (last line column : Json) :
    Except Fault (Option Mapping) := do
  match ← lookup last line column with
  | none => return none
  | some m =>
      let found ← followAll m earlier.reverse
      return some found

/-! ## Step by step -/

/-- A document that lists plain mappings answers with the hit. -/
theorem lookup_of_lists {doc : Json} {ms : List PlainMapping} (h : Lists doc ms)
    (line column : Int) :
    lookup doc (.int line) (.int column) = .ok ((hit line column ms).map toMapping) := by
  unfold lookup
  rw [bind_of_eq_ok h]
  exact sourcePosition_toMapping line column ms

/-- Following a mapping that has a place in a source is a step. -/
theorem follow_toMapping {doc : Json} {ms : List PlainMapping} {m : PlainMapping}
    (h : Lists doc ms) (hm : m.isLocated = true) :
    follow m.toMapping doc = .ok (resolvedIn ms m).toMapping := by
  rcases located_or_bare m with ⟨_, _, source, line, column, name, hfields⟩ | hbare
  · have hlookup : lookup doc m.toMapping.sourceLine m.toMapping.sourceColumn
        = .ok ((hit line column ms).map toMapping) := by
      rw [hfields]
      exact lookup_of_lists h line column
    have hstep : resolvedIn ms m = ((hit line column ms).map m.redirected).getD m :=
      resolvedIn_of_located (by rw [hfields]) (by rw [hfields]) (by rw [hfields])
    unfold follow
    rw [bind_of_eq_ok hlookup, hstep]
    cases hit line column ms with
    | none => rfl
    | some found => exact congrArg Except.ok (toMapping_redirected m found).symm
  · rw [hbare] at hm
    exact nomatch hm

/-- A mapping that has a place in a source can be followed through
    documents that list such mappings, step by step. -/
theorem followAll_toMapping {docs : List Json} {tables : List (List PlainMapping)}
    {m : PlainMapping} (h : List.Forall₂ Lists docs tables)
    (htables : ∀ table ∈ tables, ∀ x ∈ table, x.IsComplete) (hm : m.isLocated = true) :
    followAll m.toMapping docs
      = .ok (tables.foldl (fun m table => resolvedIn table m) m).toMapping := by
  induction h generalizing m with
  | nil => rfl
  | @cons doc table _ _ hdoc _ ih =>
      obtain ⟨htable, hrest⟩ := List.forall_mem_cons.mp htables
      have hsource : (resolvedIn table m).source.isSome = true := by
        rw [resolvedIn_source]
        exact source_isSome_of_isLocated hm
      have hlocated := resolvedIn_isComplete htable (fun _ => hm) hsource
      rw [followAll, bind_of_eq_ok (follow_toMapping hdoc hm)]
      exact ih hrest hlocated

/-- A query answered step by step gives the hit in the last document,
    resolved in the others. -/
theorem lookupStepwise_of_lists {earlier : List Json} {last : Json} {own : List PlainMapping}
    {chain : List (List PlainMapping)} (hlast : Lists last own)
    (hearlier : List.Forall₂ Lists earlier chain) (hown : ∀ m ∈ own, m.IsComplete)
    (hchain : ∀ ms ∈ chain, ∀ m ∈ ms, m.IsComplete) (line column : Int) :
    lookupStepwise earlier last (.int line) (.int column)
      = .ok (((hit line column own).map (resolved chain)).map toMapping) := by
  unfold lookupStepwise
  rw [bind_of_eq_ok (lookup_of_lists hlast line column)]
  cases hhit : hit line column own with
  | none => rfl
  | some m =>
      obtain ⟨hmem, hsource⟩ := mem_of_hit hhit
      have hfollow := followAll_toMapping (List.rel_reverse hearlier)
        (fun ms hms => hchain ms (List.mem_reverse.mp hms)) (hown m hmem hsource)
      rw [List.foldl_reverse] at hfollow
      have hresolved : resolved chain m = chain.foldr resolvedIn m := by
        obtain ⟨source, hm⟩ := Option.isSome_iff_exists.mp hsource
        unfold resolved
        rw [hm]
      rw [Option.map_some, Option.map_some, hresolved]
      exact bind_of_eq_ok hfollow

/-! ## The composed document -/

/-- **Composing loses no segment**: a document composed of plain ones
    lists what the last one lists, in the order of generated positions and
    each mapping at its own position.  A mapping without a source is
    reduced to its position; any other is redirected to the hit in each
    earlier document that has one, the nearest first.  There are as many
    mappings as the last document has segments. -/
theorem parse_compose {earlier : List Json} {last composed : Json}
    (hplain : ∀ doc ∈ earlier ++ [last], isPlainDocument doc = true)
    (h : compose (earlier ++ [last]) = .ok composed) :
    ∃ own chain listed, parse last = .ok (own.map toMapping)
      ∧ List.Forall₂ (fun doc ms => parse doc = .ok (ms.map toMapping)) earlier chain
      ∧ parse composed = .ok (listed.map toMapping)
      ∧ listed = (sorted own).map (resolved chain)
      ∧ listed.length = segmentCount last := by
  obtain ⟨own, chain, hown, hchain, -, -, hlisted⟩ := lists_of_compose hplain h
  refine ⟨own, chain, _, hown, hchain, hlisted, rfl, ?_⟩
  have hcount := length_of_parse hown
  rw [List.length_map] at hcount
  rw [List.length_map, sorted_length, hcount]

/-- A basic document of some tables and a mappings text. -/
def basicDocument (sources names : List Json) (mappings : String) : Json :=
  .obj [(Text.ofString "version", .int 3), (Text.ofString "sources", .arr sources),
    (Text.ofString "names", .arr names), (Text.ofString "mappings", .str (Text.ofString mappings))]

/-- The first document of a chain. -/
def scriptDocument : Json :=
  basicDocument [.string "app.ts"] [.string "greet"] "AAIEA,IACC"

/-- The last document of a chain: one section, shifted by a line and two
    columns, with columns out of order, two segments at one position, a
    source that is null and a segment without a source. -/
def sectionedDocument : Json :=
  .obj [(Text.ofString "version", .int 3),
    (Text.ofString "sections",
      .arr [.obj
        [(Text.ofString "offset",
            .obj [(Text.ofString "line", .int 1), (Text.ofString "column", .int 2)]),
          (Text.ofString "map",
            basicDocument [.string "app.js", .null] [] "IAAE,DAAI,CCAA;A,CDAA")]])]

/-- Both documents of the chain are plain. -/
theorem isPlainDocument_chain :
    ∀ doc ∈ [scriptDocument] ++ [sectionedDocument], isPlainDocument doc = true := by
  rw [List.singleton_append, List.forall_mem_cons, List.forall_mem_singleton]
  exact ⟨rfl, rfl⟩

/-- The chain of the two documents can be composed. -/
theorem exists_compose_sectionedDocument :
    ∃ composed, compose ([scriptDocument] ++ [sectionedDocument]) = .ok composed := by
  have hscript : Lists scriptDocument
      [⟨0, 0, some (Text.ofString "app.ts"), some 4, some 2, some (Text.ofString "greet")⟩,
        ⟨0, 4, some (Text.ofString "app.ts"), some 5, some 3, none⟩] := rfl
  have hsectioned : Lists sectionedDocument
      [⟨1, 6, some (Text.ofString "app.js"), some 0, some 2, none⟩,
        ⟨1, 5, some (Text.ofString "app.js"), some 0, some 6, none⟩,
        ⟨1, 6, none, some 0, some 6, none⟩,
        .bare 2 0,
        ⟨2, 1, some (Text.ofString "app.js"), some 0, some 6, none⟩] := rfl
  exact compose_of_lists hsectioned (.cons hscript .nil) rfl rfl rfl (by decide)

theorem parse_compose_sectionedDocument :
    (∀ doc ∈ [scriptDocument] ++ [sectionedDocument], isPlainDocument doc = true)
      ∧ ∃ composed, compose ([scriptDocument] ++ [sectionedDocument]) = .ok composed
        ∧ ∃ own chain listed, parse sectionedDocument = .ok (own.map toMapping)
          ∧ List.Forall₂ (fun doc ms => parse doc = .ok (ms.map toMapping)) [scriptDocument] chain
          ∧ parse composed = .ok (listed.map toMapping)
          ∧ listed = (sorted own).map (resolved chain)
          ∧ listed.length = segmentCount sectionedDocument := by
  obtain ⟨composed, h⟩ := exists_compose_sectionedDocument
  exact ⟨isPlainDocument_chain, composed, h, parse_compose isPlainDocument_chain h⟩

/-- **Looking up in a composed document** is looking up step by step: in
    the last document, and at each place found in the one before it.  Only
    where the last document has no answer there is none. -/
theorem lookup_compose {earlier : List Json} {last composed : Json}
    (hplain : ∀ doc ∈ earlier ++ [last], isPlainDocument doc = true)
    (h : compose (earlier ++ [last]) = .ok composed) (line column : Int) :
    ∃ answer, lookup composed (.int line) (.int column) = .ok answer
      ∧ lookupStepwise earlier last (.int line) (.int column) = .ok answer
      ∧ (answer = none ↔ lookup last (.int line) (.int column) = .ok none) := by
  obtain ⟨own, chain, hown, hchain, hcomplete, hallComplete, hlisted⟩ := lists_of_compose hplain h
  refine ⟨((hit line column own).map (resolved chain)).map toMapping, ?_,
    lookupStepwise_of_lists hown hchain hcomplete hallComplete line column, ?_⟩
  · rw [lookup_of_lists hlisted, hit_map_resolved, hit_sorted]
  · rw [lookup_of_lists hown, Except.ok.injEq]
    simp only [Option.map_eq_none_iff]

theorem lookup_compose_sectionedDocument :
    (∀ doc ∈ [scriptDocument] ++ [sectionedDocument], isPlainDocument doc = true)
      ∧ ∃ composed, compose ([scriptDocument] ++ [sectionedDocument]) = .ok composed
        ∧ ∃ answer, lookup composed (.int 1) (.int 5) = .ok answer
          ∧ lookupStepwise [scriptDocument] sectionedDocument (.int 1) (.int 5) = .ok answer
          ∧ (answer = none ↔ lookup sectionedDocument (.int 1) (.int 5) = .ok none) := by
  obtain ⟨composed, h⟩ := exists_compose_sectionedDocument
  exact ⟨isPlainDocument_chain, composed, h, lookup_compose isPlainDocument_chain h 1 5⟩

end HermesBundle.SourceMap
