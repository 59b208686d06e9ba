import HermesBundle.Proofs.SourceMap.Resolution

/-! # Tables — every entry once, at its first use

    Assembling enters the sources and names of mappings into two tables
    while the lines are written, and skips the mappings that have no
    place in a source.  Whatever mappings on lines from 0 on it is given,
    the document has what they need and no more (`assemble_isTidy`):

    * a table has each text that is used once, in the order of first uses
      (`exists_firstUses`), and only located mappings use any
      (`sources_eq_firstUses`, `names_eq_firstUses`);
    * there are lines down to the last mapping, each in the order of its
      columns (`height_readLines`, `columns_readLines`);
    * every index has an entry, since the document can be read back. -/

namespace HermesBundle.SourceMap

open Outcome PlainMapping

/-! ## First uses -/

/-- Whether a table lists the texts of some uses: each of them once and
    nothing else, in the order of first uses. -/
structure ListsFirstUses (uses table : List Text) : Prop where
  nodup : table.Nodup
  mem_iff : ∀ t, t ∈ table ↔ t ∈ uses
  inOrder : table.Pairwise fun a b => uses.idxOf a < uses.idxOf b

/-- One more use in front: its text comes first and is taken out behind. -/
theorem ListsFirstUses.cons {uses table : List Text} (h : ListsFirstUses uses table) (t : Text) :
    ListsFirstUses (t :: uses) (t :: table.filter fun x => !t == x) := by
  have hne : ∀ x ∈ table.filter (fun x => !t == x), t ≠ x := by
    intro x hx
    simpa using (List.mem_filter.mp hx).2
  refine ⟨List.nodup_cons.mpr ⟨fun ht => hne t ht rfl, h.nodup.filter _⟩, fun x => ?_,
    List.pairwise_cons.mpr ⟨fun x hx => ?_, ?_⟩⟩
  · rw [List.mem_cons, List.mem_cons, List.mem_filter, h.mem_iff]
    by_cases hx : x = t
    · simp [hx]
    · simp [hx, Ne.symm hx]
  · rw [List.idxOf_cons_self, List.idxOf_cons_ne _ (hne x hx)]
    exact Nat.succ_pos _
  · refine (h.inOrder.filter _).imp_of_mem fun ha hb hab => ?_
    rw [List.idxOf_cons_ne _ (hne _ ha), List.idxOf_cons_ne _ (hne _ hb)]
    exact Nat.succ_lt_succ hab

/-- The values of texts at their first use are a table of them. -/
theorem exists_firstUses (uses : List Text) :
    ∃ table, firstUses (uses.map Json.str) = table.map Json.str ∧ ListsFirstUses uses table := by
  induction uses with
  | nil => exact ⟨[], rfl, List.nodup_nil, fun _ => Iff.rfl, .nil⟩
  | cons t rest ih =>
      obtain ⟨table, htable, hlists⟩ := ih
      refine ⟨_, ?_, hlists.cons t⟩
      rw [List.map_cons, firstUses, htable, List.filter_map, List.map_cons]
      rfl

namespace PlainMapping

variable {ms : List PlainMapping}

/-- The sources that mappings refer to, one for each that has a place in
    it. -/
def sourceUses (ms : List PlainMapping) : List Text := (ms.filter isLocated).filterMap (·.source)

/-- The names that mappings carry to a place in a source. -/
def nameUses (ms : List PlainMapping) : List Text := (ms.filter isLocated).filterMap (·.name)

/-- Mappings without a place in a source use no source. -/
theorem sources_eq_firstUses (ms : List PlainMapping) :
    sources ms = firstUses ((sourceUses ms).map Json.str) := by
  unfold sources sourceTable sourceUses
  rw [List.filterMap_map, List.map_filterMap, List.filterMap_filter]
  refine congrArg firstUses (List.filterMap_congr fun m _ => ?_)
  rcases located_or_bare m with
    ⟨line, column, source, sourceLine, sourceColumn, name, rfl⟩ | hbare
  · rfl
  · simp [placed, hbare]

/-- Mappings without a place in a source use no name. -/
theorem names_eq_firstUses (ms : List PlainMapping) :
    names ms = firstUses ((nameUses ms).map Json.str) := by
  unfold names nameTable nameUses
  rw [List.filterMap_map, List.map_filterMap, List.filterMap_filter]
  refine congrArg firstUses (List.filterMap_congr fun m _ => ?_)
  rcases located_or_bare m with
    ⟨line, column, source, sourceLine, sourceColumn, name, rfl⟩ | hbare
  · cases name with
    | none => rfl
    | some n => rfl
  · simp [placed, hbare]

/-! ## Lines -/

/-- The lines that are counted end with that of a mapping. -/
theorem exists_lineCount_eq {ps : List Placed} (h : ps ≠ []) :
    ∃ p ∈ ps, lineCount ps = p.line + 1 := by
  induction ps with
  | nil => exact absurd rfl h
  | cons q rest ih =>
      rw [lineCount_cons]
      by_cases hlast : lineCount rest ≤ q.line + 1
      · exact ⟨q, List.mem_cons_self .., Nat.max_eq_left hlast⟩
      · have hrest : rest ≠ [] := by
          rintro rfl
          exact hlast (Nat.zero_le _)
        obtain ⟨p, hp, hcount⟩ := ih hrest
        exact ⟨p, List.mem_cons_of_mem _ hp, by omega⟩

/-- There are lines down to the last mapping, or one empty line. -/
theorem height_readLines (hnonneg : ∀ m ∈ ms, 0 ≤ m.line) :
    (ms = [] ∧ readLines ms = [[]])
      ∨ ∃ m ∈ ms, (∀ x ∈ ms, x.line ≤ m.line) ∧ (readLines ms).length = m.line + 1 := by
  by_cases hempty : ms = []
  · exact .inl ⟨hempty, if_pos hempty⟩
  · obtain ⟨_, hp, hcount⟩ := exists_lineCount_eq (List.map_eq_nil_iff.not.mpr hempty)
    obtain ⟨m, hm, rfl⟩ := List.mem_map.mp hp
    have hline : lineCount (ms.map placed) = m.line.toNat + 1 := hcount
    have hpos := hnonneg m hm
    refine .inr ⟨m, hm, fun x hx => ?_, ?_⟩
    · have hlt : x.line.toNat < lineCount (ms.map placed) :=
        line_lt_lineCount (List.mem_map_of_mem hx : x.placed ∈ ms.map placed)
      omega
    · rw [readLines, if_neg hempty, segmentLines, List.length_map, List.length_range]
      omega

/-- The segments of a line are in the order of their columns. -/
theorem columns_readLines (hsorted : ms.Pairwise fun a b => notAfter a b = true)
    (hnonneg : ∀ m ∈ ms, 0 ≤ m.line) :
    ∀ line ∈ readLines ms, line.Pairwise fun a b => a.column ≤ b.column := by
  intro line hline
  unfold readLines at hline
  split at hline
  · obtain rfl := List.mem_singleton.mp hline
    exact .nil
  · obtain ⟨i, -, rfl⟩ := List.mem_map.mp hline
    refine List.pairwise_map.mpr ((hsorted.filter _).imp_of_mem fun {a b} ha hb hab => ?_)
    obtain ⟨hamem, hai⟩ := List.mem_filter.mp ha
    obtain ⟨hbmem, hbi⟩ := List.mem_filter.mp hb
    have hapos := hnonneg a hamem
    have hbpos := hnonneg b hbmem
    rw [beq_iff_eq] at hai hbi
    unfold notAfter at hab
    rw [decide_eq_true_eq] at hab
    -- both are on line `i`, where the order of positions is that of columns
    show a.column ≤ b.column
    omega

end PlainMapping

/-! ## The document -/

/-- Whether a document, with its tables and the lines of its mappings
    text, has what some mappings need and no more. -/
structure IsTidy (ms : List PlainMapping) (contents : Json.Table Json) (doc : Json)
    (tables : TextTables) (lines : List (List Segment)) : Prop where
  sources : ListsFirstUses (sourceUses (sorted ms)) tables.sources
  names : ListsFirstUses (nameUses (sorted ms)) tables.names
  height : (ms = [] ∧ lines = [[]])
    ∨ ∃ m ∈ ms, (∀ x ∈ ms, x.line ≤ m.line) ∧ lines.length = m.line + 1
  columns : ∀ line ∈ lines, line.Pairwise fun a b => a.column ≤ b.column
  indices : ∀ lookup ∈ lines.flatten.flatMap Segment.lookups, tables.HasEntry lookup
  contents : doc.get? "sourcesContent"
    = if ∃ s ∈ tables.sources, (contents.get? (.str s)).isSome then
        some (.arr (tables.sources.map fun s => (contents.get? (.str s)).getD .null))
      else none

/-- An assembled document whose tables hold texts is a document of texts
    without a root. -/
theorem Assembled.isTextDocument_toJson (a : Assembled) {sources names : List Text}
    (hsources : a.sources = sources.map Json.str) (hnames : a.names = names.map Json.str) :
    IsTextDocument a.toJson ⟨none, sources, names⟩ a.mappings := by
  rw [← a.extended_nil]
  exact ⟨rfl, a.extended_sections [], a.extended_sourceRoot [],
    hsources ▸ a.extended_sources [], hnames ▸ a.extended_names [], a.extended_mappings []⟩

/-- The contents are embedded in the order of the sources, null where
    there is none, if any source has one. -/
theorem contentsFor_map_str (contents : Json.Table Json) (sources : List Text) :
    contentsFor contents (sources.map Json.str)
      = if ∃ s ∈ sources, (contents.get? (.str s)).isSome then
          some (sources.map fun s => (contents.get? (.str s)).getD .null)
        else none := by
  unfold contentsFor
  simp only [List.any_map, List.any_eq_true, List.map_map, Function.comp_def]

/-- **An assembled document is tidy**: mappings of integers and texts, on
    lines from 0 on, are always assembled, to a document of texts without
    a root whose tables list the first uses, whose lines end with the last
    mapping, whose indices have entries, and whose contents are those of
    its sources. -/
theorem assemble_isTidy (origin : Mapping.Origin) (ms : List PlainMapping) (file : Json)
    (contents : Json.Table Json) (hnonneg : ∀ m ∈ ms, 0 ≤ m.line) :
    ∃ document tables mappings lines,
      assemble origin (ms.map toMapping) file contents = .ok document
        ∧ IsTextDocument document.toJson tables mappings ∧ tables.root = none
        ∧ Mappings.decode mappings = .ok lines
        ∧ IsTidy ms contents document.toJson tables lines := by
  have hordered : ∀ m ∈ sorted ms, 0 ≤ m.line := fun m hm => hnonneg m (mem_sorted.mp hm)
  obtain ⟨sourceTexts, hsources, hsourceUses⟩ := exists_firstUses (sourceUses (sorted ms))
  obtain ⟨nameTexts, hnames, hnameUses⟩ := exists_firstUses (nameUses (sorted ms))
  rw [← sources_eq_firstUses] at hsources
  rw [← names_eq_firstUses] at hnames
  have hdocument : IsTextDocument (assembly ms file contents).toJson ⟨none, sourceTexts, nameTexts⟩
      (assembly ms file contents).mappings := Assembled.isTextDocument_toJson _ hsources hnames
  have hdecode := decode_assembly ms file contents
  refine ⟨_, _, _, _, assemble_toMapping origin file contents hnonneg, hdocument, rfl, hdecode,
    hsourceUses, hnameUses, ?_, columns_readLines (sorted_pairwise ms) hordered, ?_, ?_⟩
  · have hempty : sorted ms = [] ↔ ms = [] := by
      rw [← List.length_eq_zero_iff, sorted_length, List.length_eq_zero_iff]
    simpa only [hempty, mem_sorted] using height_readLines hordered
  · -- what can be read back has an entry for every index
    have hparse : parse ((assembly ms file contents).extended [])
        = .ok ((sorted ms).map fun m => m.settled.toMapping) :=
      parse_assembly file contents hnonneg rfl rfl
    rw [Assembled.extended_nil, hdocument.parse_eq, bind_of_eq_ok hdecode] at hparse
    exact (TextTables.resolved_eq_ok_iff.mp hparse).1
  · have hcontents : (assembly ms file contents).contents
        = contentsFor contents (sourceTexts.map Json.str) := congrArg (contentsFor contents) hsources
    rw [← Assembled.extended_nil, Assembled.extended_contents, hcontents, contentsFor_map_str]
    split
    · rfl
    · rfl

/-- The contents of one source that is used and of one that is not. -/
def partialContents : Json.Table Json :=
  [(.str (Text.ofString "a.ts"), .str (Text.ofString "f();")),
    (.str (Text.ofString "c.ts"), .null)]

theorem assemble_isTidy_scattered :
    (∀ m ∈ scatteredMappings, 0 ≤ m.line)
      ∧ ∃ document tables mappings lines,
        assemble .given (scatteredMappings.map toMapping) .null partialContents = .ok document
          ∧ IsTextDocument document.toJson tables mappings ∧ tables.root = none
          ∧ Mappings.decode mappings = .ok lines
          ∧ IsTidy scatteredMappings partialContents document.toJson tables lines := by
  have hnonneg : ∀ m ∈ scatteredMappings, 0 ≤ m.line := by decide
  exact ⟨hnonneg, assemble_isTidy .given scatteredMappings .null partialContents hnonneg⟩

end HermesBundle.SourceMap
