import HermesBundle.Proofs.SourceMap.Answer
import HermesBundle.Proofs.SourceMap.PlainDocument
import HermesBundle.Proofs.SourceMap.RoundTrip
import HermesBundle.SourceMap.Composition

/-! # Redirection — mappings followed through a chain of documents

    A chain hands a mapping from document to document, from the nearest
    one back to the first: what it refers to is looked up in each of them
    and replaced by what was found.  For plain mappings this is a fold of
    one step:

    * the step keeps the position of a mapping and whether it has a
      source (`resolvedIn_source`), and a place in a source
      (`resolvedIn_isComplete`);
    * resolving a list through an index is that step on each mapping
      (`resolveThrough_lineIndex`), through all documents the fold of it
      (`resolveAll_of_lists`);
    * a document composed of plain ones lists what the last one lists,
      in order and with each mapping resolved (`lists_of_compose`). -/

namespace HermesBundle.SourceMap

open Outcome

namespace PlainMapping

/-- The mapping with another place in a source, and with the name there if
    there is one. -/
def redirected (m found : PlainMapping) : PlainMapping :=
  { m with
    source := found.source
    sourceLine := found.sourceLine
    sourceColumn := found.sourceColumn
    name := found.name.or m.name }

/-- A mapping looked up among others: the place it refers to is replaced
    by the one found there, if there is one. -/
def resolvedIn (ms : List PlainMapping) (m : PlainMapping) : PlainMapping :=
  match m.source, m.sourceLine, m.sourceColumn with
  | some _, some line, some column =>
      match hit line column ms with
      | none => m
      | some found => m.redirected found
  | _, _, _ => m

/-- A mapping looked up in each of several lists, the last of which comes
    first; without a source it has a generated position only. -/
def resolved (chain : List (List PlainMapping)) (m : PlainMapping) : PlainMapping :=
  match m.source with
  | none => bare m.line m.column
  | some _ => chain.foldr resolvedIn m

variable {m found : PlainMapping} {ms : List PlainMapping} {chain : List (List PlainMapping)}

/-! ## What a step keeps -/

/-- A hit is one of the mappings, and has a source. -/
theorem mem_of_hit {line column : Int} (h : hit line column ms = some m) :
    m ∈ ms ∧ m.source.isSome = true := by
  obtain ⟨hanswer, hsource⟩ := Option.filter_eq_some_iff.mp h
  exact ⟨(isAnswer_of_answer hanswer).mem, hsource⟩

/-- What a step comes to: nothing changes, or the mapping is redirected to
    a hit. -/
theorem resolvedIn_cases (ms : List PlainMapping) (m : PlainMapping) :
    resolvedIn ms m = m
      ∨ ∃ found ∈ ms, found.source.isSome = true ∧ m.source.isSome = true
        ∧ resolvedIn ms m = m.redirected found := by
  unfold resolvedIn
  split
  · rename_i hsource _ _
    split
    · exact .inl rfl
    · rename_i found hfound
      obtain ⟨hmem, hsome⟩ := mem_of_hit hfound
      exact .inr ⟨found, hmem, hsome, by rw [hsource]; rfl, rfl⟩
  · exact .inl rfl

@[simp] theorem resolvedIn_line (ms : List PlainMapping) (m : PlainMapping) :
    (resolvedIn ms m).line = m.line := by
  rcases resolvedIn_cases ms m with h | ⟨found, -, -, -, h⟩
  · rw [h]
  · rw [h]
    rfl

@[simp] theorem resolvedIn_column (ms : List PlainMapping) (m : PlainMapping) :
    (resolvedIn ms m).column = m.column := by
  rcases resolvedIn_cases ms m with h | ⟨found, -, -, -, h⟩
  · rw [h]
  · rw [h]
    rfl

/-- A step neither gives a source to a mapping nor takes it away. -/
@[simp] theorem resolvedIn_source (ms : List PlainMapping) (m : PlainMapping) :
    (resolvedIn ms m).source.isSome = m.source.isSome := by
  rcases resolvedIn_cases ms m with h | ⟨found, -, hfound, hm, h⟩
  · rw [h]
  · rw [h, hm]
    exact hfound

/-- Among mappings that have a place in their source a step leads to one. -/
theorem resolvedIn_isComplete (hms : ∀ x ∈ ms, x.IsComplete) (hm : m.IsComplete) :
    (resolvedIn ms m).IsComplete := by
  rcases resolvedIn_cases ms m with h | ⟨found, hmem, hfound, -, h⟩
  · rw [h]
    exact hm
  · rw [h]
    exact fun _ => hms found hmem hfound

/-- A step on a mapping that has a place in a source. -/
theorem resolvedIn_of_located {source : Text} {line column : Int} (hsource : m.source = some source)
    (hline : m.sourceLine = some line) (hcolumn : m.sourceColumn = some column) :
    resolvedIn ms m = ((hit line column ms).map m.redirected).getD m := by
  unfold resolvedIn
  rw [hsource, hline, hcolumn]
  dsimp only
  cases hit line column ms with
  | none => rfl
  | some found => rfl

/-- A mapping without a place in a source is not looked up. -/
theorem resolvedIn_of_not_located (h : m.isLocated = false) : resolvedIn ms m = m := by
  obtain ⟨line, column, source, sourceLine, sourceColumn, name⟩ := m
  cases source with
  | none => rfl
  | some s =>
      cases sourceLine with
      | none => rfl
      | some l =>
          cases sourceColumn with
          | none => rfl
          | some c => exact nomatch h

/-- What each step keeps is kept by all of them. -/
theorem foldr_resolvedIn_invariant {P : PlainMapping → Prop}
    (hstep : ∀ ms ∈ chain, ∀ m, P m → P (resolvedIn ms m)) (hm : P m) :
    P (chain.foldr resolvedIn m) := by
  induction chain with
  | nil => exact hm
  | cons ms rest ih =>
      exact hstep ms (List.mem_cons_self ..) _
        (ih fun x hx => hstep x (List.mem_cons_of_mem _ hx))

theorem foldr_resolvedIn_line (chain : List (List PlainMapping)) (m : PlainMapping) :
    (chain.foldr resolvedIn m).line = m.line :=
  foldr_resolvedIn_invariant (P := fun x => x.line = m.line)
    (fun ms _ x hx => (resolvedIn_line ms x).trans hx) rfl

theorem foldr_resolvedIn_column (chain : List (List PlainMapping)) (m : PlainMapping) :
    (chain.foldr resolvedIn m).column = m.column :=
  foldr_resolvedIn_invariant (P := fun x => x.column = m.column)
    (fun ms _ x hx => (resolvedIn_column ms x).trans hx) rfl

theorem foldr_resolvedIn_source (chain : List (List PlainMapping)) (m : PlainMapping) :
    (chain.foldr resolvedIn m).source.isSome = m.source.isSome :=
  foldr_resolvedIn_invariant (P := fun x => x.source.isSome = m.source.isSome)
    (fun ms _ x hx => (resolvedIn_source ms x).trans hx) rfl

@[simp] theorem resolved_line (chain : List (List PlainMapping)) (m : PlainMapping) :
    (resolved chain m).line = m.line := by
  unfold resolved
  split
  · rfl
  · exact foldr_resolvedIn_line chain m

@[simp] theorem resolved_column (chain : List (List PlainMapping)) (m : PlainMapping) :
    (resolved chain m).column = m.column := by
  unfold resolved
  split
  · rfl
  · exact foldr_resolvedIn_column chain m

@[simp] theorem resolved_source (chain : List (List PlainMapping)) (m : PlainMapping) :
    (resolved chain m).source.isSome = m.source.isSome := by
  unfold resolved
  split
  · rename_i hnone
    rw [hnone]
    rfl
  · exact foldr_resolvedIn_source chain m

/-- What a document keeps of a mapping that was followed through a chain
    is the resolved mapping. -/
theorem settled_foldr_resolvedIn (hchain : ∀ ms ∈ chain, ∀ x ∈ ms, x.IsComplete)
    (hm : m.IsComplete) : (chain.foldr resolvedIn m).settled = resolved chain m := by
  have hsource := foldr_resolvedIn_source chain m
  unfold resolved settled
  split
  · rename_i hlocated
    have hsome := source_isSome_of_isLocated hlocated
    rw [hsource] at hsome
    obtain ⟨source, hm⟩ := Option.isSome_iff_exists.mp hsome
    rw [hm]
  · rename_i hbare
    have hcomplete := foldr_resolvedIn_invariant (P := IsComplete)
      (fun ms hms x hx => resolvedIn_isComplete (hchain ms hms) hx) hm
    cases hm : m.source with
    | none => rw [foldr_resolvedIn_line, foldr_resolvedIn_column]
    | some source =>
        rw [hm] at hsource
        exact absurd (hcomplete hsource) hbare

/-- A document keeps all of a resolved mapping. -/
theorem settled_resolved (hchain : ∀ ms ∈ chain, ∀ x ∈ ms, x.IsComplete) (hm : m.IsComplete) :
    (resolved chain m).settled = resolved chain m := by
  rw [← settled_foldr_resolvedIn hchain hm, settled_settled]

/-- Putting mappings in order keeps every hit. -/
theorem hit_sorted (line column : Int) (ms : List PlainMapping) :
    hit line column (sorted ms) = hit line column ms := by
  unfold hit
  rw [answer_sorted]

/-- Resolving mappings resolves every hit. -/
theorem hit_map_resolved (line column : Int) (chain : List (List PlainMapping))
    (ms : List PlainMapping) :
    hit line column (ms.map (resolved chain)) = (hit line column ms).map (resolved chain) := by
  unfold hit
  rw [answer_map (resolved_line chain) (resolved_column chain), Option.filter_map]
  refine congrArg (Option.map _) (congrArg (Option.filter · _) ?_)
  exact funext fun m => resolved_source chain m

/-! ## What the chain computes -/

/-- Redirecting plain mappings redirects their values. -/
theorem toMapping_redirected (m found : PlainMapping) :
    (m.redirected found).toMapping = m.toMapping.redirect found.toMapping := by
  unfold Mapping.redirect redirected toMapping
  cases found.name with
  | none => rfl
  | some n => rfl

/-- Resolving a mapping through the index of plain mappings is a step. -/
theorem resolveThrough_lineIndex (ms : List PlainMapping) (m : PlainMapping) :
    resolveThrough (lineIndex ms) m.toMapping = .ok (resolvedIn ms m).toMapping := by
  unfold resolveThrough
  rw [toMapping_isLocated]
  rcases located_or_bare m with ⟨_, _, source, line, column, name, hm⟩ | hbare
  · have hlocated : m.isLocated = true := by
      rw [hm]
      rfl
    have hlookup : (lineIndex ms).sourcePosition m.toMapping.sourceLine m.toMapping.sourceColumn
        = .ok ((hit line column ms).map toMapping) := by
      rw [hm]
      exact sourcePosition_lineIndex line column ms
    have hstep : resolvedIn ms m = ((hit line column ms).map m.redirected).getD m :=
      resolvedIn_of_located (by rw [hm]) (by rw [hm]) (by rw [hm])
    rw [if_pos hlocated, hlookup, hstep]
    cases hit line column ms with
    | none => rfl
    | some found => exact congrArg Except.ok (toMapping_redirected m found).symm
  · rw [resolvedIn_of_not_located hbare, hbare]
    rfl

end PlainMapping

open PlainMapping

/-- Whether a document lists the given plain mappings. -/
def Lists (doc : Json) (ms : List PlainMapping) : Prop := parse doc = .ok (ms.map toMapping)

/-- Resolving plain mappings through a document that lists plain mappings
    is a step on each of them. -/
theorem resolveAll_cons {doc : Json} {ms table : List PlainMapping} (h : Lists doc table)
    (docs : List Json) :
    resolveAll (ms.map toMapping) (doc :: docs)
      = resolveAll ((ms.map (resolvedIn table)).map toMapping) docs := by
  have hsteps : (ms.map toMapping).mapM (resolveThrough (lineIndex table))
      = .ok ((ms.map (resolvedIn table)).map toMapping) := by
    rw [List.mapM_map, List.map_map]
    exact mapM_of_forall fun m _ => resolveThrough_lineIndex table m
  rw [resolveAll, bind_of_eq_ok h, bind_of_eq_ok (ofMappings_toMapping table),
    bind_of_eq_ok hsteps]

/-- Resolving plain mappings through documents that list plain mappings,
    the first of which comes first. -/
theorem resolveAll_toMapping {docs : List Json} {tables : List (List PlainMapping)}
    (h : List.Forall₂ Lists docs tables) (ms : List PlainMapping) :
    resolveAll (ms.map toMapping) docs
      = .ok ((ms.map fun m => tables.foldl (fun m table => resolvedIn table m) m).map toMapping) := by
  induction h generalizing ms with
  | nil =>
      show Except.ok (ms.map toMapping) = .ok ((ms.map id).map toMapping)
      rw [List.map_id]
  | cons hdoc _ ih =>
      rw [resolveAll_cons hdoc, ih, List.map_map (l := ms)]
      rfl

/-- Resolving plain mappings through documents that list plain mappings,
    the last of which comes first. -/
theorem resolveAll_of_lists {earlier : List Json} {chain : List (List PlainMapping)}
    (h : List.Forall₂ Lists earlier chain) (ms : List PlainMapping) :
    resolveAll (ms.map toMapping) earlier.reverse
      = .ok ((ms.map (chain.foldr resolvedIn)).map toMapping) := by
  rw [resolveAll_toMapping (List.rel_reverse h)]
  simp only [List.foldl_reverse]

/-- Plain documents through which mappings can be resolved list plain
    mappings. -/
theorem lists_of_resolveAll {docs : List Json} {ms result : List Mapping}
    (hplain : ∀ doc ∈ docs, isPlainDocument doc = true) (h : resolveAll ms docs = .ok result) :
    ∃ tables, List.Forall₂ Lists docs tables ∧ ∀ table ∈ tables, ∀ m ∈ table, m.IsComplete := by
  induction docs generalizing ms with
  | nil => exact ⟨[], .nil, fun table htable => nomatch htable⟩
  | cons doc rest ih =>
      obtain ⟨parsed, hparsed, h⟩ := bind_eq_ok.mp h
      obtain ⟨table, rfl, htable⟩ := exists_of_parse (hplain doc (List.mem_cons_self ..)) hparsed
      obtain ⟨_, -, h⟩ := bind_eq_ok.mp h
      obtain ⟨_, -, h⟩ := bind_eq_ok.mp h
      obtain ⟨tables, hlists, htables⟩ := ih (fun x hx => hplain x (List.mem_cons_of_mem _ hx)) h
      exact ⟨table :: tables, .cons hparsed hlists, List.forall_mem_cons.mpr ⟨htable, htables⟩⟩

/-! ## What the composed document lists -/

/-- The members that a composed document has beyond the assembled ones
    are the kept ones and the metadata. -/
theorem find?_extensions {doc : Json} {metadata : Json.Table Json} {sources : List Json}
    {key : Text} (hkept : ∀ name ∈ keptMembers, Text.ofString name ≠ key)
    (hmetadata : Text.ofString "x_facebook_sources" ≠ key) :
    Entries.find? (keptFrom doc ++ metadataMember metadata sources) key = none := by
  have hnames : ∀ entry ∈ keptFrom doc ++ metadataMember metadata sources, entry.1 ≠ key := by
    intro entry hentry
    rcases List.mem_append.mp hentry with hentry | hentry
    · obtain ⟨name, hname, hvalue⟩ := List.mem_filterMap.mp hentry
      obtain ⟨value, -, rfl⟩ := Option.map_eq_some_iff.mp hvalue
      exact hkept name hname
    · unfold metadataMember at hentry
      split at hentry
      · exact nomatch hentry
      · obtain rfl := List.mem_singleton.mp hentry
        exact hmetadata
  exact Entries.find?_eq_none hnames

/-- What composing a chain consists of. -/
theorem compose_eq_ok {earlier : List Json} {last composed : Json}
    (h : compose (earlier ++ [last]) = .ok composed) :
    ∃ own result document first contents metadata, parse last = .ok own
      ∧ resolveAll own earlier.reverse = .ok result
      ∧ chainContents [] (earlier ++ [last]) = .ok contents
      ∧ assemble .computed result (member last "file") contents = .ok document
      ∧ (earlier ++ [last]).head? = some first ∧ facebookSources first = .ok metadata
      ∧ composed = document.extended (keptFrom last ++ metadataMember metadata document.sources) := by
  unfold compose at h
  rw [List.getLast?_concat, List.dropLast_concat] at h
  split at h
  · rename_i first hlast hfirst
    obtain rfl := Option.some.inj hlast
    obtain ⟨_, -, h⟩ := bind_eq_ok.mp h
    obtain ⟨own, hown, h⟩ := bind_eq_ok.mp h
    obtain ⟨result, hresult, h⟩ := bind_eq_ok.mp h
    obtain ⟨contents, hcontents, h⟩ := bind_eq_ok.mp h
    obtain ⟨document, hdocument, h⟩ := bind_eq_ok.mp h
    obtain ⟨metadata, hmetadata, h⟩ := bind_eq_ok.mp h
    obtain rfl := pure_eq_ok.mp h
    refine ⟨own, result, document, first, contents, metadata, hown, hresult, hcontents, hdocument,
      hfirst, hmetadata, ?_⟩
    rw [Assembled.extended, List.append_assoc]
  · exact nomatch h

/-- A chain of documents that list plain mappings is composed to a known
    document if their contents and metadata can be read and nothing that
    the last one lists is on a line below 0. -/
theorem compose_eq_of_lists {earlier : List Json} {first last : Json} {own : List PlainMapping}
    {chain : List (List PlainMapping)} {contents metadata : Json.Table Json}
    (hown : Lists last own) (hchain : List.Forall₂ Lists earlier chain)
    (hcontents : chainContents [] (earlier ++ [last]) = .ok contents)
    (hfirst : (earlier ++ [last]).head? = some first)
    (hmetadata : facebookSources first = .ok metadata) (hnonneg : ∀ m ∈ own, 0 ≤ m.line) :
    compose (earlier ++ [last])
      = .ok ((assembly (own.map (chain.foldr resolvedIn)) (member last "file") contents).extended
        (keptFrom last
          ++ metadataMember metadata (sources (sorted (own.map (chain.foldr resolvedIn)))))) := by
  obtain ⟨_, hversion, -⟩ := bind_eq_ok.mp hown
  have hlines : ∀ m ∈ own.map (chain.foldr resolvedIn), 0 ≤ m.line := by
    intro m hm
    obtain ⟨x, hx, rfl⟩ := List.mem_map.mp hm
    rw [foldr_resolvedIn_line]
    exact hnonneg x hx
  unfold compose
  rw [List.getLast?_concat, hfirst, List.dropLast_concat]
  dsimp only
  rw [bind_of_eq_ok hversion, bind_of_eq_ok hown, bind_of_eq_ok (resolveAll_of_lists hchain own),
    bind_of_eq_ok hcontents, bind_of_eq_ok (assemble_toMapping _ _ _ hlines),
    bind_of_eq_ok hmetadata, List.append_assoc]
  rfl

/-- Where the last document lists its mappings in order, these are resolved
    and written as they stand. -/
theorem compose_eq_of_ordered {earlier : List Json} {first last : Json} {own : List PlainMapping}
    {chain : List (List PlainMapping)} {contents metadata : Json.Table Json}
    (hown : Lists last own) (hchain : List.Forall₂ Lists earlier chain)
    (hcontents : chainContents [] (earlier ++ [last]) = .ok contents)
    (hfirst : (earlier ++ [last]).head? = some first)
    (hmetadata : facebookSources first = .ok metadata) (hnonneg : ∀ m ∈ own, 0 ≤ m.line)
    (hordered : own.Pairwise fun a b => notAfter a b = true) :
    let listed := own.map (chain.foldr resolvedIn)
    compose (earlier ++ [last])
      = .ok (Assembled.extended
        ⟨member last "file", sources listed, contentsFor contents (sources listed), names listed,
          Mappings.encode (segmentLines listed)⟩
        (keptFrom last ++ metadataMember metadata (sources listed))) := by
  have hsorted : sorted (own.map (chain.foldr resolvedIn)) = own.map (chain.foldr resolvedIn) := by
    rw [sorted_map (foldr_resolvedIn_line _) (foldr_resolvedIn_column _),
      sorted_of_pairwise hordered]
  dsimp only
  rw [compose_eq_of_lists hown hchain hcontents hfirst hmetadata hnonneg]
  unfold assembly
  rw [hsorted]

/-- Such a chain can be composed. -/
theorem compose_of_lists {earlier : List Json} {first last : Json} {own : List PlainMapping}
    {chain : List (List PlainMapping)} {contents metadata : Json.Table Json}
    (hown : Lists last own) (hchain : List.Forall₂ Lists earlier chain)
    (hcontents : chainContents [] (earlier ++ [last]) = .ok contents)
    (hfirst : (earlier ++ [last]).head? = some first)
    (hmetadata : facebookSources first = .ok metadata) (hnonneg : ∀ m ∈ own, 0 ≤ m.line) :
    ∃ composed, compose (earlier ++ [last]) = .ok composed :=
  ⟨_, compose_eq_of_lists hown hchain hcontents hfirst hmetadata hnonneg⟩

/-- What a document composed of plain ones is made of: of what the last
    one lists, in order and with each mapping resolved in the others. -/
structure IsComposed (earlier : List Json) (last composed : Json) (own : List PlainMapping)
    (chain : List (List PlainMapping)) : Prop where
  lists_last : Lists last own
  lists_earlier : List.Forall₂ Lists earlier chain
  own_complete : ∀ m ∈ own, m.IsComplete
  chain_complete : ∀ ms ∈ chain, ∀ m ∈ ms, m.IsComplete
  line_nonneg : ∀ m ∈ own, 0 ≤ m.line
  document : ∃ first contents metadata, (earlier ++ [last]).head? = some first
    ∧ chainContents [] (earlier ++ [last]) = .ok contents
    ∧ facebookSources first = .ok metadata
    ∧ composed = (assembly ((sorted own).map (resolved chain)) (member last "file") contents).extended
        (keptFrom last
          ++ metadataMember metadata (sources (sorted ((sorted own).map (resolved chain)))))

/-- What is listed in order stays in order when it is resolved. -/
theorem sorted_map_resolved (chain : List (List PlainMapping)) (ms : List PlainMapping) :
    sorted ((sorted ms).map (resolved chain)) = (sorted ms).map (resolved chain) := by
  rw [sorted_map (resolved_line chain) (resolved_column chain),
    sorted_of_pairwise (sorted_pairwise ms)]

/-- A document composed of plain ones is made of what they list. -/
theorem exists_isComposed {earlier : List Json} {last composed : Json}
    (hplain : ∀ doc ∈ earlier ++ [last], isPlainDocument doc = true)
    (h : compose (earlier ++ [last]) = .ok composed) :
    ∃ own chain, IsComposed earlier last composed own chain := by
  obtain ⟨_, result, document, first, contents, metadata, hown, hresult, hcontents, hdocument,
    hfirst, hmetadata, rfl⟩ := compose_eq_ok h
  obtain ⟨own, rfl, hcomplete⟩ := exists_of_parse (hplain last (by simp)) hown
  obtain ⟨tables, hlists, htables⟩ :=
    lists_of_resolveAll (fun doc hdoc => hplain doc (by simp [List.mem_reverse.mp hdoc])) hresult
  have hchain : List.Forall₂ Lists earlier tables.reverse := by
    rw [← List.forall₂_reverse_iff, List.reverse_reverse]
    exact hlists
  have hallComplete : ∀ ms ∈ tables.reverse, ∀ m ∈ ms, m.IsComplete :=
    fun ms hms => htables ms (List.mem_reverse.mp hms)
  rw [resolveAll_of_lists hchain] at hresult
  obtain rfl := Except.ok.inj hresult
  have hlines := line_nonneg_of_assemble hdocument
  have hlisted : (sorted (own.map (tables.reverse.foldr resolvedIn))).map settled
      = (sorted own).map (resolved tables.reverse) := by
    rw [sorted_map (foldr_resolvedIn_line _) (foldr_resolvedIn_column _), List.map_map]
    exact List.map_congr_left fun m hm =>
      settled_foldr_resolvedIn hallComplete (hcomplete m (mem_sorted.mp hm))
  rw [assemble_toMapping .computed (member last "file") contents hlines, ← assembly_settled,
    hlisted] at hdocument
  obtain rfl := Except.ok.inj hdocument
  refine ⟨own, tables.reverse, hown, hchain, hcomplete, hallComplete, fun m hm => ?_,
    first, contents, metadata, hfirst, hcontents, hmetadata, rfl⟩
  have hline := hlines _ (List.mem_map_of_mem hm)
  rw [foldr_resolvedIn_line] at hline
  exact hline

/-- What a composed document is made of is on lines from 0 on. -/
theorem IsComposed.line_nonneg_resolved {earlier : List Json} {last composed : Json}
    {own : List PlainMapping} {chain : List (List PlainMapping)}
    (h : IsComposed earlier last composed own chain) :
    ∀ m ∈ (sorted own).map (resolved chain), 0 ≤ m.line := by
  intro m hm
  obtain ⟨x, hx, rfl⟩ := List.mem_map.mp hm
  rw [resolved_line]
  exact h.line_nonneg x (mem_sorted.mp hx)

/-- A composed document lists what it is made of. -/
theorem IsComposed.lists {earlier : List Json} {last composed : Json} {own : List PlainMapping}
    {chain : List (List PlainMapping)} (h : IsComposed earlier last composed own chain) :
    Lists composed ((sorted own).map (resolved chain)) := by
  obtain ⟨first, contents, metadata, -, -, -, rfl⟩ := h.document
  unfold Lists
  rw [parse_assembly _ _ h.line_nonneg_resolved (find?_extensions (by decide) (by decide))
    (find?_extensions (by decide) (by decide)), sorted_map_resolved]
  refine congrArg Except.ok (List.map_congr_left fun m hm => ?_)
  obtain ⟨x, hx, rfl⟩ := List.mem_map.mp hm
  exact congrArg toMapping (settled_resolved h.chain_complete (h.own_complete x (mem_sorted.mp hx)))

/-- What a document composed of plain ones lists: what the last one lists,
    in order and with each mapping resolved in the others. -/
theorem lists_of_compose {earlier : List Json} {last composed : Json}
    (hplain : ∀ doc ∈ earlier ++ [last], isPlainDocument doc = true)
    (h : compose (earlier ++ [last]) = .ok composed) :
    ∃ own chain, Lists last own ∧ List.Forall₂ Lists earlier chain
      ∧ (∀ m ∈ own, m.IsComplete) ∧ (∀ ms ∈ chain, ∀ m ∈ ms, m.IsComplete)
      ∧ Lists composed ((sorted own).map (resolved chain)) := by
  obtain ⟨own, chain, hmade⟩ := exists_isComposed hplain h
  exact ⟨own, chain, hmade.lists_last, hmade.lists_earlier, hmade.own_complete,
    hmade.chain_complete, hmade.lists⟩

end HermesBundle.SourceMap
