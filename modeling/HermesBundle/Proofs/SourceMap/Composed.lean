import HermesBundle.Proofs.SourceMap.Redirection

/-! # Composed documents — their members

    A document composed of plain ones is the assembly of what it lists,
    with extensions behind it.  So it is plain itself
    (`IsComposed.isPlainDocument`), and its members are known:

    * the mappings text and the tables say what is listed, and nothing
      else does (`IsComposed.agreeOn_listing_iff`);
    * the file and the function offsets are those of the last document;
    * the metadata are those of the first one. -/

namespace HermesBundle.SourceMap

open Outcome PlainMapping

namespace PlainMapping

/-! ## Plain values -/

theorem textValue_injective : Function.Injective textValue := by
  intro s t h
  cases s with
  | none =>
      cases t with
      | none => rfl
      | some t => exact nomatch h
  | some s =>
      cases t with
      | none => exact nomatch h
      | some t => exact congrArg some (Json.str.inj h)

theorem integerValue_injective : Function.Injective integerValue := by
  intro i j h
  cases i with
  | none =>
      cases j with
      | none => rfl
      | some j => exact nomatch h
  | some i =>
      cases j with
      | none => exact nomatch h
      | some j => exact congrArg some (Json.int.inj h)

/-- Plain mappings are told apart by their values. -/
theorem toMapping_injective : Function.Injective toMapping := by
  intro a b h
  obtain ⟨hline, hcolumn, hsource, hsourceLine, hsourceColumn, hname⟩ := Mapping.mk.inj h
  obtain ⟨_, _, _, _, _, _⟩ := a
  obtain ⟨_, _, _, _, _, _⟩ := b
  rw [PlainMapping.mk.injEq]
  exact ⟨Json.int.inj hline, Json.int.inj hcolumn, textValue_injective hsource,
    integerValue_injective hsourceLine, integerValue_injective hsourceColumn,
    textValue_injective hname⟩

/-- The sources that mappings refer to are texts or nulls. -/
theorem sources_isTextOrNull (ms : List PlainMapping) :
    ∀ x ∈ sources ms, isTextOrNull x = true := by
  intro x hx
  obtain ⟨p, hp, hreach⟩ := List.mem_filterMap.mp (mem_of_mem_firstUses hx)
  obtain ⟨m, -, rfl⟩ := List.mem_map.mp hp
  obtain ⟨reach, hsome, rfl⟩ := Option.map_eq_some_iff.mp hreach
  unfold placed at hsome
  split at hsome
  · obtain rfl := Option.some.inj hsome
    cases m.source <;> rfl
  · exact nomatch hsome

/-- The names that mappings carry are texts or nulls. -/
theorem names_isTextOrNull (ms : List PlainMapping) :
    ∀ x ∈ names ms, isTextOrNull x = true := by
  intro x hx
  obtain ⟨p, hp, hreach⟩ := List.mem_filterMap.mp (mem_of_mem_firstUses hx)
  obtain ⟨m, -, rfl⟩ := List.mem_map.mp hp
  obtain ⟨reach, hsome, hname⟩ := Option.bind_eq_some_iff.mp hreach
  unfold placed at hsome
  split at hsome
  · obtain rfl := Option.some.inj hsome
    split at hname
    · exact nomatch hname
    · obtain rfl := Option.some.inj hname
      cases m.name <;> rfl
  · exact nomatch hsome

end PlainMapping

/-- What a document lists is settled by the document. -/
theorem Lists.unique {doc : Json} {ms ms' : List PlainMapping} (h : Lists doc ms)
    (h' : Lists doc ms') : ms = ms' :=
  toMapping_injective.list_map (Except.ok.inj (h.symm.trans h'))

/-- What documents list is settled by the documents. -/
theorem lists_unique {docs : List Json} {tables tables' : List (List PlainMapping)}
    (h : List.Forall₂ Lists docs tables) (h' : List.Forall₂ Lists docs tables') :
    tables = tables' := by
  have hunique : Relator.RightUnique Lists := fun _ _ _ hone hother => Lists.unique hone hother
  exact hunique.forall₂ h h'

/-! ## Members of composed documents -/

/-- Whether two documents have equal values for some members, or neither
    has the member. -/
def AgreeOn (members : List String) (a b : Json) : Prop :=
  ∀ name ∈ members, a.get? (Text.ofString name) = b.get? (Text.ofString name)

/-- The members that say what a document lists. -/
def listingMembers : List String := ["mappings", "sources", "names"]

/-- The members that say what a document lists and what it was made for. -/
def sharedMembers : List String :=
  listingMembers ++ ["file", "x_hermes_function_offsets", "x_facebook_sources"]

/-- The members that are kept do not hide the metadata. -/
theorem find?_metadata (doc : Json) (metadata : Json.Table Json) (sources : List Json) :
    Entries.find? (keptFrom doc ++ metadataMember metadata sources) "x_facebook_sources"
      = Entries.find? (metadataMember metadata sources) "x_facebook_sources" := by
  unfold keptFrom keptMembers
  cases hvalue : doc.get? (Text.ofString "x_hermes_function_offsets") with
  | none =>
      rw [List.filterMap_cons_none (by rw [hvalue]; rfl)]
      rfl
  | some value =>
      rw [List.filterMap_cons_some (by rw [hvalue]; rfl)]
      exact if_neg fun heq => absurd (Text.ofString_inj.mp heq) (by decide)

namespace IsComposed

variable {earlier earlier' : List Json} {last last' composed composed' : Json}
  {own own' : List PlainMapping} {chain chain' : List (List PlainMapping)}

/-- A composed document is the assembly of what it lists, with extensions
    that change nothing in how it is read. -/
theorem exists_extended (h : IsComposed earlier last composed own chain) :
    ∃ contents extensions, Entries.find? extensions "sections" = none
      ∧ Entries.find? extensions "sourceRoot" = none
      ∧ composed
        = (assembly ((sorted own).map (resolved chain)) (member last "file") contents).extended
            extensions := by
  obtain ⟨first, contents, metadata, -, -, -, hdocument⟩ := h.document
  exact ⟨contents, _, find?_extensions (by decide) (by decide),
    find?_extensions (by decide) (by decide), hdocument⟩

/-- A document composed of plain ones is plain. -/
theorem isPlainDocument (h : IsComposed earlier last composed own chain) :
    isPlainDocument composed = true := by
  obtain ⟨contents, extensions, hsections, -, rfl⟩ := h.exists_extended
  generalize hdocument : assembly _ (member last "file") contents = document
  have hsources : itemsOf (document.extended extensions) "sources" = document.sources := by
    unfold itemsOf member
    rw [show (document.extended extensions).get? (Text.ofString "sources") = _ from
      document.extended_sources extensions]
    rfl
  have hnames : itemsOf (document.extended extensions) "names" = document.names := by
    unfold itemsOf member
    rw [show (document.extended extensions).get? (Text.ofString "names") = _ from
      document.extended_names extensions]
    rfl
  unfold SourceMap.isPlainDocument
  rw [document.extended_sections, hsections]
  unfold hasPlainTables
  rw [hsources, hnames, Bool.and_eq_true_iff, List.all_eq_true, List.all_eq_true, ← hdocument]
  exact ⟨sources_isTextOrNull _, names_isTextOrNull _⟩

/-- The members that say what a composed document lists are those of the
    assembly. -/
theorem get?_listing (h : IsComposed earlier last composed own chain) :
    let listed := (sorted own).map (resolved chain)
    composed.get? "mappings" = some (.str (Mappings.encode (segmentLines listed)))
      ∧ composed.get? "sources" = some (.arr (sources listed))
      ∧ composed.get? "names" = some (.arr (names listed)) := by
  obtain ⟨contents, extensions, -, -, rfl⟩ := h.exists_extended
  rw [Assembled.extended_mappings, Assembled.extended_sources, Assembled.extended_names]
  unfold assembly
  rw [sorted_map_resolved]
  exact ⟨rfl, rfl, rfl⟩

/-- What a composed document lists is read from its mappings text and its
    tables. -/
theorem parse_eq (h : IsComposed earlier last composed own chain) :
    let listed := (sorted own).map (resolved chain)
    parse composed = (Mappings.decode (Mappings.encode (segmentLines listed))
      >>= placeLines (sources listed) (names listed) (.int 0) (.int 0) 0) := by
  obtain ⟨contents, extensions, hsections, hroot, rfl⟩ := h.exists_extended
  rw [Assembled.parse_extended _ _ hsections hroot]
  unfold assembly
  rw [sorted_map_resolved]

/-- Composed documents agree on what they list exactly if they list the
    same mappings. -/
theorem agreeOn_listing_iff (h : IsComposed earlier last composed own chain)
    (h' : IsComposed earlier' last' composed' own' chain') :
    AgreeOn listingMembers composed composed'
      ↔ (sorted own).map (resolved chain) = (sorted own').map (resolved chain') := by
  obtain ⟨hmappings, hsources, hnames⟩ := h.get?_listing
  obtain ⟨hmappings', hsources', hnames'⟩ := h'.get?_listing
  constructor
  · intro hagree
    simp only [AgreeOn, listingMembers, List.forall_mem_cons] at hagree
    obtain ⟨hm, hs, hn, -⟩ := hagree
    rw [hmappings, hmappings', Option.some.injEq, Json.str.injEq] at hm
    rw [hsources, hsources', Option.some.injEq, Json.arr.injEq] at hs
    rw [hnames, hnames', Option.some.injEq, Json.arr.injEq] at hn
    have hparse : parse composed = parse composed' := by rw [h.parse_eq, h'.parse_eq, hm, hs, hn]
    have hlists := h.lists
    unfold Lists at hlists
    rw [hparse] at hlists
    exact Lists.unique hlists h'.lists
  · intro heq
    simp only [AgreeOn, listingMembers, List.forall_mem_cons]
    rw [hmappings, hmappings', hsources, hsources', hnames, hnames', heq]
    exact ⟨rfl, rfl, rfl, fun _ hx => nomatch hx⟩

/-- The file of a composed document is that of the last one, if it has
    any. -/
theorem get?_file (h : IsComposed earlier last composed own chain) :
    composed.get? "file"
      = if (member last "file").isTruthy then some (member last "file") else none := by
  obtain ⟨first, contents, metadata, -, -, -, rfl⟩ := h.document
  rw [Assembled.extended_file, find?_extensions (by decide) (by decide)]
  rfl

/-- The function offsets of a composed document are those of the last
    one. -/
theorem get?_functionOffsets (h : IsComposed earlier last composed own chain) :
    composed.get? "x_hermes_function_offsets" = last.get? "x_hermes_function_offsets" := by
  obtain ⟨first, contents, metadata, -, -, -, rfl⟩ := h.document
  rw [Assembled.extended_other _ _ (by decide)]
  unfold keptFrom keptMembers
  cases hvalue : last.get? (Text.ofString "x_hermes_function_offsets") with
  | none =>
      rw [List.filterMap_cons_none (by rw [hvalue]; rfl), List.filterMap_nil, List.nil_append]
      refine Entries.find?_eq_none fun entry hentry => ?_
      unfold metadataMember at hentry
      split at hentry
      · exact nomatch hentry
      · obtain rfl := List.mem_singleton.mp hentry
        exact fun heq => absurd (Text.ofString_inj.mp heq) (by decide)
  | some value =>
      rw [List.filterMap_cons_some (by rw [hvalue]; rfl)]
      exact if_pos rfl

/-- The metadata of a composed document are those of the first one, in the
    order of the composed sources. -/
theorem get?_metadata (h : IsComposed earlier last composed own chain) :
    ∃ first metadata, (earlier ++ [last]).head? = some first ∧ facebookSources first = .ok metadata
      ∧ composed.get? "x_facebook_sources"
        = Entries.find? (metadataMember metadata (sources ((sorted own).map (resolved chain))))
            "x_facebook_sources" := by
  obtain ⟨first, contents, metadata, hfirst, -, hmetadata, rfl⟩ := h.document
  refine ⟨first, metadata, hfirst, hmetadata, ?_⟩
  rw [Assembled.extended_other _ _ (by decide), sorted_map_resolved]
  exact find?_metadata last metadata _

end IsComposed

end HermesBundle.SourceMap
