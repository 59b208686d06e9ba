import HermesBundle.Proofs.SourceMap.Grouping

/-! # Fixed points — composing a composed document on its own

    A document composed of plain ones that has a source is composed of
    itself: composing it on its own gives it again (`compose_composed`).
    The route:

    * a table of sources has no source twice (`firstUses_pairwise`), so
      what is stored by the place of a source is read back under the
      source (`get?_filter_map`);
    * no embedded content is null (`hasNoNull_chainContents`), so the
      contents of a document are those it was written with
      (`contentsFor_sourcesContent`);
    * the metadata are written for the sources, and are read as none
      exactly if there were none (`metadataMember_facebookSources`);
    * what a composed document lists is in order and settled, so it is
      written as it was.

    Without a source the metadata would be lost: they are written as an
    empty array, and an empty array is read as no metadata. -/

namespace HermesBundle.SourceMap

open Outcome PlainMapping

/-! ## Tables keyed by sources -/

/-- Values are the same key in either order. -/
theorem same_comm (x y : Json) : x.same y = y.same x := by
  rw [Json.same_eq_key, Json.same_eq_key, Bool.beq_comm]

/-- A table of values at their first use has no key twice. -/
theorem firstUses_pairwise (xs : List Json) :
    (firstUses xs).Pairwise fun x y => x.same y = false := by
  induction xs with
  | nil => exact .nil
  | cons x rest ih =>
      refine List.pairwise_cons.mpr ⟨?_, ih.filter _⟩
      intro y hy
      simpa using (List.mem_filter.mp hy).2

/-- A key that no entry has is not found. -/
theorem get?_eq_none_of_apart {α : Type} {table : Json.Table α} {key : Json}
    (h : ∀ entry ∈ table, entry.1.same key = false) : table.get? key = none := by
  induction table with
  | nil => rfl
  | cons entry rest ih =>
      obtain ⟨hhead, hrest⟩ := List.forall_mem_cons.mp h
      rw [Json.Table.get?, if_neg (by rw [hhead]; decide)]
      exact ih hrest

/-- Of values stored under keys that are apart, each is found under its
    key if it was not left out. -/
theorem get?_filter_map {keys : List Json} {key : Json} (value : Json → Json)
    (kept : Json × Json → Bool) (happart : keys.Pairwise fun x y => x.same y = false)
    (hkey : key ∈ keys) :
    Json.Table.get? ((keys.map fun x => (x, value x)).filter kept) key
      = if kept (key, value key) then some (value key) else none := by
  induction keys with
  | nil => exact nomatch hkey
  | cons x rest ih =>
      obtain ⟨hx, hrest⟩ := List.pairwise_cons.mp happart
      rw [List.map_cons, List.filter_cons]
      rcases List.mem_cons.mp hkey with rfl | hmem
      · have hself : key.same key = true := by
          rw [Json.same_eq_key]
          exact beq_self_eq_true _
        have hnone : Json.Table.get? ((rest.map fun x => (x, value x)).filter kept) key = none := by
          refine get?_eq_none_of_apart fun entry hentry => ?_
          obtain ⟨y, hy, rfl⟩ := List.mem_map.mp (List.mem_filter.mp hentry).1
          rw [same_comm]
          exact hx y hy
        split
        · rw [Json.Table.get?, if_pos hself]
        · exact hnone
      · have hother : ¬x.same key = true := by
          rw [hx key hmem]
          decide
        split
        · rw [Json.Table.get?, if_neg hother]
          exact ih hrest hmem
        · exact ih hrest hmem

/-- Keys that are the same have the same entry. -/
theorem get?_congr {key key' : Json} (table : Json.Table Json) (h : key.same key' = true) :
    table.get? key = table.get? key' := by
  rw [Json.same_eq_key, beq_iff_eq] at h
  induction table with
  | nil => rfl
  | cons entry rest ih =>
      rw [Json.Table.get?, Json.Table.get?, ih, Json.same_eq_key, Json.same_eq_key, h]

/-- In tables one after the other the first entry under a key counts. -/
theorem get?_append (table more : Json.Table Json) (key : Json) :
    Json.Table.get? (table ++ more) key = (table.get? key).or (more.get? key) := by
  induction table with
  | nil => rfl
  | cons entry rest ih =>
      rw [List.cons_append, Json.Table.get?, Json.Table.get?, ih]
      split
      · rfl
      · rfl

/-- A new entry counts where there was none. -/
theorem get?_addNew (table : Json.Table Json) (name value key : Json) :
    (table.addNew name value).get? key
      = (table.get? key).or (Json.Table.get? [(name, value)] key) := by
  unfold Json.Table.addNew
  split
  · rename_i hthere
    by_cases hsame : name.same key = true
    · rw [get?_congr table hsame] at hthere
      obtain ⟨found, hfound⟩ := Option.isSome_iff_exists.mp hthere
      rw [hfound]
      rfl
    · rw [show Json.Table.get? [(name, value)] key = none from if_neg hsame, Option.or_none]
  · exact get?_append table _ key

/-- Of the entries of two merged tables those of the first count. -/
theorem get?_mergeTables (table more : Json.Table Json) (key : Json) :
    (mergeTables table more).get? key = (table.get? key).or (more.get? key) := by
  induction more generalizing table with
  | nil => exact Option.or_none.symm
  | cons entry rest ih =>
      obtain ⟨name, value⟩ := entry
      show (mergeTables (table.addNew name value) rest).get? key = _
      rw [ih, get?_addNew, Option.or_assoc, ← get?_append]
      rfl

/-- Pairs whose keys are apart are added one after another. -/
theorem addPairs_of_apart {table pairs : Json.Table Json}
    (hscalar : ∀ pair ∈ pairs, pair.1.isScalar = true)
    (happart : (table ++ pairs).Pairwise fun a b => a.1.same b.1 = false) :
    addPairs table pairs = .ok (table ++ pairs) := by
  induction pairs generalizing table with
  | nil =>
      rw [List.append_nil]
      rfl
  | cons pair rest ih =>
      obtain ⟨key, value⟩ := pair
      obtain ⟨hkey, hrest⟩ := List.forall_mem_cons.mp hscalar
      have hnew : table.get? key = none := by
        refine get?_eq_none_of_apart fun entry hentry => ?_
        exact (List.pairwise_append.mp happart).2.2 entry hentry _ (List.mem_cons_self ..)
      have hadded : table.addNew key value = table ++ [(key, value)] := by
        unfold Json.Table.addNew
        rw [hnew]
        rfl
      rw [List.append_cons] at happart ⊢
      rw [addPairs, if_pos hkey, hadded]
      exact ih hrest happart

/-! ## Embedded contents -/

/-- Whether a table has a value for each of its keys. -/
def HasNoNull (table : Json.Table Json) : Prop := ∀ entry ∈ table, entry.2.isNull = false

/-- What is found in such a table is not null. -/
theorem HasNoNull.of_get? {table : Json.Table Json} {key value : Json} (h : HasNoNull table)
    (hvalue : table.get? key = some value) : value.isNull = false := by
  induction table with
  | nil => exact nomatch hvalue
  | cons entry rest ih =>
      obtain ⟨hhead, hrest⟩ := List.forall_mem_cons.mp h
      rw [Json.Table.get?] at hvalue
      split at hvalue
      · obtain rfl := Option.some.inj hvalue
        exact hhead
      · exact ih hrest hvalue

theorem HasNoNull.addNew {table : Json.Table Json} {key value : Json} (h : HasNoNull table)
    (hvalue : value.isNull = false) : HasNoNull (table.addNew key value) := by
  unfold Json.Table.addNew
  split
  · exact h
  · intro entry hentry
    rcases List.mem_append.mp hentry with hentry | hentry
    · exact h entry hentry
    · rw [List.mem_singleton.mp hentry]
      exact hvalue

theorem HasNoNull.addPairs {table pairs result : Json.Table Json} (h : HasNoNull table)
    (hpairs : HasNoNull pairs) (hresult : addPairs table pairs = .ok result) :
    HasNoNull result := by
  induction pairs generalizing table with
  | nil =>
      obtain rfl := Except.ok.inj hresult
      exact h
  | cons pair rest ih =>
      obtain ⟨hhead, hrest⟩ := List.forall_mem_cons.mp hpairs
      rw [SourceMap.addPairs] at hresult
      split at hresult
      · exact ih (h.addNew hhead) hrest hresult
      · exact nomatch hresult

theorem HasNoNull.mergeTables {table more : Json.Table Json} (h : HasNoNull table)
    (hmore : HasNoNull more) : HasNoNull (mergeTables table more) := by
  induction more generalizing table with
  | nil => exact h
  | cons entry rest ih =>
      obtain ⟨hhead, hrest⟩ := List.forall_mem_cons.mp hmore
      exact ih (h.addNew hhead) hrest

/-- Of the contents that a basic document has for its sources none is
    null. -/
theorem hasNoNull_contentPairs {doc : Json} {pairs : List (Json × Json)}
    (h : contentPairs doc = .ok pairs) : HasNoNull pairs := by
  unfold contentPairs at h
  obtain ⟨_, -, h⟩ := bind_eq_ok.mp h
  obtain ⟨_, -, h⟩ := bind_eq_ok.mp h
  obtain rfl := pure_eq_ok.mp h
  intro entry hentry
  simpa using (List.mem_filter.mp hentry).2

/-- Of the contents collected from basic documents none is null. -/
theorem HasNoNull.collect {table result : Json.Table Json} {docs : List Json}
    (h : HasNoNull table) (hresult : collect contentPairs table docs = .ok result) :
    HasNoNull result := by
  induction docs generalizing table with
  | nil =>
      obtain rfl := Except.ok.inj hresult
      exact h
  | cons doc rest ih =>
      obtain ⟨pairs, hpairs, hresult⟩ := bind_eq_ok.mp hresult
      obtain ⟨added, hadded, hresult⟩ := bind_eq_ok.mp hresult
      exact ih (h.addPairs (hasNoNull_contentPairs hpairs) hadded) hresult

/-- Of the contents of a chain none is null. -/
theorem hasNoNull_chainContents {table result : Json.Table Json} {docs : List Json}
    (h : HasNoNull table) (hresult : chainContents table docs = .ok result) :
    HasNoNull result := by
  induction docs generalizing table with
  | nil =>
      obtain rfl := Except.ok.inj hresult
      exact h
  | cons doc rest ih =>
      obtain ⟨found, hfound, hresult⟩ := bind_eq_ok.mp hresult
      obtain ⟨docs, -, hfound⟩ := bind_eq_ok.mp hfound
      have hnone : HasNoNull [] := fun entry hentry => nomatch hentry
      exact ih (h.mergeTables (hnone.collect hfound)) hresult

/-- Contents are written for the sources only. -/
theorem contentsFor_congr {contents contents' : Json.Table Json} {sources : List Json}
    (h : ∀ s ∈ sources, contents.get? s = contents'.get? s) :
    contentsFor contents sources = contentsFor contents' sources := by
  have hany : (sources.any fun s => (contents.get? s).isSome)
      = sources.any fun s => (contents'.get? s).isSome := by
    rw [Bool.eq_iff_iff, List.any_eq_true, List.any_eq_true]
    exact exists_congr fun s => and_congr_right fun hs => by rw [h s hs]
  have hmap : (sources.map fun s => (contents.get? s).getD .null)
      = sources.map fun s => (contents'.get? s).getD .null :=
    List.map_congr_left fun s hs => by rw [h s hs]
  unfold contentsFor
  rw [hany, hmap]

/-! ## What a document stores for its sources -/

/-- Whether a document is basic and has the given sources, none of them
    twice. -/
structure HasSources (doc : Json) (sources : List Json) : Prop where
  basic : basicDocuments doc = .ok [doc]
  listed : sourceNames doc = .ok sources
  scalar : ∀ s ∈ sources, s.isScalar = true
  apart : sources.Pairwise fun x y => x.same y = false

namespace HasSources

variable {doc : Json} {sources : List Json}

/-- The pairs of such a document are its table. -/
theorem collect {pairs : Json → Except Fault (List (Json × Json))} {value : Json → Json}
    {kept : Json × Json → Bool} (h : HasSources doc sources)
    (hpairs : pairs doc = .ok ((sources.map fun s => (s, value s)).filter kept)) :
    (basicDocuments doc >>= SourceMap.collect pairs [])
      = .ok ((sources.map fun s => (s, value s)).filter kept) := by
  have hscalar : ∀ pair ∈ (sources.map fun s => (s, value s)).filter kept,
      pair.1.isScalar = true := by
    intro pair hpair
    obtain ⟨s, hs, rfl⟩ := List.mem_map.mp (List.mem_filter.mp hpair).1
    exact h.scalar s hs
  have happart : ((sources.map fun s => (s, value s)).filter kept).Pairwise
      fun a b => a.1.same b.1 = false := (List.pairwise_map.mpr h.apart).filter _
  rw [bind_of_eq_ok h.basic, SourceMap.collect, bind_of_eq_ok hpairs,
    bind_of_eq_ok (addPairs_of_apart hscalar happart)]
  rfl

/-- Contents that were written for the sources are read back. -/
theorem contentsFor_sourcesContent {contents : Json.Table Json} (h : HasSources doc sources)
    (hcontents : HasNoNull contents)
    (hvalue : doc.get? (Text.ofString "sourcesContent")
      = (contentsFor contents sources).map .arr) :
    ∃ found, sourcesContent doc = .ok found
      ∧ contentsFor found sources = contentsFor contents sources := by
  let value : Json → Json := fun s => (contents.get? s).getD .null
  let kept : Json × Json → Bool := fun pair => !pair.2.isNull
  have hpairs : contentPairs doc = .ok ((sources.map fun s => (s, value s)).filter kept) := by
    unfold contentPairs member
    rw [bind_of_eq_ok h.listed, hvalue]
    unfold contentsFor
    split
    · rename_i hany
      obtain ⟨s, hs, -⟩ := List.any_eq_true.mp hany
      obtain ⟨x, rest, rfl⟩ := List.exists_cons_of_ne_nil (List.ne_nil_of_mem hs)
      show Except.ok (((x :: rest).zip ((x :: rest).map value)).filter kept) = _
      rw [List.map_prod_left_eq_zip]
    · rename_i hnone
      have hnull : ∀ pair ∈ sources.map fun s => (s, value s), ¬kept pair = true := by
        intro pair hpair
        obtain ⟨s, hs, rfl⟩ := List.mem_map.mp hpair
        have hget : contents.get? s = none := by
          by_contra hsome
          exact hnone (List.any_eq_true.mpr ⟨s, hs, Option.isSome_iff_ne_none.mpr hsome⟩)
        simp [value, kept, hget, Json.isNull]
      rw [List.filter_eq_nil_iff.mpr hnull]
      show Except.ok ((sources.zip []).filter kept) = _
      rw [List.zip_nil_right]
      rfl
  refine ⟨_, h.collect hpairs, contentsFor_congr fun s hs => ?_⟩
  rw [get?_filter_map value kept h.apart hs]
  cases hget : contents.get? s with
  | none => simp [value, kept, hget, Json.isNull]
  | some content => simp [value, kept, hget, hcontents.of_get? hget]

/-- The contents of a chain of that document only are those it was written
    with. -/
theorem contentsFor_chainContents {contents : Json.Table Json} (h : HasSources doc sources)
    (hcontents : HasNoNull contents)
    (hvalue : doc.get? (Text.ofString "sourcesContent")
      = (contentsFor contents sources).map .arr) :
    ∃ found, chainContents [] [doc] = .ok found
      ∧ contentsFor found sources = contentsFor contents sources := by
  obtain ⟨found, hfound, hsame⟩ := h.contentsFor_sourcesContent hcontents hvalue
  refine ⟨mergeTables [] found, ?_, ?_⟩
  · rw [chainContents, bind_of_eq_ok hfound]
    rfl
  · rw [← hsame]
    exact contentsFor_congr fun s _ => get?_mergeTables [] found s

/-- Metadata that were written for the sources are read back, if there are
    sources. -/
theorem metadataMember_facebookSources {metadata : Json.Table Json} (h : HasSources doc sources)
    (hsome : sources ≠ [])
    (hvalue : doc.get? (Text.ofString "x_facebook_sources")
      = Entries.find? (metadataMember metadata sources) (Text.ofString "x_facebook_sources")) :
    ∃ found, facebookSources doc = .ok found
      ∧ metadataMember found sources = metadataMember metadata sources := by
  unfold facebookSources
  cases hempty : metadata.isEmpty with
  | true =>
      have hpairs : metadataPairs doc = .ok [] := by
        unfold metadataPairs member
        rw [hvalue, metadataMember, hempty]
        rfl
      refine ⟨[], ?_, ?_⟩
      · rw [bind_of_eq_ok h.basic, SourceMap.collect, bind_of_eq_ok hpairs]
        rfl
      · rw [metadataMember, metadataMember, hempty]
        rfl
  | false =>
      let value : Json → Json := fun s => (metadata.get? s).getD .null
      have hpairs : metadataPairs doc
          = .ok ((sources.map fun s => (s, value s)).filter fun _ => true) := by
        unfold metadataPairs member
        rw [hvalue, metadataMember, hempty, List.filter_true, List.map_prod_left_eq_zip]
        exact bind_of_eq_ok h.listed
      have hfound : ∀ s ∈ sources, Json.Table.get?
          ((sources.map fun s => (s, value s)).filter fun _ => true) s = some (value s) :=
        fun s hs => get?_filter_map value (fun _ => true) h.apart hs
      refine ⟨_, h.collect hpairs, ?_⟩
      have hsomeFound : ((sources.map fun s => (s, value s)).filter fun _ => true).isEmpty
          = false := by
        rw [List.filter_true, List.isEmpty_eq_false_iff, Ne, List.map_eq_nil_iff]
        exact hsome
      rw [metadataMember, metadataMember, hempty, hsomeFound]
      refine congrArg (fun items => [(_, Json.arr items)]) (List.map_congr_left fun s hs => ?_)
      rw [hfound s hs]
      rfl

end HasSources

/-! ## The composed document -/

/-- The names of the members that a composed document may have. -/
def composedMembers : List String :=
  Assembled.memberNames ++ keptMembers ++ ["x_facebook_sources"]

/-- A document without sections is the only basic one in it. -/
theorem basicDocuments_of_no_sections {a : Assembled} {extensions : List (Text × Json)}
    (h : (a.extended extensions).get? (Text.ofString "sections") = none) :
    basicDocuments (a.extended extensions) = .ok [a.extended extensions] := by
  unfold Assembled.extended at h ⊢
  unfold basicDocuments
  dsimp only
  rw [h]

/-- The members of an assembled document are among those that it may
    have. -/
theorem name_mem_memberNames {a : Assembled} {entry : Text × Json} (h : entry ∈ a.members) :
    entry.1 ∈ Assembled.memberNames.map Text.ofString := by
  have hname : ∀ name ∈ Assembled.memberNames, Text.ofString name
      ∈ Assembled.memberNames.map Text.ofString := fun name => List.mem_map_of_mem
  unfold Assembled.members at h
  simp only [List.mem_append] at h
  rcases h with (((h | h) | h) | h) | h
  · rw [List.mem_singleton.mp h]
    exact hname "version" (by decide)
  · split at h
    · rw [List.mem_singleton.mp h]
      exact hname "file" (by decide)
    · exact nomatch h
  · rw [List.mem_singleton.mp h]
    exact hname "sources" (by decide)
  · split at h
    · exact nomatch h
    · rw [List.mem_singleton.mp h]
      exact hname "sourcesContent" (by decide)
  · rcases List.mem_pair.mp h with rfl | rfl
    · exact hname "names" (by decide)
    · exact hname "mappings" (by decide)

/-- The members that are kept and the metadata have their own names. -/
theorem name_mem_extensions {doc : Json} {metadata : Json.Table Json} {sources : List Json}
    {entry : Text × Json} (h : entry ∈ keptFrom doc ++ metadataMember metadata sources) :
    entry.1 ∈ (keptMembers ++ ["x_facebook_sources"]).map Text.ofString := by
  rcases List.mem_append.mp h with h | h
  · obtain ⟨name, hname, hvalue⟩ := List.mem_filterMap.mp h
    obtain ⟨value, -, rfl⟩ := Option.map_eq_some_iff.mp hvalue
    exact List.mem_map_of_mem (List.mem_append_left _ hname)
  · unfold metadataMember at h
    split at h
    · exact nomatch h
    · rw [List.mem_singleton.mp h]
      exact List.mem_map_of_mem (List.mem_append_right _ (List.mem_singleton_self _))

/-- The file of a document is written as it is read again. -/
theorem extended_file_again (file : Json) (sources : List Json) (contents : Option (List Json))
    (names : List Json) (mappings : Text) (extensions : List (Text × Json)) :
    Assembled.extended ⟨if file.isTruthy then file else .null, sources, contents, names, mappings⟩
        extensions
      = Assembled.extended ⟨file, sources, contents, names, mappings⟩ extensions := by
  cases hfile : file.isTruthy with
  | true => rfl
  | false =>
      unfold Assembled.extended Assembled.members
      rw [hfile]
      rfl

namespace IsComposed

variable {earlier : List Json} {last composed : Json} {own : List PlainMapping}
  {chain : List (List PlainMapping)}

/-- A composed document has the sources that its mappings refer to. -/
theorem hasSources (h : IsComposed earlier last composed own chain) :
    HasSources composed (sources ((sorted own).map (resolved chain))) := by
  obtain ⟨contents, extensions, hsections, hroot, rfl⟩ := h.exists_extended
  have hlisted := Assembled.sourceNames_extended
    (assembly ((sorted own).map (resolved chain)) (member last "file") contents) extensions hroot
  rw [show (assembly ((sorted own).map (resolved chain)) (member last "file") contents).sources
    = sources (sorted ((sorted own).map (resolved chain))) from rfl, sorted_map_resolved] at hlisted
  refine ⟨?_, hlisted, fun s hs => ?_, firstUses_pairwise _⟩
  · exact basicDocuments_of_no_sections (by rw [Assembled.extended_sections, hsections])
  · obtain ⟨t, rfl⟩ := exists_textValue (sources_isTextOrNull _ s hs)
    exact textValue_isScalar t

/-- The members of a composed document are those that are written. -/
theorem mem_composedMembers (h : IsComposed earlier last composed own chain) {name : Text}
    (hname : composed.get? name ≠ none) : name ∈ composedMembers.map Text.ofString := by
  obtain ⟨first, contents, metadata, -, -, -, rfl⟩ := h.document
  by_contra hother
  refine hname (Entries.find?_eq_none fun entry hentry => ?_)
  rintro rfl
  unfold composedMembers at hother
  rw [List.append_assoc, List.map_append, List.mem_append] at hother
  rcases List.mem_append.mp hentry with hentry | hentry
  · exact hother (.inl (name_mem_memberNames hentry))
  · exact hother (.inr (name_mem_extensions hentry))

/-- What a composed document was written with is read back from it: the
    contents, none of which is null, and the metadata, if it has a
    source. -/
theorem exists_stored (h : IsComposed earlier last composed own chain)
    (hsome : sources ((sorted own).map (resolved chain)) ≠ []) :
    let listed := (sorted own).map (resolved chain)
    ∃ contents metadata, chainContents [] [composed] = .ok contents
      ∧ facebookSources composed = .ok metadata
      ∧ composed = Assembled.extended
        ⟨member last "file", sources listed, contentsFor contents (sources listed), names listed,
          Mappings.encode (segmentLines listed)⟩
        (keptFrom last ++ metadataMember metadata (sources listed)) := by
  dsimp only
  obtain ⟨first, contents, metadata, -, hcontents, -, hdocument⟩ := h.document
  unfold assembly at hdocument
  rw [sorted_map_resolved] at hdocument
  have hnone : HasNoNull [] := fun entry hentry => nomatch hentry
  obtain ⟨contents', hcontentsRead, hcontentsSame⟩ :=
    h.hasSources.contentsFor_chainContents (hasNoNull_chainContents hnone hcontents) (by
      rw [hdocument, Assembled.extended_contents, find?_extensions (by decide) (by decide),
        Option.or_none])
  obtain ⟨metadata', hmetadataRead, hmetadataSame⟩ :=
    h.hasSources.metadataMember_facebookSources hsome (by
      rw [hdocument, Assembled.extended_other _ _ (by decide)]
      exact find?_metadata last metadata _)
  refine ⟨contents', metadata', hcontentsRead, hmetadataRead, ?_⟩
  rw [hcontentsSame, hmetadataSame]
  exact hdocument

/-- A composed document has the file and the function offsets of the last
    one. -/
theorem file_and_kept (h : IsComposed earlier last composed own chain) :
    member composed "file" = (if (member last "file").isTruthy then member last "file" else .null)
      ∧ keptFrom composed = keptFrom last := by
  constructor
  · rw [member, h.get?_file]
    split
    · rfl
    · rfl
  · unfold keptFrom keptMembers
    rw [List.filterMap_cons, List.filterMap_cons, h.get?_functionOffsets]
    rfl

/-- A composed document that has a source is composed of itself. -/
theorem compose_self (h : IsComposed earlier last composed own chain)
    (hsome : sources ((sorted own).map (resolved chain)) ≠ []) :
    compose [composed] = .ok composed := by
  obtain ⟨contents, metadata, hcontents, hmetadata, hdocument⟩ := h.exists_stored hsome
  obtain ⟨hfile, hkept⟩ := h.file_and_kept
  have hordered : ((sorted own).map (resolved chain)).Pairwise
      fun a b => notAfter a b = true := by
    rw [← sorted_map_resolved]
    exact sorted_pairwise _
  have hagain := compose_eq_of_ordered h.lists .nil hcontents rfl hmetadata
    h.line_nonneg_resolved hordered
  have hid : ((sorted own).map (resolved chain)).map (List.foldr resolvedIn · [])
      = (sorted own).map (resolved chain) := List.map_id _
  dsimp only at hagain
  rw [hid, hfile, hkept, extended_file_again, ← hdocument] at hagain
  exact hagain

end IsComposed

/-- **A composed document is a fixed point**: if it has a source, composing
    it on its own gives it again, and it has no members but the version,
    the file, the tables, the contents, the mappings, the function offsets
    and the metadata. -/
theorem compose_composed {maps : List Json} {composed : Json}
    (hplain : ∀ doc ∈ maps, isPlainDocument doc = true) (h : compose maps = .ok composed)
    (hsome : itemsOf composed "sources" ≠ []) :
    compose [composed] = .ok composed
      ∧ ∀ name, composed.get? name ≠ none → name ∈ composedMembers.map Text.ofString := by
  rcases List.eq_nil_or_concat maps with rfl | ⟨earlier, last, rfl⟩
  · exact nomatch h
  rw [List.concat_eq_append] at hplain h
  obtain ⟨own, chain, hmade⟩ := exists_isComposed hplain h
  refine ⟨hmade.compose_self ?_, fun name hname => hmade.mem_composedMembers hname⟩
  intro hnone
  have hlisted := hmade.get?_listing.2.1
  rw [hnone] at hlisted
  refine hsome ?_
  unfold itemsOf member
  rw [hlisted]
  rfl

/-- The first document of a chain, with contents and metadata for one of its
    sources. -/
def embeddedDocument : Json :=
  .obj [(Text.ofString "version", .int 3),
    (Text.ofString "sources", .arr [.string "app.ts", .string "lib.ts"]),
    (Text.ofString "sourcesContent", .arr [.string "greet()", .null]),
    (Text.ofString "names", .arr [.string "greet"]),
    (Text.ofString "mappings", .str (Text.ofString "AAAAA")),
    (Text.ofString "x_facebook_sources", .arr [.arr [.int 7]])]

theorem compose_composed_embedded :
    (∀ doc ∈ [embeddedDocument] ++ [compiledDocument], isPlainDocument doc = true)
      ∧ ∃ composed, compose ([embeddedDocument] ++ [compiledDocument]) = .ok composed
        ∧ itemsOf composed "sources" ≠ []
        ∧ compose [composed] = .ok composed
        ∧ ∀ name, composed.get? name ≠ none → name ∈ composedMembers.map Text.ofString := by
  have hembedded : Lists embeddedDocument
      [⟨0, 0, some (Text.ofString "app.ts"), some 0, some 0, some (Text.ofString "greet")⟩] := rfl
  have hplain : ∀ doc ∈ [embeddedDocument] ++ [compiledDocument], isPlainDocument doc = true := by
    rw [List.singleton_append, List.forall_mem_cons, List.forall_mem_singleton]
    exact ⟨rfl, rfl⟩
  obtain ⟨composed, hcomposed, hsome⟩ : ∃ composed,
      compose ([embeddedDocument] ++ [compiledDocument]) = .ok composed
        ∧ itemsOf composed "sources" ≠ [] :=
    ⟨_, compose_eq_of_ordered lists_compiledDocument (.cons hembedded .nil) rfl rfl rfl
      (by decide) (by decide), List.cons_ne_nil _ _⟩
  exact ⟨hplain, composed, hcomposed, hsome, compose_composed hplain hcomposed hsome⟩

end HermesBundle.SourceMap
