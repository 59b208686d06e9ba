import HermesBundle.Proofs.SourceMap.FixedPoint
import HermesBundle.Proofs.SourceMap.Roots
import HermesBundle.Proofs.SourceMap.Tables

/-! # Attachments — contents and metadata follow their sources

    Documents attach things to their sources by position: embedded
    contents, and metadata.  A composed document has sources of its own,
    in an order of its own, so what is attached goes by name, and of
    several things attached to a name the first counts.  The route:

    * `occurrences` lists the sources of a document, those of one section
      after another, each with what is attached at its place;
    * a table filled from pairs, from basic documents or from a chain has
      the first thing attached to a name under it (`get?_addPairs`,
      `get?_collect`, `get?_chainContents`);
    * among documents whose sources are texts or null, a composed table of
      sources has texts only (`exists_texts_of_compose`);
    * so the contents are the first in the chain that are not null
      (`embeddedContents_compose`), and the metadata the first in the
      first document (`metadata_compose`). -/

namespace HermesBundle.SourceMap

open Outcome PlainMapping

/-! ## What is attached to sources -/

/-- The basic documents a document consists of: itself, or those of its
    sections in order. -/
def partsOf (doc : Json) : List Json :=
  match doc.get? "sections" with
  | none => [doc]
  | some (.arr sections) => sections.map fun part => member part "map"
  | some _ => []

/-- The sources of a basic document with its root applied. -/
def rootedSources (basic : Json) : List Json := (sourceNames basic).toOption.getD []

/-- A source where a document lists it, with what is attached to it
    there. -/
structure Occurrence where
  source : Json
  attached : Option Json

/-- Sources with the items at their places.  Items may be too few, which
    leaves sources without one, or too many. -/
def attach : List Json → List Json → List Occurrence
  | [], _ => []
  | source :: rest, items => ⟨source, items.head?⟩ :: attach rest items.tail

/-- The sources of a document in order, each with what the named member of
    its basic document attaches to it. -/
def occurrences (name : String) (doc : Json) : List Occurrence :=
  (partsOf doc).flatMap fun basic => attach (rootedSources basic) (itemsOf basic name)

/-- The first thing attached to a source that counts. -/
def firstAttached (counts : Json → Bool) (found : List Occurrence) (source : Json) : Option Json :=
  found.findSome? fun o => if o.source.same source then o.attached.filter counts else none

/-- The content embedded for a source: the first in a chain that is not
    null. -/
def embeddedContent (maps : List Json) (source : Text) : Option Json :=
  firstAttached (fun content => !content.isNull) (maps.flatMap (occurrences "sourcesContent"))
    (.str source)

/-- The metadata of a source: the first in a document. -/
def attachedMetadata (doc : Json) (source : Text) : Option Json :=
  firstAttached (fun _ => true) (occurrences "x_facebook_sources" doc) (.str source)

/-- The first occurrence of a source in a document, with its metadata. -/
def firstOccurrence (doc : Json) (source : Text) : Option Occurrence :=
  (occurrences "x_facebook_sources" doc).find? fun o => o.source.same (.str source)

variable {counts : Json → Bool} {key : Json}

/-- A value is the same key as itself. -/
theorem same_self (x : Json) : x.same x = true := by
  rw [Json.same_eq_key]
  exact beq_self_eq_true _

/-- What is attached at one occurrence counts before all behind it. -/
theorem firstAttached_cons (o : Occurrence) (rest : List Occurrence) :
    firstAttached counts (o :: rest) key
      = (if o.source.same key then o.attached.filter counts else none).or
        (firstAttached counts rest key) := by
  unfold firstAttached
  rw [List.findSome?_cons]
  cases (if o.source.same key then o.attached.filter counts else none) <;> rfl

theorem firstAttached_append (found more : List Occurrence) :
    firstAttached counts (found ++ more) key
      = (firstAttached counts found key).or (firstAttached counts more key) :=
  List.findSome?_append ..

/-- Nothing is attached to any source exactly if nothing is attached. -/
theorem firstAttached_eq_none_iff {found : List Occurrence} :
    (∀ key, firstAttached (fun _ => true) found key = none)
      ↔ ∀ o ∈ found, o.attached = none := by
  have hkeep : ∀ x : Option Json, x.filter (fun _ => true) = x := fun x => by cases x <;> rfl
  unfold firstAttached
  simp only [List.findSome?_eq_none_iff, hkeep]
  constructor
  · intro h o ho
    have hnone := h o.source o ho
    rwa [if_pos (same_self o.source)] at hnone
  · intro h key o ho
    rw [h o ho]
    exact ite_self none

/-- What counts is attached at an occurrence of the source. -/
theorem exists_of_firstAttached {found : List Occurrence} {item : Json}
    (h : firstAttached counts found key = some item) :
    ∃ o ∈ found, o.source.same key = true ∧ o.attached = some item := by
  obtain ⟨o, ho, hitem⟩ := List.exists_of_findSome?_eq_some h
  split at hitem
  · rename_i hsame
    exact ⟨o, ho, hsame, (Option.filter_eq_some_iff.mp hitem).1⟩
  · exact nomatch hitem

/-- Where the first occurrence of a source has something attached, that is
    what counts. -/
theorem firstAttached_of_find? {found : List Occurrence} {o : Occurrence}
    (h : (found.find? fun o => o.source.same key) = some o) (hsome : o.attached.isSome = true) :
    firstAttached (fun _ => true) found key = o.attached := by
  induction found with
  | nil => exact nomatch h
  | cons first rest ih =>
      rw [List.find?_cons] at h
      rw [firstAttached_cons]
      cases hfirst : first.source.same key with
      | true =>
          rw [hfirst] at h
          obtain rfl := Option.some.inj h
          obtain ⟨item, hitem⟩ := Option.isSome_iff_exists.mp hsome
          rw [hitem]
          rfl
      | false =>
          rw [hfirst] at h
          exact ih h

/-- Nothing counts as attached to a source that does not occur. -/
theorem firstAttached_of_find?_none {found : List Occurrence}
    (h : (found.find? fun o => o.source.same key) = none) :
    firstAttached counts found key = none := by
  refine List.findSome?_eq_none_iff.mpr fun o ho => if_neg ?_
  exact List.find?_eq_none.mp h o ho

/-- Pairs of sources and items are looked up as what is attached. -/
theorem get?_filter_zip (sources items : List Json) :
    Json.Table.get? ((sources.zip items).filter fun pair => counts pair.2) key
      = firstAttached counts (attach sources items) key := by
  induction sources generalizing items with
  | nil => rfl
  | cons source rest ih =>
      rw [attach, firstAttached_cons, ← ih]
      cases items with
      | nil =>
          rw [List.zip_nil_right, List.tail_nil, List.zip_nil_right, List.head?_nil]
          cases source.same key <;> rfl
      | cons item more =>
          rw [List.zip_cons_cons, List.filter_cons, List.head?_cons, List.tail_cons]
          cases hcounts : counts item with
          | true =>
              rw [if_pos rfl, Json.Table.get?, Option.filter_some, hcounts]
              cases source.same key <;> rfl
          | false =>
              rw [if_neg (by decide), Option.filter_some, hcounts]
              cases source.same key <;> rfl

/-! ## Tables filled with what is attached -/

/-- A table filled from pairs has the first of a source under it. -/
theorem get?_addPairs {table pairs result : Json.Table Json}
    (h : addPairs table pairs = .ok result) :
    result.get? key = (table.get? key).or (pairs.get? key) := by
  induction pairs generalizing table with
  | nil =>
      obtain rfl := Except.ok.inj h
      exact Option.or_none.symm
  | cons pair rest ih =>
      obtain ⟨name, value⟩ := pair
      rw [addPairs] at h
      split at h
      · rw [ih h, get?_addNew, Option.or_assoc, ← get?_append]
        rfl
      · cases h

/-- A table is empty exactly if nothing is found in it. -/
theorem isEmpty_iff_get? {table : Json.Table Json} :
    table.isEmpty = true ↔ ∀ key, table.get? key = none := by
  cases table with
  | nil => exact ⟨fun _ _ => rfl, fun _ => rfl⟩
  | cons entry rest =>
      have hfound : Json.Table.get? (entry :: rest) entry.1 = some entry.2 :=
        if_pos (same_self entry.1)
      constructor
      · exact fun hempty => nomatch hempty
      · intro hnone
        exact nomatch hfound.symm.trans (hnone entry.1)

/-- Whether pairs of a basic document are what one of its members attaches
    to its sources. -/
def Attaches (counts : Json → Bool) (name : String)
    (pairs : Json → Except Fault (List (Json × Json))) (basic : Json) : Prop :=
  ∀ found, pairs basic = .ok found → ∀ key, Json.Table.get? found key
    = firstAttached counts (attach (rootedSources basic) (itemsOf basic name)) key

/-- A table collected from basic documents has the first thing attached to
    a source under it. -/
theorem get?_collect {name : String} {pairs : Json → Except Fault (List (Json × Json))}
    {docs : List Json} {table result : Json.Table Json}
    (hpairs : ∀ basic ∈ docs, Attaches counts name pairs basic)
    (h : collect pairs table docs = .ok result) :
    result.get? key = (table.get? key).or (firstAttached counts
      (docs.flatMap fun basic => attach (rootedSources basic) (itemsOf basic name)) key) := by
  induction docs generalizing table with
  | nil =>
      obtain rfl := Except.ok.inj h
      exact Option.or_none.symm
  | cons basic rest ih =>
      obtain ⟨hbasic, hrest⟩ := List.forall_mem_cons.mp hpairs
      obtain ⟨found, hfound, h⟩ := bind_eq_ok.mp h
      obtain ⟨added, hadded, h⟩ := bind_eq_ok.mp h
      rw [ih hrest h, get?_addPairs hadded, hbasic found hfound key, List.flatMap_cons,
        firstAttached_append, Option.or_assoc]

/-- Whether a value is an array or null. -/
def isArrayOrNull : Json → Bool
  | .arr _ => true
  | .null => true
  | _ => false

/-- Contents that are an array, or null, are attached to the sources unless
    they are null. -/
theorem attaches_contentPairs {basic : Json}
    (harray : isArrayOrNull (member basic "sourcesContent") = true) :
    Attaches (fun content => !content.isNull) "sourcesContent" contentPairs basic := by
  intro found hfound key
  obtain ⟨sources, hsources, hfound⟩ := bind_eq_ok.mp hfound
  obtain ⟨contents, hcontents, hfound⟩ := bind_eq_ok.mp hfound
  obtain rfl := pure_eq_ok.mp hfound
  have hrooted : rootedSources basic = sources := by
    unfold rootedSources
    rw [hsources]
    rfl
  have hitems : itemsOf basic "sourcesContent" = contents := by
    unfold itemsOf
    generalize member basic "sourcesContent" = value at harray hcontents ⊢
    cases value with
    | arr items =>
        cases items with
        | nil => exact Except.ok.inj hcontents
        | cons _ _ => exact Except.ok.inj hcontents
    | null => exact Except.ok.inj hcontents
    | _ => exact nomatch harray
  rw [hrooted, hitems, ← get?_filter_zip]

/-- Metadata are attached to the sources if they are an array. -/
theorem attaches_metadataPairs (basic : Json) :
    Attaches (fun _ => true) "x_facebook_sources" metadataPairs basic := by
  intro found hfound key
  unfold metadataPairs at hfound
  unfold itemsOf
  rw [← get?_filter_zip, List.filter_true]
  generalize member basic "x_facebook_sources" = value at hfound ⊢
  cases value with
  | arr items =>
      obtain ⟨sources, hsources, hfound⟩ := bind_eq_ok.mp hfound
      obtain rfl := pure_eq_ok.mp hfound
      rw [rootedSources, hsources]
      rfl
  | _ =>
      obtain rfl := Except.ok.inj hfound
      show Json.Table.get? [] key = Json.Table.get? (List.zip (rootedSources basic) []) key
      rw [List.zip_nil_right]

/-- The basic documents that a document was read from are its parts. -/
theorem basicDocuments_of_parse {doc : Json} {ms : List Mapping} (h : parse doc = .ok ms) :
    basicDocuments doc = .ok (partsOf doc) := by
  obtain ⟨_, hversion, -⟩ := bind_eq_ok.mp h
  have hobject := isObject_of_requireVersion hversion
  unfold partsOf
  cases doc with
  | obj members =>
      unfold basicDocuments
      dsimp only
      rcases parse_eq_ok h with ⟨hnone, -⟩ | ⟨sections, parts, hsome, hparts, -⟩
      · rw [hnone]
      · rw [hsome]
        have hmap : ∀ part ∈ sections,
            SectionApplied.documentOf? part = some (member part "map") := by
          intro part hpart
          obtain ⟨before, behind, rfl⟩ := List.append_of_mem hpart
          obtain ⟨_, _, _, -, hread, -⟩ := exists_of_mapM_append_cons hparts
          exact if_pos (isObject_of_requireVersion (isBasic_of_parseSection hread).1)
        refine congrArg Except.ok ?_
        show sections.filterMap SectionApplied.documentOf? = _
        rw [List.filterMap_congr hmap, List.filterMap_eq_map']
  | _ => exact nomatch hobject

/-- The metadata of a document that was read are the first attached. -/
theorem get?_facebookSources {doc : Json} {ms : List Mapping} {metadata : Json.Table Json}
    (hparse : parse doc = .ok ms) (h : facebookSources doc = .ok metadata) :
    metadata.get? key
      = firstAttached (fun _ => true) (occurrences "x_facebook_sources" doc) key := by
  unfold facebookSources at h
  rw [bind_of_eq_ok (basicDocuments_of_parse hparse)] at h
  exact get?_collect (fun basic _ => attaches_metadataPairs basic) h

/-- The contents of documents that were read, after those of a table, are
    the first attached. -/
theorem get?_chainContents {maps : List Json} {table contents : Json.Table Json}
    (hread : ∀ doc ∈ maps, ∃ ms, parse doc = .ok ms)
    (harrays : ∀ doc ∈ maps, ∀ basic ∈ partsOf doc,
      isArrayOrNull (member basic "sourcesContent") = true)
    (h : chainContents table maps = .ok contents) :
    contents.get? key = (table.get? key).or (firstAttached (fun content => !content.isNull)
      (maps.flatMap (occurrences "sourcesContent")) key) := by
  induction maps generalizing table with
  | nil =>
      obtain rfl := Except.ok.inj h
      exact Option.or_none.symm
  | cons doc rest ih =>
      obtain ⟨⟨ms, hparse⟩, hreadRest⟩ := List.forall_mem_cons.mp hread
      obtain ⟨harray, harraysRest⟩ := List.forall_mem_cons.mp harrays
      obtain ⟨found, hfound, h⟩ := bind_eq_ok.mp h
      unfold sourcesContent at hfound
      rw [bind_of_eq_ok (basicDocuments_of_parse hparse)] at hfound
      have hdoc := @get?_collect _ key _ _ _ _ _
        (fun basic hbasic => attaches_contentPairs (harray basic hbasic)) hfound
      rw [ih hreadRest harraysRest h, get?_mergeTables, hdoc, List.flatMap_cons,
        firstAttached_append, Option.or_assoc]
      rfl

/-! ## Sources that are texts -/

/-- Whether the sources that the parts of a document list are texts or
    null. -/
def HasTextSources (doc : Json) : Prop :=
  ∀ basic ∈ partsOf doc, ∀ source ∈ itemsOf basic "sources", isTextOrNull source = true

/-- The source of a mapping is one that its basic document lists, or
    null. -/
theorem source_of_placeLines {sources names : List Json} {lineOffset columnOffset : Json}
    {line : Nat} {lines : List (List Segment)} {ms : List Mapping}
    (h : placeLines sources names lineOffset columnOffset line lines = .ok ms) :
    ∀ m ∈ ms, m.source = .null ∨ m.source ∈ sources := by
  induction lines generalizing line ms with
  | nil =>
      obtain rfl := Except.ok.inj h
      exact fun m hm => nomatch hm
  | cons segments rest ih =>
      obtain ⟨here, hhere, h⟩ := bind_eq_ok.mp h
      obtain ⟨more, hmore, h⟩ := bind_eq_ok.mp h
      obtain rfl := pure_eq_ok.mp h
      intro m hm
      rcases List.mem_append.mp hm with hm | hm
      · obtain ⟨⟨c, origin⟩, -, hs⟩ := exists_of_mem_mapM hhere hm
        cases origin with
        | none =>
            obtain ⟨_, -, _, -, rfl⟩ := place_bare_eq_ok.mp hs
            exact .inl rfl
        | some o =>
            obtain ⟨_, -, _, -, _, -, source, hsource, rfl⟩ := place_located_eq_ok.mp hs
            exact .inr (mem_of_entryAt hsource)
      · exact ih hmore m hm

/-- A document with texts and nulls for sources lists mappings with such. -/
theorem isTextOrNull_of_parse {doc : Json} {ms : List Mapping} (htexts : HasTextSources doc)
    (h : parse doc = .ok ms) : ∀ m ∈ ms, isTextOrNull m.source = true := by
  have hbasic : ∀ basic ∈ partsOf doc, ∀ lineOffset columnOffset own,
      parseBasic basic lineOffset columnOffset = .ok own →
        ∀ m ∈ own, isTextOrNull m.source = true := by
    intro basic hpart _ _ own hown m hm
    obtain ⟨sources, _, _, _, hsources, -, -, -, hplace⟩ := parseBasic_eq_ok hown
    rcases source_of_placeLines hplace m hm with hnull | hmem
    · rw [hnull]
      rfl
    · exact sourceNames_isTextOrNull (htexts basic hpart) hsources _ hmem
  unfold partsOf at hbasic
  rcases parse_eq_ok h with ⟨hnone, hown⟩ | ⟨sections, parts, hsome, hparts, rfl⟩
  · rw [hnone] at hbasic
    exact hbasic doc (List.mem_singleton_self _) _ _ _ hown
  · rw [hsome] at hbasic
    intro m hm
    obtain ⟨own, hown, hm⟩ := List.mem_flatten.mp hm
    obtain ⟨part, hpart, hread⟩ := exists_of_mem_mapM hparts hown
    exact hbasic _ (List.mem_map_of_mem hpart) _ _ _ (parseSection_eq_ok hread) m hm

/-- A mapping that is read from a chain and has a text or null for its
    source. -/
def Mapping.IsTextual (maps : List Json) (m : Mapping) : Prop :=
  m.IsRead maps ∧ isTextOrNull m.source = true

variable {maps : List Json}

/-- A mapping that is looked up takes its source from a mapping that was
    read. -/
theorem isTextual_of_resolveThrough {index : LineIndex} {ms : List Mapping} {m m' : Mapping}
    (hindex : index.Within ms) (hms : ∀ x ∈ ms, x.IsTextual maps) (hm : m.IsTextual maps)
    (h : resolveThrough index m = .ok m') : m'.IsTextual maps := by
  have hread : ∀ x ∈ ms, x.IsRead maps := fun x hx => (hms x hx).1
  obtain ⟨m'', heq, hm', -, -⟩ := exists_resolveThrough hindex hread hm.1
  obtain rfl := Except.ok.inj (heq.symm.trans h)
  refine ⟨hm', ?_⟩
  unfold resolveThrough at h
  split at h
  · rename_i hlocated
    obtain ⟨⟨l, hl⟩, c, hc⟩ := hm.1.exists_place hlocated
    obtain ⟨hit, hfound, hmem⟩ := exists_sourcePosition l c hindex hread
    rw [hl, hc, hfound] at h
    cases hit with
    | none =>
        obtain rfl := Except.ok.inj h
        exact hm.2
    | some found =>
        obtain rfl := Except.ok.inj h
        exact (hms found (hmem found rfl)).2
  · obtain rfl := Except.ok.inj h
    exact hm.2

/-- Looking mappings up in documents with texts and nulls for sources gives
    mappings with such. -/
theorem isTextual_of_resolveAll {ms resolved : List Mapping} {docs : List Json}
    (hdocs : ∀ doc ∈ docs, doc ∈ maps) (htexts : ∀ doc ∈ docs, HasTextSources doc)
    (hms : ∀ m ∈ ms, m.IsTextual maps) (h : resolveAll ms docs = .ok resolved) :
    ∀ m ∈ resolved, m.IsTextual maps := by
  induction docs generalizing ms with
  | nil =>
      obtain rfl := Except.ok.inj h
      exact hms
  | cons doc rest ih =>
      obtain ⟨hdoc, hdocsRest⟩ := List.forall_mem_cons.mp hdocs
      obtain ⟨htext, htextsRest⟩ := List.forall_mem_cons.mp htexts
      obtain ⟨parsed, hparsed, hbehind⟩ := bind_eq_ok.mp h
      have hread := isRead_of_parse hdoc hparsed
      obtain ⟨index, hindex, hwithin⟩ := exists_ofMappings hread
      rw [bind_of_eq_ok hindex] at hbehind
      obtain ⟨next, hnext, hrest⟩ := bind_eq_ok.mp hbehind
      refine ih hdocsRest htextsRest ?_ hrest
      intro m' hm'
      obtain ⟨m, hm, hstep⟩ := exists_of_mem_mapM hnext hm'
      exact isTextual_of_resolveThrough hwithin
        (fun x hx => ⟨hread x hx, isTextOrNull_of_parse htext hparsed x hx⟩) (hms m hm) hstep

/-- The place of a mapping that was admitted is in a source with a text for
    its name, if the mappings have texts and nulls. -/
theorem exists_str_of_placeAll {count : Nat} {ms : List Mapping} {placed : List Placed}
    (hms : ∀ m ∈ ms, isTextOrNull m.source = true) (h : placeAll count ms = .ok placed) :
    ∀ p ∈ placed, ∀ r, p.reach = some r → ∃ t, r.source = .str t := by
  induction ms generalizing count placed with
  | nil =>
      obtain rfl := Except.ok.inj h
      exact fun p hp => nomatch hp
  | cons m rest ih =>
      obtain ⟨hm, hrest⟩ := List.forall_mem_cons.mp hms
      obtain ⟨p, hp, h⟩ := bind_eq_ok.mp h
      obtain ⟨more, hmore, h⟩ := bind_eq_ok.mp h
      obtain rfl := pure_eq_ok.mp h
      refine List.forall_mem_cons.mpr ⟨fun r hr => ?_, ih hrest hmore⟩
      obtain ⟨hlocated, rfl⟩ := (of_placedOf hp).2 r hr
      obtain ⟨_ | t, ht⟩ := exists_textValue hm
      · unfold Mapping.isLocated at hlocated
        rw [← ht] at hlocated
        exact nomatch hlocated
      · exact ⟨t, ht.symm⟩

/-- Values that are all texts are those of a list of texts. -/
theorem exists_map_str {xs : List Json} (h : ∀ x ∈ xs, ∃ t, x = .str t) :
    ∃ ts : List Text, xs = ts.map Json.str := by
  obtain ⟨ts, hts⟩ : xs ∈ Set.range (List.map Json.str) := by
    rw [Set.range_list_map]
    exact fun x hx => (h x hx).imp fun t ht => ht.symm
  exact ⟨ts, hts.symm⟩

/-- What a chain of documents with texts and nulls for sources is composed
    of: a table of texts, with what is attached to these. -/
theorem exists_texts_of_compose {composed : Json} (htexts : ∀ doc ∈ maps, HasTextSources doc)
    (h : compose maps = .ok composed) :
    ∃ (first last : Json) (contents metadata : Json.Table Json) (document : Assembled)
      (sources : List Text), maps.head? = some first
      ∧ chainContents [] maps = .ok contents ∧ facebookSources first = .ok metadata
      ∧ document.sources = sources.map Json.str
      ∧ document.contents = contentsFor contents document.sources
      ∧ composed
        = document.extended (keptFrom last ++ metadataMember metadata document.sources) := by
  rcases List.eq_nil_or_concat maps with rfl | ⟨earlier, last, rfl⟩
  · exact nomatch h
  rw [List.concat_eq_append] at h htexts ⊢
  obtain ⟨own, resolved, document, first, contents, metadata, hown, hresolved, hcontents, hdocument,
    hfirst, hmetadata, hcomposed⟩ := compose_eq_ok h
  have hlast : last ∈ earlier ++ [last] := List.mem_append_right _ (List.mem_singleton_self _)
  have hstart : ∀ m ∈ own, m.IsTextual (earlier ++ [last]) := fun m hm =>
    ⟨isRead_of_parse hlast hown m hm, isTextOrNull_of_parse (htexts last hlast) hown m hm⟩
  have hearlier : ∀ doc ∈ earlier.reverse, doc ∈ earlier ++ [last] := fun doc hdoc =>
    List.mem_append_left _ (List.mem_reverse.mp hdoc)
  have htextual := isTextual_of_resolveAll hearlier (fun doc hdoc => htexts doc (hearlier doc hdoc))
    hstart hresolved
  unfold assemble at hdocument
  obtain ⟨ordered, hordered, hdocument⟩ := bind_eq_ok.mp hdocument
  obtain ⟨placed, hplaced, hdocument⟩ := bind_eq_ok.mp hdocument
  obtain ⟨_, -, hdocument⟩ := bind_eq_ok.mp hdocument
  obtain rfl := pure_eq_ok.mp hdocument
  obtain ⟨ordered', hsort, hperm⟩ := @exists_sort_mappings _ .computed _
    fun m hm => (htextual m hm).1
  obtain rfl := Except.ok.inj (hsort.symm.trans hordered)
  have hstr := exists_str_of_placeAll (fun m hm => (htextual m (hperm.mem_iff.mp hm)).2) hplaced
  obtain ⟨sources, hsources⟩ : ∃ ts : List Text, sourceTable placed = ts.map Json.str := by
    refine exists_map_str fun x hx => ?_
    obtain ⟨p, hp, hreach⟩ := List.mem_filterMap.mp (mem_of_mem_firstUses hx)
    obtain ⟨r, hr, rfl⟩ := Option.map_eq_some_iff.mp hreach
    exact hstr p hp r hr
  exact ⟨first, last, contents, metadata, _, sources, hfirst, hcontents, hmetadata, hsources, rfl,
    hcomposed⟩

/-! ## What a composed document attaches -/

/-- **Contents follow their sources.**  A chain of documents with texts and
    nulls for sources, whose embedded contents are arrays or missing, is
    composed to a document of texts for sources.  It has contents exactly
    if one of these has a content that is not null in the chain, and then
    one for each of them: the first such content, from the first document
    to the last, or null if there is none. -/
theorem embeddedContents_compose {composed : Json}
    (htexts : ∀ doc ∈ maps, HasTextSources doc)
    (harrays : ∀ doc ∈ maps, ∀ basic ∈ partsOf doc,
      isArrayOrNull (member basic "sourcesContent") = true)
    (h : compose maps = .ok composed) :
    ∃ sources : List Text, composed.get? "sources" = some (.arr (sources.map .str))
      ∧ composed.get? "sourcesContent"
        = if ∃ s ∈ sources, (embeddedContent maps s).isSome then
            some (.arr (sources.map fun s => (embeddedContent maps s).getD .null))
          else none := by
  obtain ⟨_, last, contents, _, document, sources, -, hcontents, -, hsources, hattached, rfl⟩ :=
    exists_texts_of_compose htexts h
  have hget : ∀ s : Text, contents.get? (.str s) = embeddedContent maps s := fun s =>
    get?_chainContents (exists_parse_of_compose h) harrays hcontents
  refine ⟨sources, ?_, ?_⟩
  · rw [Assembled.extended_sources, hsources]
  · rw [Assembled.extended_contents, find?_extensions (by decide) (by decide), Option.or_none,
      hattached, hsources, contentsFor_map_str]
    simp only [hget]
    split
    · rfl
    · rfl

/-- A document of two sections.  The one lists a source without a content,
    and a null; the other lists the same source again, with more contents
    and metadata than it has sources. -/
def attachingSections : Json :=
  .obj [(Text.ofString "version", .int 3),
    (Text.ofString "sections", .arr [
      .obj [(Text.ofString "map", .obj [(Text.ofString "version", .int 3),
        (Text.ofString "sourceRoot", .string "/src/"),
        (Text.ofString "sources", .arr [.string "a.ts", .null]),
        (Text.ofString "sourcesContent", .arr [.null]),
        (Text.ofString "mappings", .string "AAAA")])],
      .obj [(Text.ofString "offset", .obj [(Text.ofString "column", .int 5)]),
        (Text.ofString "map", .obj [(Text.ofString "version", .int 3),
          (Text.ofString "sources", .arr [.string "/src/a.ts"]),
          (Text.ofString "sourcesContent", .arr [.string "let a", .string "let b"]),
          (Text.ofString "x_facebook_sources", .arr [.arr [.int 7], .arr [.int 8]]),
          (Text.ofString "mappings", .string "AAAA")])]])]

/-- A document behind it, of which the last mapping is not answered for. -/
def attachedBundle : Json :=
  .obj [(Text.ofString "version", .int 3),
    (Text.ofString "sources", .arr [.string "index.js"]),
    (Text.ofString "sourcesContent", .arr [.string "start()"]),
    (Text.ofString "x_facebook_sources", .arr [.arr [.int 9]]),
    (Text.ofString "mappings", .string "AAAA,KAAK;AAOL")]

/-- The two documents. -/
def attachingChain : List Json := [attachingSections] ++ [attachedBundle]

/-- They are composed to a document of a source from each, and with the
    metadata of the second section. -/
theorem exists_compose_attachingChain :
    ∃ composed, compose attachingChain = .ok composed
      ∧ composed.get? "sources"
        = some (.arr ([Text.ofString "/src/a.ts", Text.ofString "index.js"].map .str))
      ∧ composed.get? "x_facebook_sources" = some (.arr [.arr [.int 7], .null]) := by
  have hfirst : Lists attachingSections
      [⟨0, 0, some (Text.ofString "/src/a.ts"), some 0, some 0, none⟩,
        ⟨0, 5, some (Text.ofString "/src/a.ts"), some 0, some 0, none⟩] := rfl
  have hlast : Lists attachedBundle
      [⟨0, 0, some (Text.ofString "index.js"), some 0, some 0, none⟩,
        ⟨0, 5, some (Text.ofString "index.js"), some 0, some 5, none⟩,
        ⟨1, 0, some (Text.ofString "index.js"), some 7, some 0, none⟩] := rfl
  exact ⟨_, compose_eq_of_ordered hlast (.cons hfirst .nil) rfl rfl rfl (by decide) (by decide),
    rfl, rfl⟩

/-- Tables of texts that are read as the same are the same. -/
theorem texts_inj {texts others : List Text}
    (h : some (Json.arr (texts.map .str)) = some (.arr (others.map .str))) : texts = others :=
  List.map_injective_iff.mpr (fun _ _ hstr => Json.str.inj hstr) (Json.arr.inj (Option.some.inj h))

theorem hasTextSources_attachingChain : ∀ doc ∈ attachingChain, HasTextSources doc := by
  show ∀ doc ∈ attachingChain, ∀ basic ∈ partsOf doc, ∀ source ∈ itemsOf basic "sources",
    isTextOrNull source = true
  decide

theorem embeddedContents_compose_attachingChain :
    (∀ doc ∈ attachingChain, HasTextSources doc)
      ∧ (∀ doc ∈ attachingChain, ∀ basic ∈ partsOf doc,
        isArrayOrNull (member basic "sourcesContent") = true)
      ∧ ∃ composed, compose attachingChain = .ok composed
        ∧ composed.get? "sourcesContent" = some (.arr [.string "let a", .string "start()"]) := by
  obtain ⟨composed, h, hlisted, -⟩ := exists_compose_attachingChain
  have harrays : ∀ doc ∈ attachingChain, ∀ basic ∈ partsOf doc,
      isArrayOrNull (member basic "sourcesContent") = true := by decide
  obtain ⟨sources, hsources, hcontents⟩ :=
    embeddedContents_compose hasTextSources_attachingChain harrays h
  obtain rfl := texts_inj (hsources.symm.trans hlisted)
  refine ⟨hasTextSources_attachingChain, harrays, composed, h, ?_⟩
  rw [hcontents, if_pos ⟨_, List.mem_cons_self .., rfl⟩]
  rfl

/-- **Metadata follow their sources.**  A chain of documents with texts and
    nulls for sources is composed to a document of texts for sources.  It
    has metadata exactly if the first document of the chain attaches some
    to a source, and then an entry for each of its own sources: what the
    first document attaches to it, or null.  That is what its first
    occurrence there has attached, if this has something, and nothing if it
    does not occur there; no entry is from anywhere else. -/
theorem metadata_compose {composed : Json} (htexts : ∀ doc ∈ maps, HasTextSources doc)
    (h : compose maps = .ok composed) :
    ∃ (first : Json) (sources : List Text), maps.head? = some first
      ∧ composed.get? "sources" = some (.arr (sources.map .str))
      ∧ composed.get? "x_facebook_sources"
        = (if ∃ o ∈ occurrences "x_facebook_sources" first, o.attached.isSome then
            some (.arr (sources.map fun s => (attachedMetadata first s).getD .null))
          else none)
      ∧ ∀ s, (firstOccurrence first s = none → attachedMetadata first s = none)
        ∧ (∀ o, firstOccurrence first s = some o → o.attached.isSome = true →
          attachedMetadata first s = o.attached)
        ∧ ∀ item, attachedMetadata first s = some item →
          ∃ o ∈ occurrences "x_facebook_sources" first,
            o.source = .str s ∧ o.attached = some item := by
  obtain ⟨first, last, _, metadata, document, sources, hfirst, -, hmetadata, hsources, -, rfl⟩ :=
    exists_texts_of_compose htexts h
  obtain ⟨ms, hparse⟩ := exists_parse_of_compose h first (List.mem_of_mem_head? hfirst)
  have hget : ∀ key, metadata.get? key
      = firstAttached (fun _ => true) (occurrences "x_facebook_sources" first) key := fun _ =>
    get?_facebookSources hparse hmetadata
  have hempty : metadata.isEmpty = true
      ↔ ¬∃ o ∈ occurrences "x_facebook_sources" first, o.attached.isSome := by
    rw [isEmpty_iff_get?, forall_congr' fun key => by rw [hget key], firstAttached_eq_none_iff]
    simp [Option.isSome_iff_ne_none]
  refine ⟨first, sources, hfirst, ?_, ?_, ?_⟩
  · rw [Assembled.extended_sources, hsources]
  · show (document.extended _).get? (Text.ofString "x_facebook_sources") = _
    rw [Assembled.extended_other _ _ (by decide)]
    show Entries.find? _ "x_facebook_sources" = _
    rw [find?_metadata, metadataMember, hsources]
    split
    · rename_i hnone
      rw [if_neg (hempty.mp hnone)]
      rfl
    · rename_i hsome
      rw [if_pos (not_not.mp fun hnot => hsome (hempty.mpr hnot)), List.map_map]
      simp only [Function.comp_def, hget]
      rfl
  · intro s
    refine ⟨firstAttached_of_find?_none, fun o hfound hsome => firstAttached_of_find? hfound hsome,
      ?_⟩
    intro item hitem
    obtain ⟨o, ho, hsame, hattached⟩ := exists_of_firstAttached hitem
    exact ⟨o, ho, same_str_iff.mp hsame, hattached⟩

theorem metadata_compose_attachingChain :
    (∀ doc ∈ attachingChain, HasTextSources doc)
      ∧ ∃ composed, compose attachingChain = .ok composed
        ∧ composed.get? "x_facebook_sources" = some (.arr [.arr [.int 7], .null]) := by
  obtain ⟨composed, h, hlisted, -⟩ := exists_compose_attachingChain
  obtain ⟨first, sources, hfirst, hsources, hmetadata, -⟩ :=
    metadata_compose hasTextSources_attachingChain h
  obtain rfl := texts_inj (hsources.symm.trans hlisted)
  obtain rfl : attachingSections = first := Option.some.inj hfirst
  refine ⟨hasTextSources_attachingChain, composed, h, ?_⟩
  have hattached : ∃ o ∈ occurrences "x_facebook_sources" attachingSections,
      o.attached.isSome = true := ⟨⟨.string "/src/a.ts", some (.arr [.int 7])⟩, by
    show _ ∈ [Occurrence.mk (.string "/src/a.ts") none, ⟨.null, none⟩,
      ⟨.string "/src/a.ts", some (.arr [.int 7])⟩]
    exact List.mem_cons_of_mem _ (List.mem_cons_of_mem _ (List.mem_singleton_self _)), rfl⟩
  rw [hmetadata, if_pos hattached]
  rfl

/-- The first occurrence of a source does not tell its metadata.  In a
    section without any a source has none, and then another section's are
    what the composed document says of it. -/
theorem metadata_not_firstOccurrence :
    ¬∀ (maps : List Json) (composed first : Json) (sources : List Text),
      (∀ doc ∈ maps, HasTextSources doc) → compose maps = .ok composed →
      maps.head? = some first → composed.get? "sources" = some (.arr (sources.map .str)) →
      composed.get? "x_facebook_sources"
        = if ∃ o ∈ occurrences "x_facebook_sources" first, o.attached.isSome then
            some (.arr (sources.map fun s =>
              ((firstOccurrence first s).bind (·.attached)).getD .null))
          else none := by
  intro hall
  obtain ⟨composed, h, hsources, hmetadata⟩ := exists_compose_attachingChain
  have hclaimed := hmetadata.symm.trans
    (hall _ _ _ _ hasTextSources_attachingChain h rfl hsources)
  split at hclaimed
  · have hentries : Json.arr [.arr [.int 7], .null] = .arr [.null, .null] :=
      Option.some.inj hclaimed
    exact nomatch hentries
  · exact nomatch hclaimed

end HermesBundle.SourceMap
