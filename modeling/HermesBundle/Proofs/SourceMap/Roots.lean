import HermesBundle.Proofs.SourceMap.Accounting
import HermesBundle.Proofs.SourceMap.Sections

/-! # Roots — a source root can be applied beforehand

    A source root stands in front of the sources of a document wherever
    these are read: for what the document lists, for the contents and for
    the metadata.  A document whose sources already have the root, and
    that declares none, is read the same:

    * setting and erasing members changes those members only
      (`Entries.find?_set`, `Entries.find?_erase`);
    * a document is used by what it lists, its contents, its metadata and
      some members (`IsUsedAlike`), and a chain is composed by what its
      documents are used for (`compose_congr`);
    * applying roots changes none of it, in a basic document or in any
      section (`RootsApplied.isUsedAlike`). -/

namespace HermesBundle

namespace SourceMap

open Outcome

/-! ## Documents with their root applied -/

/-- A basic document and the one that declares no root and has the sources
    with the root applied. -/
inductive RootApplied : Json → Json → Prop where
  | intro {members : Entries Json} {names : List Json} :
      Entries.find? members "sections" = none → sourceNames (.obj members) = .ok names →
      RootApplied (.obj members)
        (.obj (Entries.set (Entries.erase members "sourceRoot") "sources" (.arr names)))

/-- A section and the same one or one with the root of its document
    applied. -/
inductive SectionApplied : Json → Json → Prop where
  | same (part : Json) : SectionApplied part part
  | map {members : Entries Json} {inner applied : Json} :
      Entries.find? members "map" = some inner → RootApplied inner applied →
      SectionApplied (.obj members) (.obj (Entries.set members "map" applied))

/-- A document and the same one or one with its root or those of some of
    its sections applied. -/
inductive RootsApplied : Json → Json → Prop where
  | same (doc : Json) : RootsApplied doc doc
  | basic {doc applied : Json} : RootApplied doc applied → RootsApplied doc applied
  | sections {members : Entries Json} {parts applied : List Json} :
      Entries.find? members "sections" = some (.arr parts) →
      List.Forall₂ SectionApplied parts applied →
      RootsApplied (.obj members) (.obj (Entries.set members "sections" (.arr applied)))

/-! ## What documents are used for -/

/-- Whether two basic documents are read alike. -/
structure IsReadAlike (a b : Json) : Prop where
  isObject : isObject b = isObject a
  isNull : b.isNull = a.isNull
  version : requireVersion b = requireVersion a
  sections : b.get? "sections" = a.get? "sections"
  mappings : ∀ lineOffset columnOffset,
    parseBasic b lineOffset columnOffset = parseBasic a lineOffset columnOffset
  contents : contentPairs b = contentPairs a
  metadata : metadataPairs b = metadataPairs a

/-- Whether two documents are used alike in a chain. -/
structure IsUsedAlike (a b : Json) : Prop where
  version : requireVersion b = requireVersion a
  mappings : parse b = parse a
  contents : sourcesContent b = sourcesContent a
  metadata : facebookSources b = facebookSources a
  file : member b "file" = member a "file"
  kept : keptFrom b = keptFrom a

theorem IsReadAlike.refl (doc : Json) : IsReadAlike doc doc :=
  ⟨rfl, rfl, rfl, rfl, fun _ _ => rfl, rfl, rfl⟩

theorem IsUsedAlike.refl (doc : Json) : IsUsedAlike doc doc := ⟨rfl, rfl, rfl, rfl, rfl, rfl⟩

variable {maps others : List Json}

/-- Later mappings are looked up alike in documents that are used alike. -/
theorem resolveAll_congr (h : List.Forall₂ IsUsedAlike maps others) (ms : List Mapping) :
    resolveAll ms others = resolveAll ms maps := by
  induction h generalizing ms with
  | nil => rfl
  | cons hhead _ ih => simp only [resolveAll, hhead.mappings, ih]

theorem chainContents_congr (h : List.Forall₂ IsUsedAlike maps others) (table : Json.Table Json) :
    chainContents table others = chainContents table maps := by
  induction h generalizing table with
  | nil => rfl
  | cons hhead _ ih => simp only [chainContents, hhead.contents, ih]

/-- **Chains of documents that are used alike are composed alike.** -/
theorem compose_congr (h : List.Forall₂ IsUsedAlike maps others) :
    compose others = compose maps := by
  have hreverse := List.rel_reverse h
  have hcontents := chainContents_congr h []
  unfold compose
  rw [List.getLast?_eq_head?_reverse, List.getLast?_eq_head?_reverse, ← List.tail_reverse,
    ← List.tail_reverse, hcontents]
  generalize maps.reverse = later, others.reverse = later' at hreverse
  cases hreverse with
  | nil => rfl
  | cons hlast hearlier =>
      cases h with
      | nil => rfl
      | cons hfirst _ =>
          dsimp only [List.head?_cons, List.tail_cons]
          simp only [hlast.version, hlast.mappings, hlast.file, hlast.kept, hfirst.metadata,
            resolveAll_congr hearlier]

/-! ## Applied roots -/

/-- The members of a basic document with its root applied. -/
theorem find?_applied (members : Entries Json) (names : List Json) (name : Text) :
    Entries.find? (Entries.set (Entries.erase members "sourceRoot") "sources" (.arr names)) name
      = if Text.ofString "sources" = name then some (.arr names)
        else if Text.ofString "sourceRoot" = name then none else Entries.find? members name := by
  rw [Entries.find?_set, Entries.find?_erase]

/-- Applying the root changes the sources and the root only. -/
theorem RootApplied.get?_eq {doc applied : Json} (h : RootApplied doc applied) {name : String}
    (hsources : "sources" ≠ name) (hroot : "sourceRoot" ≠ name) :
    applied.get? (Text.ofString name) = doc.get? (Text.ofString name) := by
  obtain ⟨-, -⟩ := h
  show Entries.find? _ _ = Entries.find? _ _
  rw [find?_applied, if_neg fun heq => hsources (Text.ofString_inj.mp heq),
    if_neg fun heq => hroot (Text.ofString_inj.mp heq)]

theorem RootApplied.member_eq {doc applied : Json} (h : RootApplied doc applied) {name : String}
    (hsources : "sources" ≠ name) (hroot : "sourceRoot" ≠ name) :
    member applied name = member doc name :=
  congrArg (·.getD .null) (h.get?_eq hsources hroot)

/-- The sources stay what they were with the root. -/
theorem RootApplied.sourceNames_eq {doc applied : Json} (h : RootApplied doc applied) :
    sourceNames applied = sourceNames doc := by
  obtain ⟨-, hnames⟩ := h
  rw [hnames]
  refine sourceNames_of_arr ?_ ?_
  · show (Entries.find? _ _).getD _ = _
    rw [find?_applied, if_pos rfl]
    rfl
  · show (Entries.find? _ _).getD _ = _
    rw [find?_applied, if_neg (by decide), if_pos rfl]
    rfl

/-- **A document with its root applied is read alike.** -/
theorem RootApplied.isReadAlike {doc applied : Json} (h : RootApplied doc applied) :
    IsReadAlike doc applied := by
  have hversion : member applied "version" = member doc "version" :=
    h.member_eq (by decide) (by decide)
  have hnames : arrayMember applied "names" = arrayMember doc "names" := by
    unfold arrayMember
    rw [h.member_eq (by decide) (by decide)]
  refine ⟨?_, ?_, ?_, h.get?_eq (by decide) (by decide), fun _ _ => ?_, ?_, ?_⟩
  · obtain ⟨-, -⟩ := h
    rfl
  · obtain ⟨-, -⟩ := h
    rfl
  · obtain ⟨-, -⟩ := h
    unfold requireVersion
    dsimp only
    rw [hversion]
  · unfold parseBasic
    rw [h.sourceNames_eq, hnames, h.get?_eq (by decide) (by decide)]
  · unfold contentPairs
    rw [h.sourceNames_eq, h.member_eq (by decide) (by decide)]
  · unfold metadataPairs
    rw [h.sourceNames_eq, h.member_eq (by decide) (by decide)]

/-! ## Applied roots in sections -/

/-- Setting a member changes that member only. -/
theorem get?_set_of_ne {members : Entries Json} {name other : String} (value : Json)
    (h : name ≠ other) :
    (Json.obj (Entries.set members (Text.ofString name) value)).get? (Text.ofString other)
      = (Json.obj members).get? (Text.ofString other) := by
  show Entries.find? _ _ = Entries.find? _ _
  rw [Entries.find?_set, if_neg fun heq => h (Text.ofString_inj.mp heq)]

namespace SectionApplied

variable {part applied : Json} {parts others : List Json}

theorem isObject_eq (h : SectionApplied part applied) : isObject applied = isObject part := by
  cases h <;> rfl

theorem offset_eq (h : SectionApplied part applied) :
    member applied "offset" = member part "offset" := by
  cases h with
  | same => rfl
  | map =>
      have hne : "map" ≠ "offset" := by decide
      exact congrArg (·.getD .null) (get?_set_of_ne _ hne)

/-- The document of the section is read alike. -/
theorem isReadAlike (h : SectionApplied part applied) :
    IsReadAlike (member part "map") (member applied "map") := by
  cases h with
  | same => exact .refl _
  | @map members inner applied hinner hroot =>
      have hold : member (.obj members) "map" = inner := congrArg (·.getD .null) hinner
      have hnew : member (.obj (Entries.set members "map" applied)) "map" = applied := by
        show (Entries.find? _ _).getD _ = _
        rw [Entries.find?_set, if_pos rfl]
        rfl
      rw [hold, hnew]
      exact hroot.isReadAlike

/-- A section with the root of its document applied is read to the same
    mappings. -/
theorem parseSection_eq (h : SectionApplied part applied) :
    parseSection applied = parseSection part := by
  have hmap := h.isReadAlike
  simp only [parseSection, h.offset_eq, hmap.isNull, hmap.version, hasMember, hmap.sections,
    hmap.mappings]
  rfl

/-- As many sections are objects. -/
theorem all_isObject_eq (h : List.Forall₂ SectionApplied parts others) :
    others.all SourceMap.isObject = parts.all SourceMap.isObject := by
  induction h with
  | nil => rfl
  | cons hhead _ ih => rw [List.all_cons, List.all_cons, hhead.isObject_eq, ih]

/-- The document of a section, if it is one. -/
def documentOf? (part : Json) : Option Json :=
  if isObject (member part "map") then some (member part "map") else none

/-- The documents of sections are read alike. -/
theorem filterMap_documentOf? (h : List.Forall₂ SectionApplied parts others) :
    List.Forall₂ IsReadAlike (parts.filterMap documentOf?) (others.filterMap documentOf?) := by
  induction h with
  | nil => exact .nil
  | @cons part applied _ _ hhead _ ih =>
      have hmap := hhead.isReadAlike
      by_cases hobject : isObject (member part "map") = true
      · have hpart : documentOf? part = some _ := if_pos hobject
        have happlied : documentOf? applied = some _ := if_pos (hmap.isObject.trans hobject)
        rw [List.filterMap_cons_some hpart, List.filterMap_cons_some happlied]
        exact .cons hmap ih
      · have hpart : documentOf? part = none := if_neg hobject
        have happlied : documentOf? applied = none := if_neg (hmap.isObject ▸ hobject)
        rw [List.filterMap_cons_none hpart, List.filterMap_cons_none happlied]
        exact ih

end SectionApplied

/-! ## Applied roots in a chain -/

/-- Pairs are collected alike from documents that have the same ones. -/
theorem collect_congr {pairs : Json → Except Fault (List (Json × Json))} {docs others : List Json}
    (h : List.Forall₂ (fun a b => pairs b = pairs a) docs others) (table : Json.Table Json) :
    collect pairs table others = collect pairs table docs := by
  induction h generalizing table with
  | nil => rfl
  | cons hhead _ ih => simp only [collect, hhead, ih]

/-- Documents that have basic ones which are read alike have the same
    contents and metadata. -/
theorem collected_eq {doc applied : Json} {docs others : List Json}
    (hdocs : basicDocuments doc = .ok docs) (hothers : basicDocuments applied = .ok others)
    (h : List.Forall₂ IsReadAlike docs others) :
    sourcesContent applied = sourcesContent doc
      ∧ facebookSources applied = facebookSources doc := by
  unfold sourcesContent facebookSources
  rw [hdocs, hothers]
  exact ⟨collect_congr (h.imp fun _ _ hread => hread.contents) [],
    collect_congr (h.imp fun _ _ hread => hread.metadata) []⟩

/-- Members of some names that agree are kept alike. -/
theorem keptFrom_congr {doc applied : Json}
    (h : ∀ name ∈ keptMembers, applied.get? (Text.ofString name) = doc.get? (Text.ofString name)) :
    keptFrom applied = keptFrom doc :=
  List.filterMap_congr fun name hname => by rw [h name hname]

/-- A basic document with its root applied is used alike. -/
theorem RootApplied.isUsedAlike {doc applied : Json} (h : RootApplied doc applied) :
    IsUsedAlike doc applied := by
  have hread := h.isReadAlike
  have hsections : doc.get? "sections" = none := by
    obtain ⟨hnone, -⟩ := h
    exact hnone
  have hdocs : basicDocuments doc = .ok [doc] := by
    obtain ⟨-, -⟩ := h
    unfold basicDocuments
    dsimp only
    rw [hsections]
  have hothers : basicDocuments applied = .ok [applied] := by
    have hnone := hread.sections.trans hsections
    obtain ⟨-, -⟩ := h
    unfold basicDocuments
    dsimp only
    rw [hnone]
  obtain ⟨hcontents, hmetadata⟩ := collected_eq hdocs hothers (.cons hread .nil)
  refine ⟨hread.version, ?_, hcontents, hmetadata, h.member_eq (by decide) (by decide),
    keptFrom_congr ?_⟩
  · simp only [parse, hread.version, hread.sections, hsections, hread.mappings]
  · exact List.forall_mem_singleton.mpr (h.get?_eq (by decide) (by decide))

/-- **Applying roots in a document does not change its use.** -/
theorem RootsApplied.isUsedAlike {doc applied : Json} (h : RootsApplied doc applied) :
    IsUsedAlike doc applied := by
  cases h with
  | same => exact .refl _
  | basic hroot => exact hroot.isUsedAlike
  | @sections members parts applied hparts happlied =>
      have hold : (Json.obj members).get? "sections" = some (.arr parts) := hparts
      have hnew : (Json.obj (Entries.set members "sections" (.arr applied))).get? "sections"
          = some (.arr applied) := (Entries.find?_set ..).trans (if_pos rfl)
      have hother : ∀ name, "sections" ≠ name →
          (Json.obj (Entries.set members "sections" (.arr applied))).get? (Text.ofString name)
            = (Json.obj members).get? (Text.ofString name) := fun _ hne => get?_set_of_ne _ hne
      have hversion : requireVersion (.obj (Entries.set members "sections" (.arr applied)))
          = requireVersion (.obj members) := by
        unfold requireVersion member
        dsimp only
        rw [hother _ (by decide)]
      have hdocs : basicDocuments (.obj members)
          = .ok (parts.filterMap SectionApplied.documentOf?) := by
        unfold basicDocuments
        dsimp only
        rw [hold]
        rfl
      have hothers : basicDocuments (.obj (Entries.set members "sections" (.arr applied)))
          = .ok (applied.filterMap SectionApplied.documentOf?) := by
        unfold basicDocuments
        dsimp only
        rw [hnew]
        rfl
      obtain ⟨hcontents, hmetadata⟩ :=
        collected_eq hdocs hothers (SectionApplied.filterMap_documentOf? happlied)
      refine ⟨hversion, ?_, hcontents, hmetadata, congrArg (·.getD .null) (hother _ (by decide)),
        keptFrom_congr (List.forall_mem_singleton.mpr (hother _ (by decide)))⟩
      unfold parse
      rw [hversion, hold, hnew]
      dsimp only
      rw [SectionApplied.all_isObject_eq happlied,
        mapM_congr (happlied.imp fun _ _ h => h.parseSection_eq)]

/-! ## Chains with applied roots -/

/-- A basic document that can be read has a root to apply, if only an empty
    one. -/
theorem exists_rootApplied {doc lineOffset columnOffset : Json} {ms : List Mapping}
    (hversion : requireVersion doc = .ok ()) (hnone : doc.get? "sections" = none)
    (h : parseBasic doc lineOffset columnOffset = .ok ms) : ∃ applied, RootApplied doc applied := by
  obtain ⟨names, _, _, _, hnames, -⟩ := parseBasic_eq_ok h
  cases doc with
  | obj members => exact ⟨_, .intro hnone hnames⟩
  | _ => exact nomatch hversion

/-- So has each part of a document that can be read. -/
theorem exists_rootApplied_of_parse {doc basic lineOffset columnOffset : Json} {ms : List Mapping}
    (h : parse doc = .ok ms) (hpart : IsPart doc basic lineOffset columnOffset) :
    ∃ applied, RootApplied basic applied := by
  obtain ⟨_, hversion, -⟩ := bind_eq_ok.mp h
  rcases parse_eq_ok h with ⟨hnone, hbasic⟩ | ⟨sections, parts, hsome, hparts, rfl⟩
  · cases hpart with
    | whole => exact exists_rootApplied hversion hnone hbasic
    | «section» hsections => exact nomatch hnone.symm.trans hsections
  · cases hpart with
    | whole hnone => exact nomatch hnone.symm.trans hsome
    | «section» hsections hmem =>
        obtain rfl := Json.arr.inj (Option.some.inj (hsome.symm.trans hsections))
        obtain ⟨before, behind, rfl⟩ := List.append_of_mem hmem
        obtain ⟨_, _, _, -, hread, -⟩ := exists_of_mapM_append_cons hparts
        obtain ⟨hversion, hnone⟩ := isBasic_of_parseSection hread
        exact exists_rootApplied hversion hnone (parseSection_eq_ok hread)

/-- Every document of a chain that can be composed can be read. -/
theorem exists_parse_of_compose {composed : Json} (h : compose maps = .ok composed) :
    ∀ doc ∈ maps, ∃ ms, parse doc = .ok ms := by
  rcases List.eq_nil_or_concat maps with rfl | ⟨earlier, last, rfl⟩
  · exact nomatch h
  · rw [List.concat_eq_append] at h ⊢
    obtain ⟨own, _, _, _, _, _, hown, hresolved, -⟩ := compose_eq_ok h
    intro doc hdoc
    rcases List.mem_append.mp hdoc with hdoc | hdoc
    · exact exists_parse_of_resolveAll hresolved doc (List.mem_reverse.mpr hdoc)
    · exact ⟨own, List.mem_singleton.mp hdoc ▸ hown⟩

/-- **Source roots can be applied beforehand.**  Where a chain can be
    composed, the root of each basic document in it can be applied; and
    whichever of them are, the chain is composed to the same document. -/
theorem compose_rootsApplied {composed : Json} (h : compose maps = .ok composed) :
    (∀ doc ∈ maps, ∀ basic lineOffset columnOffset, IsPart doc basic lineOffset columnOffset →
      ∃ applied, RootApplied basic applied)
      ∧ ∀ others, List.Forall₂ RootsApplied maps others → compose others = .ok composed := by
  refine ⟨fun doc hdoc basic _ _ hpart => ?_, fun others hothers => ?_⟩
  · obtain ⟨ms, hms⟩ := exists_parse_of_compose h doc hdoc
    exact exists_rootApplied_of_parse hms hpart
  · rw [compose_congr (hothers.imp fun _ _ h => h.isUsedAlike), h]

/-- A document with a root, one source and its content. -/
def rootedDocument (root source content mappings : String) : Json :=
  .obj [(Text.ofString "version", .int 3), (Text.ofString "sourceRoot", .string root),
    (Text.ofString "sources", .arr [.string source]),
    (Text.ofString "sourcesContent", .arr [.string content]),
    (Text.ofString "mappings", .string mappings)]

/-- The same document with the root applied. -/
def settledDocument (source content mappings : String) : Json :=
  .obj [(Text.ofString "version", .int 3),
    (Text.ofString "sources", .arr [.string source]),
    (Text.ofString "sourcesContent", .arr [.string content]),
    (Text.ofString "mappings", .string mappings)]

/-- A document of one section. -/
def singleSection (inner : Json) : Json :=
  .obj [(Text.ofString "version", .int 3),
    (Text.ofString "sections", .arr [.obj [(Text.ofString "map", inner)]])]

/-- A document with a root, and a section of which the document has one. -/
def rootedChain : List Json :=
  [rootedDocument "/src/" "a.ts" "let a" "AAAA"]
    ++ [singleSection (rootedDocument "out" "a.js" "var a" "AAAA")]

/-- The chain with both roots applied. -/
def settledChain : List Json :=
  [settledDocument "/src/a.ts" "let a" "AAAA",
    singleSection (settledDocument "out/a.js" "var a" "AAAA")]

/-- The chain with its roots is composed to the same document as the one
    without. -/
theorem compose_settledChain :
    ∃ composed, compose rootedChain = .ok composed
      ∧ (∃ applied, RootApplied (rootedDocument "/src/" "a.ts" "let a" "AAAA") applied)
      ∧ compose settledChain = .ok composed := by
  have hfirst : Lists (rootedDocument "/src/" "a.ts" "let a" "AAAA")
      [⟨0, 0, some (Text.ofString "/src/a.ts"), some 0, some 0, none⟩] := rfl
  have hlast : Lists (singleSection (rootedDocument "out" "a.js" "var a" "AAAA"))
      [⟨0, 0, some (Text.ofString "out/a.js"), some 0, some 0, none⟩] := rfl
  obtain ⟨composed, hcomposed⟩ := compose_of_lists hlast (.cons hfirst .nil) rfl rfl rfl (by decide)
  have hroot : RootApplied (rootedDocument "/src/" "a.ts" "let a" "AAAA")
      (settledDocument "/src/a.ts" "let a" "AAAA") := @RootApplied.intro _ [_] rfl rfl
  have hsection : SectionApplied
      (.obj [(Text.ofString "map", rootedDocument "out" "a.js" "var a" "AAAA")])
      (.obj [(Text.ofString "map", settledDocument "out/a.js" "var a" "AAAA")]) :=
    .map rfl (@RootApplied.intro _ [_] rfl rfl)
  obtain ⟨hexists, hsame⟩ := compose_rootsApplied hcomposed
  refine ⟨composed, hcomposed, hexists _ (List.mem_cons_self ..) _ _ _ (.whole rfl),
    hsame settledChain (.cons (.basic hroot) (.cons (.sections rfl (.cons hsection .nil)) .nil))⟩

end SourceMap

end HermesBundle
