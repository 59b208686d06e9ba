import HermesBundle.Proofs.Json.Encoding
import HermesBundle.Proofs.Ordering.Rearrangement
import HermesBundle.Proofs.SourceMap.Arrangement
import HermesBundle.Proofs.SourceMap.Chain
import HermesBundle.Proofs.SourceMap.Unchecked

/-! # Accounting — every failure of composing

    Composing a chain of documents gives an object, or reports a source
    map error, or ends at one of the unchecked uses
    (`compose_or_report_or_unchecked`).  The chain having been read, the
    route is:

    * **looking up** (`failsOnly_resolveAll`) — positions that are
      numbers can be compared, so nothing fails there;
    * **tables** (`failsOnly_chainContents`, `failsOnly_facebookSources`)
      — entries that are no scalars are no keys;
    * **writing** (`failsOnly_assemble`) — only integers are written, and
      only on lines that are not below zero; behind a line that is never
      reached nothing is written at all. -/

namespace HermesBundle.SourceMap

open Outcome

section
variable {maps : List Json}

/-! ## Looking up -/

/-- Numbers are scalars. -/
theorem isScalar_of_isNumber {x : Json} (h : x.key.isNumber = true) : x.isScalar = true := by
  cases x with
  | arr items => exact nomatch h
  | obj members => exact nomatch h
  | float d => cases d <;> rfl
  | _ => rfl

/-- Numbers can be compared. -/
theorem comesBefore_isSome {a b : Json} (ha : a.key.isNumber = true) (hb : b.key.isNumber = true) :
    (a.comesBefore b).isSome = true := by
  unfold Json.comesBefore
  split
  · exact nomatch ha
  · rw [ha, hb]
    split
    · rfl
    · rfl

/-- Mappings with numbers for columns are put in the order of these. -/
theorem exists_sortColumns {ms : List Mapping} (hms : ∀ m ∈ ms, m.column.key.isNumber = true) :
    ∃ sorted, sortColumns ms = .ok sorted ∧ sorted.Perm ms := by
  unfold sortColumns
  split
  · exact ⟨_, rfl, List.mergeSort_perm ms _⟩
  · have hdecides : Ordering.Decides (fun a b : Mapping => a.column.comesBefore b.column)
        fun m => m.column.key.isNumber = true := fun _ _ => comesBefore_isSome
    obtain ⟨sorted, hsort, hperm⟩ := Ordering.exists_sort hdecides hms
    rw [hsort]
    exact ⟨sorted, rfl, hperm⟩

/-- An index whose lines hold some of the mappings it was made from. -/
def LineIndex.Within (index : LineIndex) (ms : List Mapping) : Prop :=
  ∀ entry ∈ index, ∀ m ∈ entry.2, m ∈ ms

/-- Mappings that were read are indexed. -/
theorem exists_ofMappings {ms : List Mapping} (hms : ∀ m ∈ ms, m.IsRead maps) :
    ∃ index, LineIndex.ofMappings ms = .ok index ∧ index.Within ms := by
  have hlines : (ms.all fun m => m.line.isScalar) = true :=
    List.all_eq_true.mpr fun m hm => isScalar_of_isNumber (hms m hm).line
  have hgroup : ∀ line, ∃ sorted, sortColumns (onLine ms line) = .ok sorted
      ∧ sorted.Perm (onLine ms line) := fun line =>
    exists_sortColumns fun m hm => (hms m (List.mem_of_mem_filter hm)).column
  choose group hsort hperm using hgroup
  refine ⟨(linesOf ms).map fun line => (line, group line), ?_, ?_⟩
  · unfold LineIndex.ofMappings
    rw [if_pos hlines]
    refine mapM_of_forall fun line _ => ?_
    rw [bind_of_eq_ok (hsort line)]
    rfl
  · intro entry hentry m hm
    obtain ⟨line, -, rfl⟩ := List.mem_map.mp hentry
    exact List.mem_of_mem_filter ((hperm line).mem_iff.mp hm)

/-- The mapping that answers for a column on a line is found. -/
theorem exists_lastBefore {column : Json} {ms : List Mapping}
    (hcolumn : column.key.isNumber = true) (hms : ∀ m ∈ ms, m.column.key.isNumber = true) :
    ∃ hit, LineIndex.lastBefore column ms = .ok hit ∧ ∀ m, hit = some m → m ∈ ms := by
  unfold LineIndex.lastBefore
  split
  · exact ⟨_, rfl, fun m hm => List.takeWhile_subset _ (List.mem_of_getLast? hm)⟩
  · have hends : (Ordering.countLeading
        (fun m : Mapping => Ordering.opposite (column.comesBefore m.column)) ms.toArray).isSome
        = true := Ordering.narrow_isSome (fun m hm => Ordering.opposite_isSome
          (comesBefore_isSome hcolumn (hms m (List.mem_toArray.mp hm)))) _ _
    obtain ⟨n, hn⟩ := Option.isSome_iff_exists.mp hends
    dsimp only
    rw [hn]
    exact ⟨_, rfl, fun m hm => List.mem_of_mem_take (List.mem_of_getLast? hm)⟩

/-- A lookup at a position in a source finds a mapping or none. -/
theorem exists_sourcePosition {index : LineIndex} {ms : List Mapping} (line column : Int)
    (hindex : index.Within ms) (hms : ∀ m ∈ ms, m.IsRead maps) :
    ∃ hit, index.sourcePosition (.int line) (.int column) = .ok hit
      ∧ ∀ m, hit = some m → m ∈ ms := by
  have hget : ∀ {table : LineIndex} {group : List Mapping},
      Json.Table.get? table (.int line) = some group → ∃ entry ∈ table, entry.2 = group := by
    intro table group hgroup
    induction table with
    | nil => exact absurd hgroup.symm (Option.some_ne_none group)
    | cons entry rest ih =>
        unfold Json.Table.get? at hgroup
        split at hgroup
        · exact ⟨entry, List.mem_cons_self .., Option.some.inj hgroup⟩
        · obtain ⟨found, hfound, heq⟩ := ih hgroup
          exact ⟨found, List.mem_cons_of_mem _ hfound, heq⟩
  have hnumber : (Json.int column).key.isNumber = true := rfl
  unfold LineIndex.sourcePosition
  rw [if_pos (show (Json.int line).isScalar = true from rfl)]
  split
  · exact ⟨none, rfl, fun m hm => absurd hm.symm (Option.some_ne_none m)⟩
  · rename_i group hgroup
    obtain ⟨entry, hentry, rfl⟩ := hget hgroup
    obtain ⟨hit, hfound, hmem⟩ :=
      exists_lastBefore hnumber fun m hm => (hms m (hindex entry hentry m hm)).column
    rw [bind_of_eq_ok hfound]
    refine ⟨_, rfl, fun m hm => hindex entry hentry m (hmem m ?_)⟩
    exact (Option.filter_eq_some_iff.mp hm).1

/-- A place that is not none is an integer. -/
theorem IsPlace.exists_int {x : Json} (h : IsPlace x) (hx : x.isNull = false) : ∃ i, x = .int i := by
  rcases h with rfl | hint
  · exact nomatch hx
  · exact hint

/-- A located mapping has integers for its place. -/
theorem Mapping.IsRead.exists_place {m : Mapping} (h : m.IsRead maps) (hm : m.isLocated = true) :
    (∃ i, m.sourceLine = .int i) ∧ ∃ i, m.sourceColumn = .int i := by
  unfold Mapping.isLocated at hm
  rw [Bool.and_eq_true, Bool.and_eq_true, Bool.not_eq_true', Bool.not_eq_true'] at hm
  exact ⟨h.sourceLine.exists_int hm.1.2, h.sourceColumn.exists_int (Bool.not_eq_true' _ ▸ hm.2)⟩

/-- A mapping that is looked up keeps its position and is still read. -/
theorem exists_resolveThrough {index : LineIndex} {ms : List Mapping} {m : Mapping}
    (hindex : index.Within ms) (hms : ∀ m ∈ ms, m.IsRead maps) (hm : m.IsRead maps) :
    ∃ m', resolveThrough index m = .ok m' ∧ m'.IsRead maps ∧ m'.line = m.line
      ∧ m'.column = m.column := by
  unfold resolveThrough
  split
  · rename_i hlocated
    obtain ⟨⟨l, hl⟩, c, hc⟩ := hm.exists_place hlocated
    obtain ⟨hit, hfound, hmem⟩ := exists_sourcePosition l c hindex hms
    rw [hl, hc, hfound]
    cases hit with
    | none => exact ⟨m, rfl, hm, rfl, rfl⟩
    | some found =>
        have hread := hms found (hmem found rfl)
        refine ⟨m.redirect found, rfl, ⟨hm.line, hm.column, hread.sourceLine, hread.sourceColumn,
          hread.source, ?_⟩, rfl, rfl⟩
        unfold Mapping.redirect
        dsimp only
        split
        · exact hm.name
        · exact hread.name
  · exact ⟨m, rfl, hm, rfl, rfl⟩

/-- A mapping with the position of one of the last document's. -/
def Mapping.IsAtOneOf (own : List Mapping) (m : Mapping) : Prop :=
  ∃ m₀ ∈ own, m.line = m₀.line ∧ m.column = m₀.column

/-- Mappings are looked up in earlier documents unless one of these uses
    something unchecked; they keep their positions. -/
theorem failsOnly_resolveAll {own ms : List Mapping} {docs : List Json}
    (hdocs : ∀ doc ∈ docs, doc ∈ maps) (hms : ∀ m ∈ ms, m.IsRead maps ∧ m.IsAtOneOf own) :
    FailsOnly (Accounted maps) (resolveAll ms docs)
      ∧ ∀ resolved, resolveAll ms docs = .ok resolved →
        ∀ m ∈ resolved, m.IsRead maps ∧ m.IsAtOneOf own := by
  induction docs generalizing ms with
  | nil => exact ⟨.ok ms, fun resolved h => Except.ok.inj h ▸ hms⟩
  | cons doc rest ih =>
      obtain ⟨hdoc, hrest⟩ := List.forall_mem_cons.mp hdocs
      unfold resolveAll
      cases hparse : parse doc with
      | error e =>
          refine ⟨.error (failsOnly_parse hdoc e hparse), fun _ h => ?_⟩
          cases h
      | ok parsed =>
          have hread := isRead_of_parse hdoc hparse
          obtain ⟨index, hindex, hwithin⟩ := exists_ofMappings hread
          have hstep : ∀ m ∈ ms, ∃ m', resolveThrough index m = .ok m'
              ∧ m'.IsRead maps ∧ m'.IsAtOneOf own := by
            intro m hm
            obtain ⟨hone, m₀, hmem, hline, hcolumn⟩ := hms m hm
            obtain ⟨m', heq, hread', hl, hc⟩ := exists_resolveThrough hwithin hread hone
            exact ⟨m', heq, hread', m₀, hmem, hl.trans hline, hc.trans hcolumn⟩
          obtain ⟨resolved, hresolved, hall⟩ := exists_mapM hstep
          rw [bind_of_eq_ok rfl, bind_of_eq_ok hindex, bind_of_eq_ok hresolved]
          exact ih hrest hall

/-! ## Tables -/

/-- Pairs whose keys are scalars, unless one is used unchecked. -/
def HasKeys (maps : List Json) (pairs : List (Json × Json)) : Prop :=
  ∀ entry ∈ pairs, entry.1.isScalar = true ∨ Unchecked maps (.misuse .unsuitedKind)

/-- Pairs are added to a table unless a key is used unchecked. -/
theorem failsOnly_addPairs {table : Json.Table Json} {pairs : List (Json × Json)}
    (h : HasKeys maps pairs) : FailsOnly (Accounted maps) (addPairs table pairs) := by
  induction pairs generalizing table with
  | nil => exact .ok table
  | cons entry rest ih =>
      obtain ⟨hkey, hrest⟩ := List.forall_mem_cons.mp h
      unfold addPairs
      split
      · exact ih hrest
      · rename_i hscalar
        exact .error (.inr (hkey.resolve_left hscalar))

/-- The elements of a sequence are found unless it is none. -/
theorem failsOnly_elements {value : Json} {P : Fault → Prop}
    (h : value = .null ∨ value.key.isNumber = true → P (.misuse .unsuitedKind)) :
    FailsOnly P (elements value) := by
  cases value with
  | arr items => exact .ok items
  | str t => exact .ok _
  | obj members => exact .ok _
  | null => exact .error (h (.inl rfl))
  | bool b => exact .error (h (.inr rfl))
  | int i => exact .error (h (.inr rfl))
  | float d =>
      refine .error (h (.inr ?_))
      cases d with
      | infinite negative => cases negative <;> rfl
      | _ => rfl

section
variable {doc basic lineOffset columnOffset : Json} (hdoc : doc ∈ maps)
  (hpart : IsPart doc basic lineOffset columnOffset) (hobject : isObject basic = true)
include hdoc hpart

/-- The sources of a part are keys, unless one is used unchecked. -/
theorem hasKeys_zip {sources values : List Json} (hsources : sourceNames basic = .ok sources) :
    HasKeys maps (sources.zip values) := fun _ hentry =>
  isScalar_of_sourceNames hdoc hpart hsources (List.of_mem_zip hentry).1

include hobject

/-- The contents of a part are paired with its sources unless something is
    used unchecked. -/
theorem failsOnly_contentPairs : FailsOnly (Accounted maps) (contentPairs basic) := by
  refine (failsOnly_sourceNames hdoc hpart hobject).bind fun _ _ => ?_
  refine FailsOnly.bind (failsOnly_elements fun hvalue => ?_) fun _ _ => .ok _
  split at hvalue
  · rename_i htruthy
    rcases hvalue with hnull | hnumber
    · rw [hnull] at htruthy
      exact nomatch htruthy
    · exact .inr (.contents hdoc hpart htruthy hnumber)
  · rcases hvalue with hnull | hnumber
    · exact nomatch hnull
    · exact nomatch hnumber

/-- The metadata of a part are paired with its sources unless something is
    used unchecked. -/
theorem failsOnly_metadataPairs : FailsOnly (Accounted maps) (metadataPairs basic) := by
  unfold metadataPairs
  split
  · exact (failsOnly_sourceNames hdoc hpart hobject).bind fun _ _ => .ok _
  · exact .ok []

omit hobject

/-- The pairs of contents have sources for keys. -/
theorem hasKeys_contentPairs {pairs : List (Json × Json)} (h : contentPairs basic = .ok pairs) :
    HasKeys maps pairs := by
  obtain ⟨sources, hsources, h⟩ := bind_eq_ok.mp h
  obtain ⟨contents, -, h⟩ := bind_eq_ok.mp h
  obtain rfl := pure_eq_ok.mp h
  exact fun entry hentry => hasKeys_zip hdoc hpart hsources entry (List.mem_of_mem_filter hentry)

/-- The pairs of metadata have sources for keys. -/
theorem hasKeys_metadataPairs {pairs : List (Json × Json)} (h : metadataPairs basic = .ok pairs) :
    HasKeys maps pairs := by
  unfold metadataPairs at h
  split at h
  · obtain ⟨sources, hsources, h⟩ := bind_eq_ok.mp h
    obtain rfl := pure_eq_ok.mp h
    exact hasKeys_zip hdoc hpart hsources
  · obtain rfl := Except.ok.inj h
    exact fun _ hentry => nomatch hentry

end

/-- The basic documents of a document that was read are parts of it. -/
theorem exists_basicDocuments {doc : Json} {ms : List Mapping} (h : parse doc = .ok ms) :
    ∃ docs, basicDocuments doc = .ok docs ∧ ∀ basic ∈ docs, isObject basic = true
      ∧ ∃ lineOffset columnOffset, IsPart doc basic lineOffset columnOffset := by
  have hobject : isObject doc = true := by
    obtain ⟨_, hversion, -⟩ := bind_eq_ok.mp h
    exact isObject_of_requireVersion hversion
  cases doc with
  | obj members =>
      rcases parse_eq_ok h with ⟨hnone, -⟩ | ⟨sections, parts, hsome, -, -⟩
      · refine ⟨[.obj members], ?_, fun basic hbasic => ?_⟩
        · unfold basicDocuments
          rw [hnone]
        · obtain rfl := List.mem_singleton.mp hbasic
          exact ⟨rfl, _, _, .whole hnone⟩
      · refine ⟨_, by unfold basicDocuments; rw [hsome]; rfl, fun basic hbasic => ?_⟩
        obtain ⟨part, hpart, hbasic⟩ := List.mem_filterMap.mp hbasic
        dsimp only at hbasic
        split at hbasic
        · rename_i hinner
          obtain rfl := Option.some.inj hbasic
          exact ⟨hinner, _, _, .section hsome hpart⟩
        · exact nomatch hbasic
  | _ => exact nomatch hobject

/-- Pairs of basic documents are collected if they can be found and have
    keys. -/
theorem failsOnly_collect {pairs : Json → Except Fault (List (Json × Json))}
    {table : Json.Table Json} {docs : List Json}
    (hpairs : ∀ doc ∈ docs, FailsOnly (Accounted maps) (pairs doc))
    (hkeys : ∀ doc ∈ docs, ∀ found, pairs doc = .ok found → HasKeys maps found) :
    FailsOnly (Accounted maps) (collect pairs table docs) := by
  induction docs generalizing table with
  | nil => exact .ok table
  | cons doc rest ih =>
      obtain ⟨hone, hmore⟩ := List.forall_mem_cons.mp hpairs
      obtain ⟨hkey, hrest⟩ := List.forall_mem_cons.mp hkeys
      exact hone.bind fun found hfound =>
        (failsOnly_addPairs (hkey found hfound)).bind fun _ _ => ih hmore hrest

/-- The contents of a document that was read are found unless something is
    used unchecked. -/
theorem failsOnly_sourcesContent {doc : Json} {ms : List Mapping} (hdoc : doc ∈ maps)
    (h : parse doc = .ok ms) : FailsOnly (Accounted maps) (sourcesContent doc) := by
  obtain ⟨docs, hdocs, hparts⟩ := exists_basicDocuments h
  unfold sourcesContent
  rw [bind_of_eq_ok hdocs]
  refine failsOnly_collect (fun basic hbasic => ?_) (fun basic hbasic found hfound => ?_)
  · obtain ⟨hobject, _, _, hpart⟩ := hparts basic hbasic
    exact failsOnly_contentPairs hdoc hpart hobject
  · obtain ⟨-, _, _, hpart⟩ := hparts basic hbasic
    exact hasKeys_contentPairs hdoc hpart hfound

/-- The metadata of a document that was read are found unless something is
    used unchecked. -/
theorem failsOnly_facebookSources {doc : Json} {ms : List Mapping} (hdoc : doc ∈ maps)
    (h : parse doc = .ok ms) : FailsOnly (Accounted maps) (facebookSources doc) := by
  obtain ⟨docs, hdocs, hparts⟩ := exists_basicDocuments h
  unfold facebookSources
  rw [bind_of_eq_ok hdocs]
  refine failsOnly_collect (fun basic hbasic => ?_) (fun basic hbasic found hfound => ?_)
  · obtain ⟨hobject, _, _, hpart⟩ := hparts basic hbasic
    exact failsOnly_metadataPairs hdoc hpart hobject
  · obtain ⟨-, _, _, hpart⟩ := hparts basic hbasic
    exact hasKeys_metadataPairs hdoc hpart hfound

/-- The contents of documents that were read are found unless something is
    used unchecked. -/
theorem failsOnly_chainContents {table : Json.Table Json} {docs : List Json}
    (h : ∀ doc ∈ docs, doc ∈ maps ∧ ∃ ms, parse doc = .ok ms) :
    FailsOnly (Accounted maps) (chainContents table docs) := by
  induction docs generalizing table with
  | nil => exact .ok table
  | cons doc rest ih =>
      obtain ⟨⟨hdoc, ms, hparse⟩, hrest⟩ := List.forall_mem_cons.mp h
      exact (failsOnly_sourcesContent hdoc hparse).bind fun _ _ => ih hrest

/-! ## Writing -/

/-- Mappings whose positions are numbers are put in order. -/
theorem exists_sort_mappings {origin : Mapping.Origin} {ms : List Mapping}
    (hms : ∀ m ∈ ms, m.IsRead maps) :
    ∃ ordered, Mapping.sort origin ms = .ok ordered ∧ ordered.Perm ms := by
  unfold Mapping.sort
  split
  · exact ⟨_, rfl, List.mergeSort_perm ms _⟩
  · have hdecides : Ordering.Decides (Mapping.comesBefore origin) (Mapping.IsRead maps) := by
      intro a b ha hb
      unfold Mapping.comesBefore
      split
      · split
        · rfl
        · exact comesBefore_isSome ha.column hb.column
      · exact comesBefore_isSome ha.line hb.line
    obtain ⟨ordered, hsort, hperm⟩ := Ordering.exists_sort hdecides hms
    rw [hsort]
    exact ⟨ordered, rfl, hperm⟩

/-- A mapping that was admitted: its column is that of one of the last
    document's, and its place in a source consists of integers. -/
structure Placed.IsFrom (own : List Mapping) (p : Placed) : Prop where
  column : ∃ m ∈ own, p.column = m.column
  reach : ∀ r, p.reach = some r → (∃ i, r.line = .int i) ∧ ∃ i, r.column = .int i

section
variable {last : Json} {own : List Mapping} (hlast : maps.getLast? = some last)
  (hown : parse last = .ok own)
include hlast hown

/-- A mapping is admitted unless it is used unchecked. -/
theorem failsOnly_placedOf {count : Nat} {m : Mapping} (hread : m.IsRead maps)
    (hat : m.IsAtOneOf own) : FailsOnly (Accounted maps) (placedOf count m) := by
  obtain ⟨m₀, hmem, hline, -⟩ := hat
  unfold placedOf
  split
  · rename_i hnever
    exact .error (.inr (.endless hlast hown hmem (hline ▸ hnever)))
  · rename_i hreached
    split
    · rename_i hnone
      have hfraction := And.intro hnone (Bool.eq_false_iff.mpr hreached)
      exact .error (.inr (.fraction hlast hown hmem (.inl (hline ▸ hfraction))))
    · rename_i line hint
      split
      · rename_i hkeys
        refine .error (.inr ?_)
        rw [Bool.and_eq_true, Bool.not_eq_true', Bool.and_eq_false_iff] at hkeys
        rcases hkeys.2 with hsource | hname
        · exact hread.source.resolve_left (by rw [hsource]; decide)
        · exact hread.name.resolve_left (by rw [hname]; decide)
      · split
        · rename_i hbelow
          exact .error (.inr (.line hlast hown hmem (hline ▸ hint) (by omega)))
        · exact .ok _

omit hlast hown in
/-- A mapping that is admitted keeps its column, and the place in a source
    that it has. -/
theorem of_placedOf {count : Nat} {m : Mapping} {p : Placed} (h : placedOf count m = .ok p) :
    p.column = m.column ∧ ∀ r, p.reach = some r →
      m.isLocated = true ∧ r = ⟨m.source, m.sourceLine, m.sourceColumn, m.name⟩ := by
  unfold placedOf at h
  split at h
  · exact nomatch h
  split at h
  · exact nomatch h
  split at h
  · exact nomatch h
  split at h
  · exact nomatch h
  · obtain rfl := Except.ok.inj h
    refine ⟨rfl, fun r hr => ?_⟩
    dsimp only at hr
    split at hr
    · rename_i hlocated
      exact ⟨hlocated, (Option.some.inj hr).symm⟩
    · exact nomatch hr

omit hlast hown in
/-- What is admitted comes from the last document. -/
theorem isFrom_of_placedOf {count : Nat} {m : Mapping} {p : Placed} (hread : m.IsRead maps)
    (hat : m.IsAtOneOf own) (h : placedOf count m = .ok p) : p.IsFrom own := by
  obtain ⟨m₀, hmem, -, hcolumn⟩ := hat
  obtain ⟨hkept, hreach⟩ := of_placedOf h
  refine ⟨⟨m₀, hmem, hkept.trans hcolumn⟩, fun r hr => ?_⟩
  obtain ⟨hlocated, rfl⟩ := hreach r hr
  exact hread.exists_place hlocated

/-- Mappings are admitted one after another unless one is used
    unchecked. -/
theorem failsOnly_placeAll (count : Nat) {ms : List Mapping}
    (hms : ∀ m ∈ ms, m.IsRead maps ∧ m.IsAtOneOf own) :
    FailsOnly (Accounted maps) (placeAll count ms)
      ∧ ∀ placed, placeAll count ms = .ok placed → ∀ p ∈ placed, p.IsFrom own := by
  induction ms generalizing count with
  | nil => exact ⟨.ok [], fun placed h => Except.ok.inj h ▸ fun _ hp => nomatch hp⟩
  | cons m rest ih =>
      obtain ⟨⟨hread, hat⟩, hrest⟩ := List.forall_mem_cons.mp hms
      refine ⟨(failsOnly_placedOf hlast hown hread hat).bind fun p _ =>
        (ih _ hrest).1.bind fun _ _ => .ok _, fun placed h => ?_⟩
      obtain ⟨p, hp, h⟩ := bind_eq_ok.mp h
      obtain ⟨more, hmore, h⟩ := bind_eq_ok.mp h
      obtain rfl := pure_eq_ok.mp h
      exact List.forall_mem_cons.mpr ⟨isFrom_of_placedOf hread hat hp, (ih _ hrest).2 more hmore⟩

omit hlast hown in
/-- A row of fields whose column is that of one of the last document's
    mappings, all others being integers. -/
def IsRowFrom (own : List Mapping) (row : List Json) : Prop :=
  ∃ column rest, row = column :: rest ∧ (∃ m ∈ own, column = m.column)
    ∧ ∀ x ∈ rest, ∃ i, x = .int i

/-- A column that one of the last document's mappings has, or the first. -/
def IsColumnOf (own : List Mapping) (n : Int) : Prop :=
  n = 0 ∨ ∃ m ∈ own, m.column.toInt? = some n

omit hlast hown in
/-- The row of a mapping that was admitted has its column and integers. -/
theorem isRowFrom_fieldRow {sources names : List Json} {p : Placed} (h : p.IsFrom own) :
    IsRowFrom own (fieldRow sources names p) := by
  unfold fieldRow
  split
  · exact ⟨p.column, [], rfl, h.column, fun _ hx => nomatch hx⟩
  · rename_i r hr
    obtain ⟨⟨l, hl⟩, c, hc⟩ := h.reach r hr
    refine ⟨p.column, [.int (indexIn sources r.source), r.line, r.column]
      ++ if r.name.isNull then [] else [.int (indexIn names r.name)], rfl, h.column, fun x hx => ?_⟩
    rw [hl, hc] at hx
    rcases List.mem_append.mp hx with hplace | hname
    · simp only [List.mem_cons, List.not_mem_nil, or_false] at hplace
      rcases hplace with rfl | rfl | rfl
      · exact ⟨_, rfl⟩
      · exact ⟨_, rfl⟩
      · exact ⟨_, rfl⟩
    · split at hname
      · exact nomatch hname
      · exact ⟨_, List.mem_singleton.mp hname⟩

/-- A column is written as a difference unless it is used unchecked. -/
theorem failsOnly_written {previous : Int} {column : Json} (hprevious : IsColumnOf own previous)
    (hcolumn : ∃ m ∈ own, column = m.column) :
    FailsOnly (Accounted maps) (written previous column) := by
  obtain ⟨m, hmem, rfl⟩ := hcolumn
  have hfraction : m.column.toInt? = none → Unchecked maps (.misuse .unsuitedKind) :=
    fun hnone => .fraction hlast hown hmem (.inr hnone)
  unfold written
  split
  · rename_i d hfloat
    have hnone : m.column.toInt? = none := by rw [hfloat]; rfl
    split
    · rename_i negative hlarge
      rcases hprevious with rfl | ⟨before, hbefore, hint⟩
      · have hzero : Double.ofInt 0 = .finite false 0 0 := by decide
        exact nomatch hzero.symm.trans hlarge
      · exact .error (.inr (.fractionTooLarge hlast hown hmem hnone hbefore hint hlarge))
    · exact .error (.inr (hfraction hnone))
  · split
    · exact .ok _
    · rename_i hnone
      exact .error (.inr (hfraction hnone))

omit hlast hown in
/-- A column that could be written is an integer. -/
theorem toInt?_of_written {previous n : Int} {column : Json} (h : written previous column = .ok n) :
    column.toInt? = some n := by
  unfold written at h
  split at h
  · split at h
    · exact nomatch h
    · exact nomatch h
  · split at h
    · rename_i hint
      exact hint.trans (congrArg some (Except.ok.inj h))
    · exact nomatch h

/-- A row is written unless its column is used unchecked. -/
theorem failsOnly_segmentOfRow {previous : Int} {r : Reference} {row : List Json}
    (hprevious : IsColumnOf own previous) (hrow : IsRowFrom own row) :
    FailsOnly (Accounted maps) (segmentOfRow previous r row)
      ∧ ∀ s, segmentOfRow previous r row = .ok s → IsColumnOf own s.column := by
  obtain ⟨column, rest, rfl, hcolumn, hrest⟩ := hrow
  have hwritten := failsOnly_written hlast hown hprevious hcolumn
  have hnext : ∀ n, written previous column = .ok n → IsColumnOf own n := by
    obtain ⟨m, hmem, rfl⟩ := hcolumn
    exact fun n hn => .inr ⟨m, hmem, toInt?_of_written hn⟩
  have hother : ∀ x ∈ rest, ∀ n, FailsOnly (Accounted maps) (written n x) := by
    intro x hx n
    obtain ⟨i, rfl⟩ := hrest x hx
    exact .ok i
  have hbare : FailsOnly (Accounted maps) (written previous column >>= fun column =>
        (pure ⟨column, none⟩ : Except Fault Segment))
      ∧ ∀ s, (written previous column >>= fun column =>
        (pure ⟨column, none⟩ : Except Fault Segment)) = .ok s → IsColumnOf own s.column := by
    refine ⟨hwritten.bind fun _ _ => .ok _, fun s h => ?_⟩
    obtain ⟨n, hn, h⟩ := bind_eq_ok.mp h
    obtain rfl := pure_eq_ok.mp h
    exact hnext n hn
  match rest, hother with
  | [], _ => exact hbare
  | [_], _ => exact hbare
  | [_, _], _ => exact hbare
  | source :: line :: sourceColumn :: more, hother =>
      simp only [List.forall_mem_cons] at hother
      obtain ⟨hsource, hline, hsourceColumn, hmore⟩ := hother
      unfold segmentOfRow
      constructor
      · refine hwritten.bind fun _ _ => (hsource _).bind fun _ _ => (hline _).bind fun _ _ =>
          (hsourceColumn _).bind fun _ _ => ?_
        split
        · exact (hmore _ (List.mem_singleton_self _) _).bind fun _ _ => .ok _
        · exact .ok _
      · intro s h
        obtain ⟨n, hn, h⟩ := bind_eq_ok.mp h
        obtain ⟨_, -, h⟩ := bind_eq_ok.mp h
        obtain ⟨_, -, h⟩ := bind_eq_ok.mp h
        obtain ⟨_, -, h⟩ := bind_eq_ok.mp h
        split at h
        · obtain ⟨_, -, h⟩ := bind_eq_ok.mp h
          obtain rfl := pure_eq_ok.mp h
          exact hnext n hn
        · obtain rfl := pure_eq_ok.mp h
          exact hnext n hn

/-- The rows of a line are written unless a column is used unchecked. -/
theorem failsOnly_segmentsOfRows {previous : Int} {r : Reference} {rows : List (List Json)}
    (hprevious : IsColumnOf own previous) (hrows : ∀ row ∈ rows, IsRowFrom own row) :
    FailsOnly (Accounted maps) (segmentsOfRows previous r (rows.map Json.arr)) := by
  induction rows generalizing previous r with
  | nil => exact .ok _
  | cons row rest ih =>
      obtain ⟨hrow, hrest⟩ := List.forall_mem_cons.mp hrows
      obtain ⟨hfails, hnext⟩ := failsOnly_segmentOfRow hlast hown (r := r) hprevious hrow
      exact hfails.bind fun s hs => (ih (hnext s hs) hrest).bind fun _ _ => .ok _

/-- Lines of rows are written unless a column is used unchecked. -/
theorem failsOnly_segmentsOfLines {r : Reference} {lines : List (List (List Json))}
    (hlines : ∀ rows ∈ lines, ∀ row ∈ rows, IsRowFrom own row) :
    FailsOnly (Accounted maps)
      (segmentsOfLines r (lines.map fun rows => Json.arr (rows.map Json.arr))) := by
  induction lines generalizing r with
  | nil => exact .ok []
  | cons rows rest ih =>
      obtain ⟨hrows, hrest⟩ := List.forall_mem_cons.mp hlines
      exact (failsOnly_segmentsOfRows hlast hown (.inl rfl) hrows).bind fun _ _ =>
        (ih hrest).bind fun _ _ => .ok _

/-- Mappings at positions of the last document's are assembled unless one
    is used unchecked. -/
theorem failsOnly_assemble {origin : Mapping.Origin} {ms : List Mapping} {file : Json}
    {contents : Json.Table Json} (hms : ∀ m ∈ ms, m.IsRead maps ∧ m.IsAtOneOf own) :
    FailsOnly (Accounted maps) (assemble origin ms file contents) := by
  obtain ⟨ordered, hsort, hperm⟩ := exists_sort_mappings fun m hm => (hms m hm).1
  unfold assemble
  rw [bind_of_eq_ok hsort]
  obtain ⟨hplaced, hfrom⟩ := failsOnly_placeAll hlast hown 0
    fun m hm => hms m (hperm.mem_iff.mp hm)
  refine hplaced.bind fun placed heq => ?_
  refine (failsOnly_segmentsOfLines hlast hown fun rows hrows row hrow => ?_).bind fun _ _ => .ok _
  rw [rowLines_eq_groups] at hrows
  obtain ⟨i, -, rfl⟩ := List.mem_map.mp hrows
  obtain ⟨entry, hentry, rfl⟩ := List.mem_map.mp hrow
  obtain ⟨p, hp, rfl⟩ := List.mem_map.mp (List.mem_of_mem_filter hentry)
  exact isRowFrom_fieldRow (hfrom placed heq p hp)

end

end

/-! ## Chains -/

/-- Documents that mappings were looked up in were read. -/
theorem exists_parse_of_resolveAll {ms resolved : List Mapping} {docs : List Json}
    (h : resolveAll ms docs = .ok resolved) : ∀ doc ∈ docs, ∃ own, parse doc = .ok own := by
  induction docs generalizing ms with
  | nil => exact fun _ hdoc => nomatch hdoc
  | cons doc rest ih =>
      obtain ⟨parsed, hparsed, h⟩ := bind_eq_ok.mp h
      obtain ⟨_, -, h⟩ := bind_eq_ok.mp h
      obtain ⟨_, -, h⟩ := bind_eq_ok.mp h
      exact List.forall_mem_cons.mpr ⟨⟨parsed, hparsed⟩, ih h⟩

/-- A chain of documents fails only with faults that are accounted for. -/
theorem failsOnly_compose (maps : List Json) : FailsOnly (Accounted maps) (compose maps) := by
  unfold compose
  split
  · rename_i last first hlast hfirst
    have hmem := List.mem_of_getLast? hlast
    refine (failsOnly_requireVersion hmem .whole).bind fun _ _ => ?_
    refine (failsOnly_parse hmem).bind fun own hown => ?_
    have hread := isRead_of_parse hmem hown
    have hearlier : ∀ doc ∈ maps.dropLast.reverse, doc ∈ maps :=
      fun doc hdoc => (List.dropLast_sublist maps).subset (List.mem_reverse.mp hdoc)
    have hstart : ∀ m ∈ own, m.IsRead maps ∧ m.IsAtOneOf own :=
      fun m hm => ⟨hread m hm, m, hm, rfl, rfl⟩
    obtain ⟨hresolve, hkeeps⟩ := failsOnly_resolveAll hearlier hstart
    refine hresolve.bind fun resolved hresolved => ?_
    have hparsed : ∀ doc ∈ maps, doc ∈ maps ∧ ∃ ms, parse doc = .ok ms := by
      intro doc hdoc
      refine ⟨hdoc, ?_⟩
      rcases List.mem_append.mp (List.dropLast_append_getLast? last hlast ▸ hdoc) with hin | hin
      · exact exists_parse_of_resolveAll hresolved doc (List.mem_reverse.mpr hin)
      · exact ⟨own, List.mem_singleton.mp hin ▸ hown⟩
    refine (failsOnly_chainContents hparsed).bind fun _ _ => ?_
    refine (failsOnly_assemble hlast hown (hkeeps resolved hresolved)).bind fun _ _ => ?_
    obtain ⟨hin, ms, hms⟩ := hparsed first (List.mem_of_head? hfirst)
    exact (failsOnly_facebookSources hin hms).bind fun _ _ => .ok _
  · exact .error (.inl rfl)

/-- A chain of documents is composed to an object, or what is wrong with
    it is reported, or something in it is used unchecked. -/
theorem compose_or_report_or_unchecked (maps : List Json) :
    (∃ members, compose maps = .ok (.obj members))
      ∨ ∃ f, compose maps = .error f ∧ (f.IsReported ∨ Unchecked maps f) := by
  cases h : compose maps with
  | error f => exact .inr ⟨f, rfl, failsOnly_compose maps f h⟩
  | ok composed =>
      refine .inl ?_
      unfold compose at h
      split at h
      · obtain ⟨_, -, h⟩ := bind_eq_ok.mp h
        obtain ⟨_, -, h⟩ := bind_eq_ok.mp h
        obtain ⟨_, -, h⟩ := bind_eq_ok.mp h
        obtain ⟨_, -, h⟩ := bind_eq_ok.mp h
        obtain ⟨_, -, h⟩ := bind_eq_ok.mp h
        obtain ⟨_, -, h⟩ := bind_eq_ok.mp h
        exact ⟨_, congrArg Except.ok (pure_eq_ok.mp h).symm⟩
      · exact nomatch h

/-- A document of one section that is shifted by an offset. -/
def shiftedDocument (offset : Json) : Json :=
  .obj [(Text.ofString "version", .int 3),
    (Text.ofString "sections",
      .arr [.obj [(Text.ofString "offset", offset),
        (Text.ofString "map", basicDocument [.string "app.js"] [] "AAAA")]])]

/-- A basic document with one more member. -/
def documentWith (sources : List Json) (name : String) (value : Json) : Json :=
  .obj [(Text.ofString "version", .int 3), (Text.ofString "sources", .arr sources),
    (Text.ofString "mappings", .str (Text.ofString "AAAA")), (Text.ofString name, value)]

/-- A document of one mapping that is not admitted is not composed. -/
theorem compose_of_not_admitted {doc : Json} {m : Mapping} {contents : Json.Table Json} {f : Fault}
    (hversion : requireVersion doc = .ok ()) (hparse : parse doc = .ok [m])
    (hcontents : chainContents [] [doc] = .ok contents) (hadmitted : placedOf 0 m = .error f) :
    compose [doc] = .error f := by
  have hsort : Mapping.sort .computed [m] = .ok [m] := by
    obtain ⟨ordered, hordered, hperm⟩ :=
      exists_sort_mappings (isRead_of_parse (List.mem_singleton_self doc) hparse)
    rw [hordered, List.perm_singleton.mp hperm]
  have hplace : placeAll 0 [m] = .error f := by
    unfold placeAll
    rw [hadmitted]
    rfl
  have hassemble : assemble .computed [m] (member doc "file") contents = .error f := by
    unfold assemble
    rw [bind_of_eq_ok hsort, hplace]
    rfl
  have hresolve : resolveAll [m] [] = .ok [m] := rfl
  show (requireVersion doc >>= fun _ => parse doc >>= fun own => resolveAll own [] >>= _) = _
  rw [bind_of_eq_ok hversion, bind_of_eq_ok hparse, bind_of_eq_ok hresolve,
    bind_of_eq_ok hcontents]
  show (assemble .computed [m] (member doc "file") contents >>= _) = _
  rw [hassemble]
  rfl

/-- A document with a version, of one that no report can show, is not
    composed. -/
theorem compose_of_long_version {n : Int} (h : 10 ^ Json.digitLimit ≤ n.natAbs) :
    compose [.obj [(Text.ofString "version", .int n)]] = .error .tooManyDigits := by
  have hother : n ≠ 3 := by
    rintro rfl
    have hten : 10 ^ 1 ≤ 10 ^ Json.digitLimit := Nat.pow_le_pow_right (by decide) (by decide)
    exact absurd (hten.trans h) (by decide)
  have hexcess : (Json.int n).excess? Json.depthLimit = some .tooManyDigits := by
    unfold Json.excess?
    rw [if_neg fun hfits => absurd (Json.fitsDigits_iff.mp hfits) (not_lt.mpr h)]
  have hversion : requireVersion (.obj [(Text.ofString "version", .int n)])
      = .error .tooManyDigits := by
    show (if (n == 3) = true then Except.ok () else .error (otherVersion (.int n))) = _
    rw [if_neg (fun hsame => hother (beq_iff_eq.mp hsame)), otherVersion, hexcess]
    rfl
  show (requireVersion (.obj [(Text.ofString "version", .int n)]) >>= _) = _
  rw [hversion]
  rfl

/-- An offset, a root, embedded contents, a source and a name of the wrong
    kind, a line below zero, one that is never reached and a version that
    cannot be shown end in failures that no report is made of. -/
theorem compose_fails_unreported :
    (∀ m, ¬(Fault.misuse m).IsReported) ∧ (∀ e, ¬(Fault.ofWriteError e).IsReported)
      ∧ ¬Fault.endless.IsReported
      ∧ compose [.obj [(Text.ofString "version", .int (10 ^ Json.digitLimit))]]
        = .error .tooManyDigits
      ∧ compose [shiftedDocument (.obj [(Text.ofString "line", .float (.infinite false))])]
        = .error .endless
      ∧ compose [shiftedDocument (.arr [.int 1])] = .error (.misuse .noMembers)
      ∧ compose [shiftedDocument (.obj [(Text.ofString "line", .null)])]
        = .error (.misuse .unsuitedKind)
      ∧ compose [shiftedDocument (.obj [(Text.ofString "line", .int (-1))])]
        = .error (.misuse .noElement)
      ∧ compose [documentWith [.string "app.js"] "sourceRoot" (.int 5)]
        = .error (.misuse .noMembers)
      ∧ compose [documentWith [.string "app.js"] "sourcesContent" (.int 5)]
        = .error (.misuse .unsuitedKind)
      ∧ compose [documentWith [.arr []] "sourcesContent" (.arr [.string "code"])]
        = .error (.misuse .unsuitedKind)
      ∧ compose [basicDocument [.string "app.js"] [.arr []] "AAAAA"]
        = .error (.misuse .unsuitedKind) := by
  have hbelow : compose [shiftedDocument (.obj [(Text.ofString "line", .int (-1))])]
      = .error (.misuse .noElement) :=
    compose_of_not_admitted (m := ⟨.int (-1), .int 0, .string "app.js", .int 0, .int 0, .null⟩)
      rfl rfl rfl rfl
  have hname : compose [basicDocument [.string "app.js"] [.arr []] "AAAAA"]
      = .error (.misuse .unsuitedKind) :=
    compose_of_not_admitted (m := ⟨.int 0, .int 0, .string "app.js", .int 0, .int 0, .arr []⟩)
      rfl rfl rfl rfl
  have hendless :
      compose [shiftedDocument (.obj [(Text.ofString "line", .float (.infinite false))])]
        = .error .endless :=
    compose_of_not_admitted
      (m := ⟨.float (.infinite false), .int 0, .string "app.js", .int 0, .int 0, .null⟩)
      rfl rfl rfl rfl
  have hlong : compose [.obj [(Text.ofString "version", .int (10 ^ Json.digitLimit))]]
      = .error .tooManyDigits :=
    compose_of_long_version (by rw [Int.natAbs_pow, show (10 : Int).natAbs = 10 from rfl])
  have hexcess : ∀ e, ¬(Fault.ofWriteError e).IsReported := fun e h => by
    cases e with
    | tooManyDigits => exact nomatch h
    | tooDeep => exact nomatch h
  exact ⟨fun _ h => (nomatch h : False), hexcess, fun h => (nomatch h : False), hlong, hendless,
    rfl, rfl, hbelow, rfl, rfl, rfl, hname⟩

end HermesBundle.SourceMap
