import HermesBundle.Proofs.SourceMap.Chain
import HermesBundle.Proofs.SourceMap.Composed

/-! # Grouping — composing a part of a chain first

    A document composed of a part of a chain may stand in the chain for
    that part.  Whether this changes anything depends on which part it is:

    * **the last documents** (`compose_grouped_suffix`) may always be
      composed first: nothing that the composed document lists or carries
      over changes;
    * **the first documents** (`compose_grouped_prefix_iff`) may be composed
      first exactly if no mapping that the last of them has no answer for
      is changed by those before it.

    Both come down to single mappings.  Resolving through two parts of a
    chain is resolving through one and then the other
    (`resolved_append`), and resolving what a document has found is finding
    in the composed document (`resolvedIn_listed_of_hit`).  The difference
    lies in a place without an answer: a chain goes on with the documents
    before, a composed document has nothing to go on with
    (`resolvedIn_listed_of_no_hit`). -/

namespace HermesBundle.SourceMap

open Outcome PlainMapping

namespace PlainMapping

variable {m found : PlainMapping} {chain : List (List PlainMapping)}

/-! ## Resolving in two parts -/

/-- A mapping resolved through two parts of a chain is resolved through the
    second and then through the first. -/
theorem resolved_append (first second : List (List PlainMapping)) (m : PlainMapping) :
    resolved (first ++ second) m = resolved first (resolved second m) := by
  cases hm : m.source with
  | none =>
      have hbare : ∀ chain, resolved chain m = bare m.line m.column := by
        intro chain
        unfold resolved
        rw [hm]
      rw [hbare, hbare]
      rfl
  | some source =>
      have hfold : ∀ chain, resolved chain m = chain.foldr resolvedIn m := by
        intro chain
        unfold resolved
        rw [hm]
      have hsource := foldr_resolvedIn_source second m
      rw [hm] at hsource
      obtain ⟨_, hsecond⟩ := Option.isSome_iff_exists.mp hsource
      rw [hfold, hfold, List.foldr_append]
      unfold resolved
      rw [hsecond]

/-- A mapping that has a place in a source is followed through the chain. -/
theorem resolved_of_located (h : m.isLocated = true) :
    resolved chain m = chain.foldr resolvedIn m := by
  obtain ⟨_, hsource⟩ := Option.isSome_iff_exists.mp (source_isSome_of_isLocated h)
  unfold resolved
  rw [hsource]

/-- A resolved mapping that has a source has a place in it. -/
theorem resolved_isComplete (hchain : ∀ ms ∈ chain, ∀ x ∈ ms, x.IsComplete) (hm : m.IsComplete) :
    (resolved chain m).IsComplete := by
  intro hsource
  by_contra hbare
  have hsettled := settled_resolved hchain hm
  rw [settled_of_not_located (Bool.eq_false_iff.mpr hbare)] at hsettled
  rw [← hsettled] at hsource
  exact nomatch hsource

/-- What a redirected mapping comes to in a step is decided by the place
    it was redirected to. -/
theorem resolvedIn_redirected (table : List PlainMapping) (m found : PlainMapping) :
    resolvedIn table (m.redirected found) = m.redirected (resolvedIn table found) := by
  rcases located_or_bare found with ⟨_, _, source, line, column, name, hfields⟩ | hbare
  · have hplace : (m.redirected found).source = some source
        ∧ (m.redirected found).sourceLine = some line
        ∧ (m.redirected found).sourceColumn = some column := by
      rw [hfields]
      exact ⟨rfl, rfl, rfl⟩
    rw [resolvedIn_of_located hplace.1 hplace.2.1 hplace.2.2,
      resolvedIn_of_located (by rw [hfields]) (by rw [hfields]) (by rw [hfields])]
    cases hit line column table with
    | none => rfl
    | some next =>
        simp only [Option.map_some, Option.getD_some, redirected, Option.or_assoc]
  · rw [resolvedIn_of_not_located hbare]
    exact resolvedIn_of_not_located hbare

/-- A mapping redirected to a place goes where the place leads. -/
theorem foldr_resolvedIn_redirected (chain : List (List PlainMapping)) (m found : PlainMapping) :
    chain.foldr resolvedIn (m.redirected found) = m.redirected (chain.foldr resolvedIn found) := by
  induction chain with
  | nil => rfl
  | cons table rest ih => rw [List.foldr_cons, List.foldr_cons, ih, resolvedIn_redirected]

section Listed

variable {table : List PlainMapping} {source : Text} {line column : Int}

/-- Where a list has a hit, resolving through it and the chain before it
    is resolving through the list with the chain applied to it. -/
theorem resolvedIn_listed_of_hit (hsource : m.source = some source)
    (hline : m.sourceLine = some line) (hcolumn : m.sourceColumn = some column)
    (hhit : hit line column table = some found) :
    resolvedIn ((sorted table).map (resolved chain)) m
      = chain.foldr resolvedIn (resolvedIn table m) := by
  obtain ⟨-, hsome⟩ := mem_of_hit hhit
  obtain ⟨_, hfound⟩ := Option.isSome_iff_exists.mp hsome
  have hresolved : resolved chain found = chain.foldr resolvedIn found := by
    unfold resolved
    rw [hfound]
  rw [resolvedIn_of_located hsource hline hcolumn, resolvedIn_of_located hsource hline hcolumn,
    hit_map_resolved, hit_sorted, hhit]
  show m.redirected (resolved chain found) = chain.foldr resolvedIn (m.redirected found)
  rw [foldr_resolvedIn_redirected, hresolved]

/-- Where a list has no hit, it has none with a chain applied to it. -/
theorem resolvedIn_listed_of_no_hit (chain : List (List PlainMapping))
    (hsource : m.source = some source) (hline : m.sourceLine = some line)
    (hcolumn : m.sourceColumn = some column)
    (hhit : hit line column table = none) :
    resolvedIn ((sorted table).map (resolved chain)) m = m ∧ resolvedIn table m = m := by
  rw [resolvedIn_of_located hsource hline hcolumn, resolvedIn_of_located hsource hline hcolumn,
    hit_map_resolved, hit_sorted, hhit]
  exact ⟨rfl, rfl⟩

/-- Where a list has no answer for the place a mapping refers to. -/
def IsMissedBy (table : List PlainMapping) (m : PlainMapping) : Prop :=
  ∀ line column, m.sourceLine = some line → m.sourceColumn = some column →
    hit line column table = none

/-- Resolving through a list with a chain applied to it is resolving
    through the chain and the list exactly if the chain changes nothing
    that the list has no answer for. -/
theorem resolved_listed_iff (hm : m.IsComplete) :
    resolved [(sorted table).map (resolved chain)] m = resolved (chain ++ [table]) m
      ↔ (m.isLocated = true → m.IsMissedBy table → chain.foldr resolvedIn m = m) := by
  rcases located_or_bare m with ⟨_, _, source, line, column, name, hfields⟩ | hbare
  · have hsource : m.source = some source := by rw [hfields]
    have hline : m.sourceLine = some line := by rw [hfields]
    have hcolumn : m.sourceColumn = some column := by rw [hfields]
    have hlocated : m.isLocated = true := by
      rw [hfields]
      rfl
    unfold resolved
    rw [hsource]
    show resolvedIn ((sorted table).map (resolved chain)) m
      = (chain ++ [table]).foldr resolvedIn m ↔ _
    rw [List.foldr_append]
    show _ = chain.foldr resolvedIn (resolvedIn table m) ↔ _
    cases hhit : hit line column table with
    | some found =>
        refine iff_of_true (resolvedIn_listed_of_hit hsource hline hcolumn hhit) fun _ hmissed => ?_
        rw [hmissed line column hline hcolumn] at hhit
        exact nomatch hhit
    | none =>
        obtain ⟨hlisted, htable⟩ := resolvedIn_listed_of_no_hit chain hsource hline
          hcolumn hhit
        rw [hlisted, htable]
        constructor
        · exact fun heq _ _ => heq.symm
        · intro hkept
          refine (hkept hlocated fun l c hl hc => ?_).symm
          obtain rfl : line = l := Option.some.inj (hline.symm.trans hl)
          obtain rfl : column = c := Option.some.inj (hcolumn.symm.trans hc)
          exact hhit
  · have hnone : m.source = none := by
      cases hsource : m.source with
      | none => rfl
      | some source =>
          rw [hm (by rw [hsource]; rfl)] at hbare
          exact nomatch hbare
    refine iff_of_true ?_ fun hlocated => ?_
    · unfold resolved
      rw [hnone]
    · rw [hbare] at hlocated
      exact nomatch hlocated

end Listed

end PlainMapping

/-! ## Composing the last documents first -/

/-- What a chain is made of whose last documents have been composed: of the
    same as the whole chain. -/
theorem exists_isComposed_suffix {xs later : List Json} {last inner nested flat : Json}
    (hplain : ∀ doc ∈ (xs ++ later) ++ [last], isPlainDocument doc = true)
    (hinner : compose (later ++ [last]) = .ok inner)
    (hnested : compose (xs ++ [inner]) = .ok nested)
    (hflat : compose ((xs ++ later) ++ [last]) = .ok flat) :
    ∃ own first second, IsComposed later last inner own second
      ∧ IsComposed xs inner nested ((sorted own).map (resolved second)) first
      ∧ IsComposed (xs ++ later) last flat own (first ++ second) := by
  obtain ⟨own, chain, hflatMade⟩ := exists_isComposed hplain hflat
  obtain ⟨own', second, hinnerMade⟩ := exists_isComposed
    (fun doc hdoc => hplain doc (by simp only [List.mem_append] at hdoc ⊢; tauto)) hinner
  obtain ⟨listed, first, hnestedMade⟩ := exists_isComposed (fun doc hdoc => by
    rcases List.mem_append.mp hdoc with hdoc | hdoc
    · exact hplain doc (List.mem_append_left _ (List.mem_append_left _ hdoc))
    · rw [List.mem_singleton.mp hdoc]
      exact hinnerMade.isPlainDocument) hnested
  obtain rfl := Lists.unique hinnerMade.lists_last hflatMade.lists_last
  obtain rfl := Lists.unique hnestedMade.lists_last hinnerMade.lists
  obtain rfl := lists_unique hflatMade.lists_earlier
    (List.rel_append hnestedMade.lists_earlier hinnerMade.lists_earlier)
  exact ⟨own', first, second, hinnerMade, hnestedMade, hflatMade⟩

/-- **The last documents of a chain may be composed first**: whatever else
    stands before them, the outcome lists the same mappings from the same
    tables and carries over the same file, function offsets and
    metadata. -/
theorem compose_grouped_suffix {xs ys : List Json} {inner nested flat : Json} (hxs : xs ≠ [])
    (hplain : ∀ doc ∈ xs ++ ys, isPlainDocument doc = true) (hinner : compose ys = .ok inner)
    (hnested : compose (xs ++ [inner]) = .ok nested) (hflat : compose (xs ++ ys) = .ok flat) :
    AgreeOn sharedMembers nested flat := by
  rcases List.eq_nil_or_concat ys with rfl | ⟨later, last, rfl⟩
  · exact nomatch hinner
  rw [List.concat_eq_append] at hplain hinner hflat
  rw [← List.append_assoc] at hplain hflat
  obtain ⟨own, first, second, hinnerMade, hnestedMade, hflatMade⟩ :=
    exists_isComposed_suffix hplain hinner hnested hflat
  have hlisted : (sorted ((sorted own).map (resolved second))).map (resolved first)
      = (sorted own).map (resolved (first ++ second)) := by
    rw [sorted_map_resolved, List.map_map]
    exact List.map_congr_left fun m _ => (resolved_append first second m).symm
  have hlisting := (hnestedMade.agreeOn_listing_iff hflatMade).mpr hlisted
  have hfile : nested.get? "file" = flat.get? "file" := by
    have hmember : member inner "file" = (inner.get? "file").getD .null := rfl
    rw [hnestedMade.get?_file, hflatMade.get?_file, hmember, hinnerMade.get?_file]
    cases htruthy : (member last "file").isTruthy with
    | true => simp only [if_true, Option.getD_some, htruthy]
    | false => rfl
  have hoffsets : nested.get? "x_hermes_function_offsets"
      = flat.get? "x_hermes_function_offsets" := by
    rw [hnestedMade.get?_functionOffsets, hinnerMade.get?_functionOffsets,
      hflatMade.get?_functionOffsets]
  have hmetadata : nested.get? "x_facebook_sources" = flat.get? "x_facebook_sources" := by
    obtain ⟨document, metadata, hhead, hread, hvalue⟩ := hnestedMade.get?_metadata
    obtain ⟨document', metadata', hhead', hread', hvalue'⟩ := hflatMade.get?_metadata
    obtain ⟨x, rest, rfl⟩ := List.exists_cons_of_ne_nil hxs
    obtain rfl : document = document' := Option.some.inj (hhead.symm.trans hhead')
    obtain rfl := Except.ok.inj (hread.symm.trans hread')
    rw [hvalue, hvalue', hlisted]
  intro name hname
  rcases List.mem_append.mp hname with hname | hname
  · exact hlisting name hname
  · simp only [List.mem_cons, List.not_mem_nil, or_false] at hname
    rcases hname with rfl | rfl | rfl
    · exact hfile
    · exact hoffsets
    · exact hmetadata

/-- The first document of a chain, with metadata. -/
def annotatedDocument : Json :=
  .obj [(Text.ofString "version", .int 3), (Text.ofString "sources", .arr [.string "app.ts"]),
    (Text.ofString "names", .arr [.string "greet"]),
    (Text.ofString "mappings", .str (Text.ofString "AAAAA")),
    (Text.ofString "x_facebook_sources", .arr [.arr [.int 7]])]

/-- A document between two others. -/
def bundledDocument : Json := basicDocument [.string "app.js"] [] "AAAA"

/-- The last document of a chain, with a file and function offsets. -/
def compiledDocument : Json :=
  .obj [(Text.ofString "version", .int 3), (Text.ofString "file", .string "index.hbc"),
    (Text.ofString "sources", .arr [.string "index.bundle"]), (Text.ofString "names", .arr []),
    (Text.ofString "mappings", .str (Text.ofString "AAAA")),
    (Text.ofString "x_hermes_function_offsets", .arr [.int 0, .int 12])]

/-- The last two of these documents composed. -/
def linkedDocument : Json :=
  .obj [(Text.ofString "version", .int 3), (Text.ofString "file", .string "index.hbc"),
    (Text.ofString "sources", .arr [.string "app.js"]), (Text.ofString "names", .arr []),
    (Text.ofString "mappings", .str (Text.ofString "AAAA")),
    (Text.ofString "x_hermes_function_offsets", .arr [.int 0, .int 12])]

/-- The text of a single segment at the start of the first line. -/
theorem encode_single : Mappings.encode [[⟨0, some ⟨0, 0, 0, none⟩⟩]] = Text.ofString "AAAA" := by
  cbv

theorem lists_bundledDocument :
    Lists bundledDocument [⟨0, 0, some (Text.ofString "app.js"), some 0, some 0, none⟩] := rfl

theorem lists_compiledDocument :
    Lists compiledDocument [⟨0, 0, some (Text.ofString "index.bundle"), some 0, some 0, none⟩] :=
  rfl

theorem compose_bundled_compiled :
    compose ([bundledDocument] ++ [compiledDocument]) = .ok linkedDocument := by
  rw [linkedDocument, ← encode_single]
  exact compose_eq_of_ordered lists_compiledDocument (.cons lists_bundledDocument .nil) rfl rfl rfl
    (by decide) (by decide)

theorem compose_grouped_suffix_annotated :
    [annotatedDocument] ≠ []
      ∧ (∀ doc ∈ [annotatedDocument] ++ ([bundledDocument] ++ [compiledDocument]),
        isPlainDocument doc = true)
      ∧ compose ([bundledDocument] ++ [compiledDocument]) = .ok linkedDocument
      ∧ ∃ nested flat, compose ([annotatedDocument] ++ [linkedDocument]) = .ok nested
        ∧ compose ([annotatedDocument] ++ ([bundledDocument] ++ [compiledDocument])) = .ok flat
        ∧ AgreeOn sharedMembers nested flat := by
  have hannotated : Lists annotatedDocument
      [⟨0, 0, some (Text.ofString "app.ts"), some 0, some 0, some (Text.ofString "greet")⟩] := rfl
  have hlinked : Lists linkedDocument
      [⟨0, 0, some (Text.ofString "app.js"), some 0, some 0, none⟩] := rfl
  have hplain : ∀ doc ∈ [annotatedDocument] ++ ([bundledDocument] ++ [compiledDocument]),
      isPlainDocument doc = true := by
    simp only [List.cons_append, List.nil_append, List.forall_mem_cons]
    exact ⟨rfl, rfl, rfl, fun _ hdoc => nomatch hdoc⟩
  obtain ⟨nested, hnested⟩ :=
    compose_of_lists hlinked (.cons hannotated .nil) rfl rfl rfl (by decide)
  have hearlier : List.Forall₂ Lists [annotatedDocument, bundledDocument] _ :=
    .cons hannotated (.cons lists_bundledDocument .nil)
  obtain ⟨flat, hflat⟩ := compose_of_lists lists_compiledDocument hearlier rfl rfl rfl (by decide)
  exact ⟨List.cons_ne_nil _ _, hplain, compose_bundled_compiled, nested, flat, hnested, hflat,
    compose_grouped_suffix (List.cons_ne_nil _ _) hplain compose_bundled_compiled hnested hflat⟩

/-! ## Composing the first documents first -/

/-- Whether the documents before one change no mapping that it has no
    answer for: none that a mapping of the last document becomes on the way
    there. -/
def KeepsGaps (earlier : List Json) (middle : Json) (later : List Json) (last : Json) : Prop :=
  ∀ ms, parse last = .ok ms → ∀ m ∈ ms, m.isLocated = true →
    ∀ reached, followAll m later.reverse = .ok reached →
      lookup middle reached.sourceLine reached.sourceColumn = .ok none →
        followAll reached earlier.reverse = .ok reached

/-- Following a mapping back through documents that list plain mappings is
    the fold of the steps. -/
theorem followAll_reverse_toMapping {docs : List Json} {tables : List (List PlainMapping)}
    {m : PlainMapping} (h : List.Forall₂ Lists docs tables)
    (htables : ∀ table ∈ tables, ∀ x ∈ table, x.IsComplete) (hm : m.isLocated = true) :
    followAll m.toMapping docs.reverse = .ok (tables.foldr resolvedIn m).toMapping := by
  have hfollow := followAll_toMapping (List.rel_reverse h)
    (fun table htable => htables table (List.mem_reverse.mp htable)) hm
  rw [List.foldl_reverse] at hfollow
  exact hfollow

/-- A document has no answer for the place of a mapping exactly if what it
    lists has none. -/
theorem lookup_eq_none_iff {doc : Json} {table : List PlainMapping} {m : PlainMapping}
    (h : Lists doc table) (hm : m.isLocated = true) :
    lookup doc m.toMapping.sourceLine m.toMapping.sourceColumn = .ok none ↔ m.IsMissedBy table := by
  rcases located_or_bare m with ⟨_, _, source, line, column, name, rfl⟩ | hbare
  · show lookup doc (.int line) (.int column) = .ok none ↔ _
    rw [lookup_of_lists h, Except.ok.injEq, Option.map_eq_none_iff]
    constructor
    · intro hhit l c hl hc
      obtain rfl : line = l := Option.some.inj hl
      obtain rfl : column = c := Option.some.inj hc
      exact hhit
    · exact fun hmissed => hmissed line column rfl rfl
  · rw [hbare] at hm
    exact nomatch hm

/-- What a chain is made of whose first documents have been composed, and
    what the whole chain is made of. -/
theorem exists_isComposed_prefix {earlier later : List Json} {middle last inner nested flat : Json}
    (hplain : ∀ doc ∈ (earlier ++ [middle]) ++ (later ++ [last]), isPlainDocument doc = true)
    (hinner : compose (earlier ++ [middle]) = .ok inner)
    (hnested : compose ([inner] ++ (later ++ [last])) = .ok nested)
    (hflat : compose ((earlier ++ [middle]) ++ (later ++ [last])) = .ok flat) :
    ∃ own table first rest, IsComposed earlier middle inner table first
      ∧ List.Forall₂ Lists later rest
      ∧ IsComposed ([inner] ++ later) last nested own
        ([(sorted table).map (resolved first)] ++ rest)
      ∧ IsComposed ((earlier ++ [middle]) ++ later) last flat own ((first ++ [table]) ++ rest) := by
  rw [← List.append_assoc] at hplain hnested hflat
  obtain ⟨own, chain, hflatMade⟩ := exists_isComposed hplain hflat
  obtain ⟨table, first, hinnerMade⟩ := exists_isComposed
    (fun doc hdoc => hplain doc (by simp only [List.mem_append] at hdoc ⊢; tauto)) hinner
  obtain ⟨own', tables, hnestedMade⟩ := exists_isComposed (fun doc hdoc => by
    rw [List.append_assoc] at hdoc
    rcases List.mem_append.mp hdoc with hdoc | hdoc
    · rw [List.mem_singleton.mp hdoc]
      exact hinnerMade.isPlainDocument
    · exact hplain doc (by simp only [List.mem_append] at hdoc ⊢; tauto)) hnested
  obtain rfl := Lists.unique hnestedMade.lists_last hflatMade.lists_last
  obtain ⟨listed, rest, hlisted, hrest, rfl⟩ :=
    List.forall₂_cons_left_iff.mp hnestedMade.lists_earlier
  obtain rfl := Lists.unique hlisted hinnerMade.lists
  obtain rfl := lists_unique hflatMade.lists_earlier
    (List.rel_append
      (List.rel_append hinnerMade.lists_earlier (.cons hinnerMade.lists_last .nil)) hrest)
  exact ⟨own', table, first, rest, hinnerMade, hrest, hnestedMade, hflatMade⟩

/-- Whether gaps are kept is a matter of what the documents list: of the
    mappings that the last document's mappings are resolved to on the way
    to the one with the gaps. -/
theorem keepsGaps_iff {earlier later : List Json} {middle last inner flat : Json}
    {own table : List PlainMapping} {first rest before : List (List PlainMapping)}
    (hinner : IsComposed earlier middle inner table first) (hrest : List.Forall₂ Lists later rest)
    (hrestComplete : ∀ ms ∈ rest, ∀ m ∈ ms, m.IsComplete)
    (hflat : IsComposed ((earlier ++ [middle]) ++ later) last flat own before) :
    KeepsGaps earlier middle later last
      ↔ ∀ x ∈ own, (resolved rest x).isLocated = true → (resolved rest x).IsMissedBy table →
        first.foldr resolvedIn (resolved rest x) = resolved rest x := by
  have hreach : ∀ m, m.isLocated = true →
      followAll m.toMapping later.reverse = .ok (resolved rest m).toMapping := by
    intro m hm
    rw [followAll_reverse_toMapping hrest hrestComplete hm, resolved_of_located hm]
  have hback : ∀ m, m.isLocated = true →
      followAll m.toMapping earlier.reverse = .ok (first.foldr resolvedIn m).toMapping :=
    fun m hm => followAll_reverse_toMapping hinner.lists_earlier hinner.chain_complete hm
  constructor
  · intro hgaps x hx hxlocated hmissed
    have hlocated : x.isLocated = true := by
      refine hflat.own_complete x hx ?_
      rw [← resolved_source rest]
      exact source_isSome_of_isLocated hxlocated
    have hkept := hgaps _ hflat.lists_last x.toMapping (List.mem_map_of_mem hx)
      (by rw [toMapping_isLocated, hlocated]) _ (hreach x hlocated)
      ((lookup_eq_none_iff hinner.lists_last hxlocated).mpr hmissed)
    rw [hback _ hxlocated] at hkept
    exact toMapping_injective (Except.ok.inj hkept)
  · intro hkeeps ms hms m hm hlocated reached hreached hmissed
    obtain rfl : ms = own.map toMapping := Except.ok.inj (hms.symm.trans hflat.lists_last)
    obtain ⟨x, hx, rfl⟩ := List.mem_map.mp hm
    rw [toMapping_isLocated] at hlocated
    obtain rfl : reached = (resolved rest x).toMapping :=
      Except.ok.inj (hreached.symm.trans (hreach x hlocated))
    have hxlocated : (resolved rest x).isLocated = true := by
      refine resolved_isComplete hrestComplete (hflat.own_complete x hx) ?_
      rw [resolved_source]
      exact source_isSome_of_isLocated hlocated
    rw [hback _ hxlocated, hkeeps x hx hxlocated
      ((lookup_eq_none_iff hinner.lists_last hxlocated).mp hmissed)]

/-- **The first documents of a chain may be composed first exactly if gaps
    are kept**: if none of the mappings that the last of them has no answer
    for is changed by the documents before it. -/
theorem compose_grouped_prefix_iff {earlier later : List Json}
    {middle last inner nested flat : Json}
    (hplain : ∀ doc ∈ (earlier ++ [middle]) ++ (later ++ [last]), isPlainDocument doc = true)
    (hinner : compose (earlier ++ [middle]) = .ok inner)
    (hnested : compose ([inner] ++ (later ++ [last])) = .ok nested)
    (hflat : compose ((earlier ++ [middle]) ++ (later ++ [last])) = .ok flat) :
    AgreeOn listingMembers nested flat ↔ KeepsGaps earlier middle later last := by
  obtain ⟨own, table, first, rest, hinnerMade, hrest, hnestedMade, hflatMade⟩ :=
    exists_isComposed_prefix hplain hinner hnested hflat
  have hrestComplete : ∀ ms ∈ rest, ∀ m ∈ ms, m.IsComplete :=
    fun ms hms => hflatMade.chain_complete ms (List.mem_append_right _ hms)
  have hcomplete : ∀ m ∈ own, (resolved rest m).IsComplete :=
    fun m hm => resolved_isComplete hrestComplete (hflatMade.own_complete m hm)
  rw [hnestedMade.agreeOn_listing_iff hflatMade, List.map_inj_left,
    keepsGaps_iff hinnerMade hrest hrestComplete hflatMade]
  simp only [resolved_append [_] rest, resolved_append (first ++ [table]) rest, mem_sorted]
  constructor
  · exact fun hagree x hx => (resolved_listed_iff (hcomplete x hx)).mp (hagree x hx)
  · exact fun hkeeps x hx => (resolved_listed_iff (hcomplete x hx)).mpr (hkeeps x hx)

/-- The first document of a chain. -/
def earlyDocument : Json := basicDocument [.string "app.ts"] [] "AAAA"

/-- A document that has no answer for the first line. -/
def gapDocument : Json := basicDocument [.string "app.js"] [] ";AAAA"

/-- The last document of a chain; it leads to the first line. -/
def lateDocument : Json := basicDocument [.string "index.bundle"] [] "AAAA"

/-- The first two of these documents composed. -/
def joinedDocument : Json := basicDocument [.string "app.ts"] [] ";AAAA"

theorem lists_earlyDocument :
    Lists earlyDocument [⟨0, 0, some (Text.ofString "app.ts"), some 0, some 0, none⟩] := rfl

theorem lists_gapDocument :
    Lists gapDocument [⟨1, 0, some (Text.ofString "app.js"), some 0, some 0, none⟩] := rfl

theorem lists_lateDocument :
    Lists lateDocument [⟨0, 0, some (Text.ofString "index.bundle"), some 0, some 0, none⟩] := rfl

theorem compose_early_gap : compose ([earlyDocument] ++ [gapDocument]) = .ok joinedDocument := by
  have hencode : Mappings.encode [[], [⟨0, some ⟨0, 0, 0, none⟩⟩]] = Text.ofString ";AAAA" := by cbv
  rw [joinedDocument, basicDocument, ← hencode]
  exact compose_eq_of_ordered lists_gapDocument (.cons lists_earlyDocument .nil) rfl rfl rfl
    (by decide) (by decide)

/-- The joined document has no answer for the first line either, so the
    last document keeps what it refers to. -/
theorem compose_joined_late : compose ([joinedDocument] ++ [lateDocument]) = .ok lateDocument := by
  have hjoined : Lists joinedDocument
      [⟨1, 0, some (Text.ofString "app.ts"), some 0, some 0, none⟩] := rfl
  have hcomposed := compose_eq_of_ordered lists_lateDocument (.cons hjoined .nil) rfl rfl rfl
    (by decide) (by decide)
  refine hcomposed.trans ?_
  rw [lateDocument, basicDocument, ← encode_single]
  rfl

/-- The whole chain looks up in the first document what the second one has
    no answer for. -/
theorem compose_early_gap_late :
    compose (([earlyDocument] ++ [gapDocument]) ++ [lateDocument]) = .ok earlyDocument := by
  have hcomposed := compose_eq_of_ordered lists_lateDocument
    (.cons lists_earlyDocument (.cons lists_gapDocument .nil)) rfl rfl rfl (by decide) (by decide)
  refine hcomposed.trans ?_
  rw [earlyDocument, basicDocument, ← encode_single]
  rfl

theorem isPlainDocument_early_gap_late :
    ∀ doc ∈ ([earlyDocument] ++ [gapDocument]) ++ ([] ++ [lateDocument]),
      isPlainDocument doc = true := by
  simp only [List.cons_append, List.nil_append, List.forall_mem_cons]
  exact ⟨rfl, rfl, rfl, fun _ hdoc => nomatch hdoc⟩

theorem compose_grouped_prefix_early_gap_late :
    (∀ doc ∈ ([earlyDocument] ++ [gapDocument]) ++ ([] ++ [lateDocument]),
        isPlainDocument doc = true)
      ∧ compose ([earlyDocument] ++ [gapDocument]) = .ok joinedDocument
      ∧ compose ([joinedDocument] ++ ([] ++ [lateDocument])) = .ok lateDocument
      ∧ compose (([earlyDocument] ++ [gapDocument]) ++ ([] ++ [lateDocument])) = .ok earlyDocument
      ∧ (AgreeOn listingMembers lateDocument earlyDocument
        ↔ KeepsGaps [earlyDocument] gapDocument [] lateDocument) :=
  ⟨isPlainDocument_early_gap_late, compose_early_gap, compose_joined_late, compose_early_gap_late,
    compose_grouped_prefix_iff isPlainDocument_early_gap_late compose_early_gap compose_joined_late
      compose_early_gap_late⟩

/-- **Composing the first documents first may change the outcome**: these
    documents are plain, and each chain of them can be composed, yet the
    outcomes refer to different sources. -/
theorem compose_grouped_prefix_differs :
    (∀ doc ∈ ([earlyDocument] ++ [gapDocument]) ++ ([] ++ [lateDocument]),
        isPlainDocument doc = true)
      ∧ compose ([earlyDocument] ++ [gapDocument]) = .ok joinedDocument
      ∧ compose ([joinedDocument] ++ [lateDocument]) = .ok lateDocument
      ∧ compose (([earlyDocument] ++ [gapDocument]) ++ [lateDocument]) = .ok earlyDocument
      ∧ ¬AgreeOn listingMembers lateDocument earlyDocument := by
  refine ⟨isPlainDocument_early_gap_late, compose_early_gap, compose_joined_late,
    compose_early_gap_late, fun hagree => ?_⟩
  have hsources := hagree "sources" (by decide)
  have hlate : lateDocument.get? (Text.ofString "sources") = some (.arr [.string "index.bundle"]) :=
    rfl
  have hearly : earlyDocument.get? (Text.ofString "sources") = some (.arr [.string "app.ts"]) := rfl
  rw [hlate, hearly] at hsources
  simp only [Option.some.injEq, Json.arr.injEq, List.cons.injEq, Json.string, Json.str.injEq,
    Text.ofString_inj] at hsources
  exact absurd hsources.1 (by decide)

end HermesBundle.SourceMap
