import HermesBundle.Proofs.Ordering.Halving
import HermesBundle.Proofs.SourceMap.Answer

/-! # Scanning — what a lookup finds among any mappings

    A lookup groups mappings by line, puts each line in order and searches
    it by halves.  It finds what a scan of the list finds, whatever the
    mappings say besides their integer positions:

    * of the mappings on the line that do not start after the column one
      **wins**: none starts later, and of those that start with it it is
      the last one of the list (`Wins`);
    * if it has a source it is found, and otherwise nothing is, for it
      hides the mappings before it (`Finds`);
    * a line of integer columns is searched by halves like any other
      (`exists_latest`). -/

namespace HermesBundle.SourceMap

open Outcome HermesBundle.Ordering

namespace Mapping

/-- Whether a mapping stands at an integer position. -/
def IsAt (line column : Int) (m : Mapping) : Prop := m.line = .int line ∧ m.column = .int column

/-- Whether the generated position of a mapping consists of integers. -/
def HasIntegerPosition (m : Mapping) : Prop := ∃ line column, m.IsAt line column

/-- The column at which a mapping starts. -/
def start (m : Mapping) : Int := m.column.toInt?.getD 0

theorem IsAt.start_eq {line column : Int} {m : Mapping} (h : m.IsAt line column) :
    m.start = column := by
  unfold start
  rw [h.2]
  rfl

end Mapping

/-- A mapping wins a query: it is on the line and does not start after the
    column, and of the others that do so none in front of it starts later
    and all behind it start earlier. -/
inductive Wins (line column : Int) : List Mapping → Mapping → Prop where
  | intro {before behind : List Mapping} {m : Mapping} {start : Int} : m.IsAt line start →
      start ≤ column → (∀ x ∈ before, ∀ c, x.IsAt line c → c ≤ column → c ≤ start) →
      (∀ x ∈ behind, ∀ c, x.IsAt line c → c ≤ column → c < start) →
      Wins line column (before ++ m :: behind) m

/-- What a query finds: the mapping that wins, if it has a source, and
    nothing in all other cases. -/
inductive Finds (line column : Int) (ms : List Mapping) : Option Mapping → Prop where
  | winner {m : Mapping} : Wins line column ms m → m.source.isNull = false →
      Finds line column ms (some m)
  | nothing : (∀ m, Wins line column ms m → m.source.isNull = true) → Finds line column ms none

variable {line column : Int} {ms : List Mapping} {m : Mapping}

/-- What winning consists of. -/
theorem wins_iff : Wins line column ms m ↔
    ∃ before behind start, ms = before ++ m :: behind ∧ m.IsAt line start ∧ start ≤ column
      ∧ (∀ x ∈ before, ∀ c, x.IsAt line c → c ≤ column → c ≤ start)
      ∧ ∀ x ∈ behind, ∀ c, x.IsAt line c → c ≤ column → c < start := by
  constructor
  · rintro ⟨hat, hle, hbefore, hbehind⟩
    exact ⟨_, _, _, rfl, hat, hle, hbefore, hbehind⟩
  · rintro ⟨before, behind, start, rfl, hat, hle, hbefore, hbehind⟩
    exact .intro hat hle hbefore hbehind

/-- None that does not start after the column starts later. -/
theorem Wins.greatest {x : Mapping} {start c : Int} (h : Wins line column ms m)
    (hm : m.IsAt line start) (hx : x ∈ ms) (hc : x.IsAt line c) (hle : c ≤ column) : c ≤ start := by
  obtain ⟨before, behind, start', rfl, hat, -, hbefore, hbehind⟩ := wins_iff.mp h
  obtain rfl : start' = start := hat.start_eq.symm.trans hm.start_eq
  rcases List.mem_append.mp hx with hx | hx
  · exact hbefore x hx c hc hle
  · rcases List.mem_cons.mp hx with rfl | hx
    · exact Int.le_of_eq (hc.start_eq.symm.trans hm.start_eq)
    · exact Int.le_of_lt (hbehind x hx c hc hle)

/-! ## Lines -/

/-- The mappings on a line are told apart by their integers. -/
theorem mem_onLine_iff (hms : ∀ m ∈ ms, m.HasIntegerPosition) :
    m ∈ onLine ms (.int line) ↔ m ∈ ms ∧ m.line = .int line := by
  unfold onLine
  rw [List.mem_filter]
  refine and_congr_right fun hm => ?_
  obtain ⟨l, _, hl, -⟩ := hms m hm
  have hsame : m.line.same (.int line) = (l == line) := by
    rw [hl]
    rfl
  rw [hsame, hl, beq_iff_eq, Json.int.injEq]

/-- A mapping on a line stands where it starts. -/
theorem isAt_of_mem_onLine (hms : ∀ m ∈ ms, m.HasIntegerPosition)
    (hm : m ∈ onLine ms (.int line)) : m.IsAt line m.start := by
  obtain ⟨hmem, hline⟩ := (mem_onLine_iff hms).mp hm
  obtain ⟨_, c, hc⟩ := hms m hmem
  exact ⟨hline, hc.start_eq ▸ hc.2⟩

/-- **A mapping wins if it is the latest of its line.** -/
theorem wins_iff_isLatest (hms : ∀ m ∈ ms, m.HasIntegerPosition) :
    Wins line column ms m ↔ IsLatest Mapping.start column (onLine ms (.int line)) m := by
  constructor
  · intro h
    obtain ⟨before, behind, start, rfl, hm, hle, hbefore, hbehind⟩ := wins_iff.mp h
    have hpart : ∀ part : List Mapping, part ⊆ before ++ m :: behind →
        ∀ x ∈ onLine part (.int line), x ∈ part ∧ x.IsAt line x.start := by
      intro part hsub x hx
      have hints := fun y hy => hms y (hsub hy)
      exact ⟨((mem_onLine_iff hints).mp hx).1, isAt_of_mem_onLine hints hx⟩
    have hself : m.line.same (.int line) = true := by
      rw [hm.1]
      exact beq_self_eq_true line
    have hline : onLine (before ++ m :: behind) (.int line)
        = onLine before (.int line) ++ m :: onLine behind (.int line) := by
      unfold onLine
      rw [List.filter_append, List.filter_cons, if_pos hself]
    rw [hline]
    refine .intro (hm.start_eq.symm ▸ hle) (fun x hx hbound => ?_) fun x hx hbound => ?_
    · obtain ⟨hmem, hat⟩ := hpart before (List.subset_append_left _ _) x hx
      exact hm.start_eq.symm ▸ hbefore x hmem _ hat hbound
    · obtain ⟨hmem, hat⟩ := hpart behind (fun y hy => by simp [hy]) x hx
      exact hm.start_eq.symm ▸ hbehind x hmem _ hat hbound
  · intro h
    have hlast := h.getLast?
    unfold onLine at hlast
    rw [List.filter_filter] at hlast
    obtain ⟨before, behind, rfl, -, hbehind⟩ := exists_of_getLast?_filter hlast
    have hcandidate : ∀ x ∈ before ++ m :: behind, ∀ c, x.IsAt line c → c ≤ column →
        x ∈ onLine (before ++ m :: behind) (.int line) ∧ c ≤ m.start := by
      intro x hx c hat hle
      have hon := (mem_onLine_iff hms).mpr ⟨hx, hat.1⟩
      exact ⟨hon, hat.start_eq ▸ h.greatest hon (hat.start_eq.symm ▸ hle)⟩
    refine .intro (isAt_of_mem_onLine hms h.mem) h.le_bound (fun x hx c hat hle => ?_)
      fun x hx c hat hle => ?_
    · exact (hcandidate x (List.mem_append_left _ hx) c hat hle).2
    · obtain ⟨hon, hmost⟩ :=
        hcandidate x (List.mem_append_right _ (List.mem_cons_of_mem _ hx)) c hat hle
      have hother := hbehind x hx
      rw [(List.mem_filter.mp hon).2, Bool.and_true] at hother
      have hne : x.start ≠ m.start := fun heq => by
        rw [hasNumber_iff.mpr heq] at hother
        exact nomatch hother
      rw [hat.start_eq] at hne
      omega

/-- One mapping wins at most. -/
theorem Wins.unique {m' : Mapping} (hms : ∀ m ∈ ms, m.HasIntegerPosition)
    (h : Wins line column ms m) (h' : Wins line column ms m') : m = m' :=
  ((wins_iff_isLatest hms).mp h).unique ((wins_iff_isLatest hms).mp h')

/-- A query finds one thing. -/
theorem Finds.unique {found found' : Option Mapping} (hms : ∀ m ∈ ms, m.HasIntegerPosition)
    (h : Finds line column ms found) (h' : Finds line column ms found') : found = found' := by
  cases h with
  | winner hm hsource =>
      cases h' with
      | winner hm' _ => rw [hm.unique hms hm']
      | nothing hnone => exact nomatch hsource.symm.trans (hnone _ hm)
  | nothing hnone =>
      cases h' with
      | winner hm hsource => exact nomatch hsource.symm.trans (hnone _ hm)
      | nothing _ => rfl

/-- Where the same mappings win, the same is found. -/
theorem Finds.congr {ms' : List Mapping} {found : Option Mapping}
    (hsame : ∀ m, Wins line column ms m ↔ Wins line column ms' m) (h : Finds line column ms found) :
    Finds line column ms' found := by
  cases h with
  | winner hm hsource => exact .winner ((hsame _).mp hm) hsource
  | nothing hnone => exact .nothing fun m hm => hnone m ((hsame m).mpr hm)

/-! ## Searching a line -/

/-- Mappings with integer columns are put in the order of these. -/
theorem sortedColumns_eq_mergeSort (h : ∀ m ∈ ms, ∃ c, m.column = .int c) :
    sortedColumns ms = ms.mergeSort (mayFollow Mapping.start) := by
  have hle : ∀ a ∈ ms, ∀ b ∈ ms,
      (!b.column.less a.column) = mayFollow Mapping.start (id a) (id b) := by
    intro a ha b hb
    obtain ⟨c, hc⟩ := h a ha
    obtain ⟨d, hd⟩ := h b hb
    have hless : b.column.less a.column = decide (d < c) := by
      rw [hc, hd]
      rfl
    unfold mayFollow Mapping.start
    rw [hless, ← decide_not, decide_eq_decide, id, id, hc, hd]
    exact Int.not_lt
  have hmap := List.map_mergeSort hle
  rwa [List.map_id, List.map_id] at hmap

/-- Whether a mapping does not start after a column, as a search by halves
    asks it. -/
def isNotAfter (column : Int) (m : Mapping) : Option Bool :=
  opposite ((Json.int column).comesBefore m.column)

theorem isNotAfter_eq (h : ∃ c, m.column = .int c) :
    isNotAfter column m = some !decide (column < m.start) := by
  obtain ⟨c, hc⟩ := h
  unfold isNotAfter Mapping.start
  rw [hc]
  rfl

/-- A row whose first mappings are those up to a column ends there, by
    halves or one after another. -/
theorem lastBefore_append {before behind : List Mapping}
    (hints : ∀ m ∈ before ++ behind, ∃ c, m.column = .int c)
    (hbefore : ∀ m ∈ before, m.start ≤ column) (hbehind : ∀ m ∈ behind, column < m.start) :
    countLeading (isNotAfter column) (before ++ behind).toArray = some before.length
      ∧ LineIndex.lastBefore (.int column) (before ++ behind) = .ok before.getLast? := by
  have hless : ∀ m ∈ before ++ behind,
      (!(Json.int column).less m.column) = !decide (column < m.start) := by
    intro m hm
    obtain ⟨c, hc⟩ := hints m hm
    unfold Mapping.start
    rw [hc]
    rfl
  have hnot : ∀ m ∈ before, (!decide (column < m.start)) = true := fun m hm => by
    rw [← decide_not, decide_eq_true_eq]
    exact Int.not_lt.mpr (hbefore m hm)
  have hafter : ∀ m ∈ behind, (!decide (column < m.start)) = false := fun m hm => by
    rw [decide_eq_true (hbehind m hm), Bool.not_true]
  have hplain : ((Json.int column).isMagnitude && havePlainColumns (before ++ behind)) = true := by
    refine Bool.and_eq_true_iff.mpr ⟨rfl, List.all_eq_true.mpr fun m hm => ?_⟩
    obtain ⟨c, hc⟩ := hints m hm
    rw [hc]
    rfl
  constructor
  · refine countLeading_append (fun m hm => ?_) fun m hm => ?_
    · rw [isNotAfter_eq (hints m (List.mem_append_left _ hm)), hnot m hm]
    · rw [isNotAfter_eq (hints m (List.mem_append_right _ hm)), hafter m hm]
  · unfold LineIndex.lastBefore
    rw [if_pos hplain, LineIndex.lastNotAfter, List.takeWhile_append_of_pos fun m hm => ?_]
    · cases behind with
      | nil => rw [List.takeWhile_nil, List.append_nil]
      | cons first rest =>
          have hfirst := List.mem_cons_self (a := first) (l := rest)
          rw [List.takeWhile_cons_of_neg, List.append_nil]
          rw [hless first (List.mem_append_right _ hfirst), hafter first hfirst]
          exact Bool.false_ne_true
    · rw [hless m (List.mem_append_left _ hm), hnot m hm]

/-- **Halving a line finds the latest of its mappings.** -/
theorem exists_latest (hms : ∀ m ∈ ms, ∃ c, m.column = .int c) (column : Int) :
    ∃ n last, countLeading (isNotAfter column) (sortedColumns ms).toArray = some n
      ∧ ((sortedColumns ms).take n).getLast? = last
      ∧ LineIndex.lastBefore (.int column) (sortedColumns ms) = .ok last
      ∧ ∀ m, last = some m ↔ IsLatest Mapping.start column ms m := by
  have hrow := sortedColumns_eq_mergeSort hms
  obtain ⟨before, behind, hparted, hbefore, hbehind⟩ :=
    exists_parted column (mergeSort_pairwise Mapping.start ms)
  have hints : ∀ m ∈ before ++ behind, ∃ c, m.column = .int c := fun m hm =>
    hms m (List.mem_mergeSort.mp (hparted ▸ hm))
  obtain ⟨hcount, hlast⟩ := lastBefore_append hints hbefore hbehind
  rw [hrow, hparted]
  exact ⟨before.length, before.getLast?, hcount, congrArg _ List.take_left, hlast,
    fun m => getLast?_eq_some_iff hparted hbefore hbehind⟩

/-! ## The index -/

/-- The lines that occur are those of the mappings. -/
theorem int_mem_linesOf_iff (hms : ∀ m ∈ ms, m.HasIntegerPosition) :
    Json.int line ∈ linesOf ms ↔ ∃ m ∈ ms, m.line = .int line := by
  rw [PlainMapping.linesOf_eq_firstUses]
  constructor
  · intro h
    exact List.mem_map.mp (mem_of_mem_firstUses h)
  · intro h
    refine mem_firstUses (fun x hx hsame => ?_) (List.mem_map.mpr h)
    obtain ⟨m, hm, rfl⟩ := List.mem_map.mp hx
    obtain ⟨l, _, hl, -⟩ := hms m hm
    rw [hl] at hsame ⊢
    exact congrArg Json.int (beq_iff_eq.mp hsame)

/-- Mappings at integer positions can always be indexed. -/
theorem ofMappings_eq_ok (hms : ∀ m ∈ ms, m.HasIntegerPosition) :
    LineIndex.ofMappings ms
      = .ok ((linesOf ms).map fun line => (line, sortedColumns (onLine ms line))) := by
  have hscalar : ms.all (·.line.isScalar) = true := by
    refine List.all_eq_true.mpr fun m hm => ?_
    obtain ⟨_, _, hl, -⟩ := hms m hm
    rw [hl]
    rfl
  unfold LineIndex.ofMappings
  rw [if_pos hscalar]
  refine mapM_of_forall fun line _ => bind_of_eq_ok (if_pos (List.all_eq_true.mpr fun m hm => ?_))
  obtain ⟨_, _, -, hc⟩ := hms m (List.mem_filter.mp hm).1
  rw [hc]
  rfl

/-- A lookup among mappings at integer positions always has an outcome,
    and it is what the query finds. -/
theorem exists_finds (hms : ∀ m ∈ ms, m.HasIntegerPosition) (line column : Int) :
    ∃ found, sourcePosition ms (.int line) (.int column) = .ok found
      ∧ Finds line column ms found := by
  have hkeys : ∀ x ∈ linesOf ms, x.same (.int line) = true → x = .int line := by
    intro x hx hsame
    rw [PlainMapping.linesOf_eq_firstUses] at hx
    obtain ⟨m, hm, rfl⟩ := List.mem_map.mp (mem_of_mem_firstUses hx)
    obtain ⟨l, _, hl, -⟩ := hms m hm
    rw [hl] at hsame ⊢
    exact congrArg Json.int (beq_iff_eq.mp hsame)
  have hscalar : (Json.int line).isScalar = true := rfl
  unfold sourcePosition
  rw [bind_of_eq_ok (ofMappings_eq_ok hms), LineIndex.sourcePosition, if_pos hscalar]
  by_cases hline : Json.int line ∈ linesOf ms
  · have hcolumns : ∀ m ∈ onLine ms (.int line), ∃ c, m.column = .int c := fun m hm => by
      obtain ⟨_, c, hc⟩ := hms m (List.mem_filter.mp hm).1
      exact ⟨c, hc.2⟩
    obtain ⟨_, last, -, -, hlast, hlatest⟩ := exists_latest hcolumns column
    rw [PlainMapping.get?_map_of_mem hkeys hline]
    refine ⟨_, bind_of_eq_ok hlast, ?_⟩
    cases last with
    | none =>
        refine .nothing fun m hm => ?_
        exact nomatch (hlatest m).mpr ((wins_iff_isLatest hms).mp hm)
    | some m =>
        have hwins := (wins_iff_isLatest hms).mpr ((hlatest m).mp rfl)
        rw [Option.filter_some]
        cases hsource : m.source.isNull with
        | false => exact .winner hwins hsource
        | true => exact .nothing fun other hother => hother.unique hms hwins ▸ hsource
  · rw [PlainMapping.get?_map_of_not_mem hkeys hline]
    refine ⟨none, rfl, .nothing fun m hm => ?_⟩
    have hmem := (mem_onLine_iff hms).mp ((wins_iff_isLatest hms).mp hm).mem
    exact absurd ((int_mem_linesOf_iff hms).mpr ⟨m, hmem⟩) hline

/-- What a query finds is the outcome of the lookup. -/
theorem sourcePosition_of_finds {found : Option Mapping} (hms : ∀ m ∈ ms, m.HasIntegerPosition)
    (h : Finds line column ms found) : sourcePosition ms (.int line) (.int column) = .ok found := by
  obtain ⟨actual, hactual, hfinds⟩ := exists_finds hms line column
  rw [hactual, hfinds.unique hms h]

/-- **A lookup is a scan.**  Among mappings at integer positions, in any
    order, it finds the winner of the query if that has a source, and
    nothing in all other cases. -/
theorem sourcePosition_eq_ok_iff (hms : ∀ m ∈ ms, m.HasIntegerPosition) (line column : Int)
    (found : Option Mapping) :
    sourcePosition ms (.int line) (.int column) = .ok found ↔ Finds line column ms found := by
  constructor
  · intro h
    obtain ⟨actual, hactual, hfinds⟩ := exists_finds hms line column
    obtain rfl := Except.ok.inj (hactual.symm.trans h)
    exact hfinds
  · exact sourcePosition_of_finds hms

/-- A line on which a mapping without a source was given first but starts
    after two others, which share a column. -/
def crossedLine : List Mapping :=
  [.bare (.int 1) (.int 4), ⟨.int 1, .int 2, .str (Text.ofString "a.js"), .int 0, .int 0, .null⟩,
    ⟨.int 1, .int 2, .str (Text.ofString "b.js"), .int 7, .int 3, .null⟩]

/-- Between the columns the later of the two is found; from the greater one
    on both are hidden. -/
theorem sourcePosition_crossedLine :
    (∀ m ∈ crossedLine, m.HasIntegerPosition)
      ∧ sourcePosition crossedLine (.int 1) (.int 3) = .ok crossedLine[2]?
      ∧ sourcePosition crossedLine (.int 1) (.int 9) = .ok none := by
  have hms : ∀ m ∈ crossedLine, m.HasIntegerPosition :=
    List.forall_mem_cons.mpr ⟨⟨1, 4, rfl, rfl⟩, List.forall_mem_cons.mpr ⟨⟨1, 2, rfl, rfl⟩,
      List.forall_mem_cons.mpr ⟨⟨1, 2, rfl, rfl⟩, List.forall_mem_nil _⟩⟩⟩
  have hlater : Wins 1 3 crossedLine crossedLine[2] := by
    show Wins 1 3 ([crossedLine[0], crossedLine[1]] ++ [crossedLine[2]]) _
    refine .intro ⟨rfl, rfl⟩ (show (2 : Int) ≤ 3 by decide) (fun x hx c hat hle => ?_)
      fun x hx => nomatch hx
    rcases List.mem_cons.mp hx with rfl | hx
    · obtain rfl : 4 = c := hat.start_eq
      exact absurd hle (by decide)
    · obtain rfl := List.mem_singleton.mp hx
      obtain rfl : 2 = c := hat.start_eq
      exact Int.le_refl 2
  have hbare : Wins 1 9 crossedLine crossedLine[0] := by
    show Wins 1 9 ([] ++ crossedLine) _
    refine .intro ⟨rfl, rfl⟩ (show (4 : Int) ≤ 9 by decide) (fun x hx => nomatch hx)
      fun x hx c hat _ => ?_
    have hcolumn : x.start = 2 := by
      rcases List.mem_cons.mp hx with rfl | hx
      · rfl
      · rw [List.mem_singleton.mp hx]
        rfl
    rw [← hat.start_eq, hcolumn]
    decide
  exact ⟨hms, (sourcePosition_eq_ok_iff hms 1 3 _).mpr (.winner hlater rfl),
    (sourcePosition_eq_ok_iff hms 1 9 _).mpr (.nothing fun m hm => hm.unique hms hbare ▸ rfl)⟩

end HermesBundle.SourceMap
