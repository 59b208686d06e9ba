import HermesBundle.Proofs.Outcomes
import HermesBundle.Proofs.SourceMap.Arrangement
import HermesBundle.Proofs.SourceMap.PlainMapping
import HermesBundle.SourceMap.Lookup

/-! # Answers — what a lookup among plain mappings finds

    A lookup groups mappings by line, puts each line in order and takes
    the last mapping that does not start after the query.  A scan of the
    list, without any index, finds the same:

    * `answer` keeps the mapping of the greatest column on the line, the
      later one of two equal columns (`answer_eq_some_iff`);
    * the index answers with it if it has a source, and with nothing
      otherwise (`sourcePosition_lineIndex`);
    * neither the order of other positions (`answer_sorted`) nor what
      mappings refer to (`answer_map`) matters. -/

namespace HermesBundle.SourceMap

open Outcome

namespace PlainMapping

/-- Whether the mapping is on a line and does not start after a column. -/
def isCandidate (line column : Int) (m : PlainMapping) : Bool :=
  decide (m.line = line ∧ m.column ≤ column)

/-- Of a mapping and the best of those behind it the one that starts
    later; of two that start together the one behind. -/
def better (m : PlainMapping) : Option PlainMapping → PlainMapping
  | none => m
  | some best => if best.column < m.column then m else best

/-- The mapping on the line that starts last among those not after the
    column; of several that start together the last one. -/
def answer (line column : Int) : List PlainMapping → Option PlainMapping
  | [] => none
  | m :: rest =>
      if m.isCandidate line column then some (m.better (answer line column rest))
      else answer line column rest

/-- The answer to a query, if it has a source. -/
def hit (line column : Int) (ms : List PlainMapping) : Option PlainMapping :=
  (answer line column ms).filter fun m => m.source.isSome

/-- What makes a mapping the answer to a query: it is a candidate, none
    starts later, and it is the last one at its position. -/
structure IsAnswer (line column : Int) (ms : List PlainMapping) (m : PlainMapping) : Prop where
  candidate : m.isCandidate line column = true
  greatest : ∀ x ∈ ms, x.isCandidate line column = true → x.column ≤ m.column
  last : (ms.filter (isAt m.line m.column)).getLast? = some m

variable {m : PlainMapping} {ms : List PlainMapping} {line column : Int}

/-! ## What the scan finds -/

/-- Only a list without candidates has no answer. -/
theorem answer_eq_none_iff :
    answer line column ms = none ↔ ∀ m ∈ ms, m.isCandidate line column = false := by
  induction ms with
  | nil => simp [answer]
  | cons m rest ih =>
      rw [answer, List.forall_mem_cons]
      cases hm : m.isCandidate line column with
      | true => simp
      | false => simpa using ih

/-- An answer is one of the mappings. -/
theorem IsAnswer.mem (h : IsAnswer line column ms m) : m ∈ ms :=
  (List.mem_filter.mp (List.mem_of_getLast? h.last)).1

/-- A candidate at the position of another one starts in the same column. -/
theorem isCandidate_of_isAt {x : PlainMapping} (hm : m.isCandidate line column = true)
    (hx : x.isAt m.line m.column = true) :
    x.isCandidate line column = true ∧ x.column = m.column := by
  unfold isCandidate at *
  unfold isAt at hx
  rw [decide_eq_true_eq] at *
  omega

/-- A candidate that starts after all candidates behind it is the
    answer. -/
theorem IsAnswer.head {rest : List PlainMapping} (hm : m.isCandidate line column = true)
    (hafter : ∀ x ∈ rest, x.isCandidate line column = true → x.column < m.column) :
    IsAnswer line column (m :: rest) m := by
  have hothers : rest.filter (isAt m.line m.column) = [] := by
    rw [List.filter_eq_nil_iff]
    intro x hx hat
    obtain ⟨hc, hcolumn⟩ := isCandidate_of_isAt hm hat
    have := hafter x hx hc
    omega
  refine ⟨hm, fun x hx hc => ?_, ?_⟩
  · rcases List.mem_cons.mp hx with rfl | hmem
    · exact Int.le_refl _
    · exact Int.le_of_lt (hafter x hmem hc)
  · rw [List.filter_cons_of_pos (by simp [isAt]), hothers]
    rfl

/-- An answer stays the answer if no candidate that starts after it is put
    in front. -/
theorem IsAnswer.cons {first : PlainMapping} (h : IsAnswer line column ms m)
    (hfirst : first.isCandidate line column = true → first.column ≤ m.column) :
    IsAnswer line column (first :: ms) m := by
  refine ⟨h.candidate, fun x hx hc => ?_, ?_⟩
  · rcases List.mem_cons.mp hx with rfl | hmem
    · exact hfirst hc
    · exact h.greatest x hmem hc
  · rw [List.filter_cons]
    split
    · rw [List.getLast?_cons, h.last]
      rfl
    · exact h.last

/-- What the scan finds is the answer. -/
theorem isAnswer_of_answer (h : answer line column ms = some m) : IsAnswer line column ms m := by
  induction ms generalizing m with
  | nil => exact nomatch h
  | cons first rest ih =>
      rw [answer] at h
      by_cases hfirst : first.isCandidate line column = true
      · rw [if_pos hfirst] at h
        cases hrest : answer line column rest with
        | none =>
            rw [hrest] at h
            obtain rfl : first = m := Option.some.inj h
            have hnone := answer_eq_none_iff.mp hrest
            exact IsAnswer.head hfirst fun x hx hc => absurd hc (by rw [hnone x hx]; decide)
        | some best =>
            rw [hrest] at h
            have hbest := ih hrest
            have hm : (if best.column < first.column then first else best) = m :=
              Option.some.inj h
            by_cases hlt : best.column < first.column
            · rw [if_pos hlt] at hm
              subst hm
              exact IsAnswer.head hfirst fun x hx hc =>
                Int.lt_of_le_of_lt (hbest.greatest x hx hc) hlt
            · rw [if_neg hlt] at hm
              subst hm
              exact hbest.cons fun _ => Int.not_lt.mp hlt
      · rw [if_neg hfirst] at h
        exact (ih h).cons fun hc => absurd hc hfirst

/-- A query has one answer. -/
theorem IsAnswer.unique {m' : PlainMapping} (h : IsAnswer line column ms m)
    (h' : IsAnswer line column ms m') : m = m' := by
  have hle := h.greatest m' h'.mem h'.candidate
  have hge := h'.greatest m h.mem h.candidate
  have hm := h.candidate
  have hm' := h'.candidate
  unfold isCandidate at hm hm'
  rw [decide_eq_true_eq] at hm hm'
  have hcolumn : m.column = m'.column := Int.le_antisymm hge hle
  have hline : m.line = m'.line := hm.1.trans hm'.1.symm
  have hlast := h.last
  rw [hline, hcolumn, h'.last] at hlast
  exact (Option.some.inj hlast).symm

/-- The scan finds the answer and nothing else. -/
theorem answer_eq_some_iff : answer line column ms = some m ↔ IsAnswer line column ms m := by
  constructor
  · exact isAnswer_of_answer
  · intro h
    cases hscan : answer line column ms with
    | none =>
        have := answer_eq_none_iff.mp hscan m h.mem
        rw [h.candidate] at this
        exact nomatch this
    | some found => rw [(isAnswer_of_answer hscan).unique h]

/-- Putting mappings in order keeps every answer. -/
theorem answer_sorted (ms : List PlainMapping) :
    answer line column (sorted ms) = answer line column ms := by
  refine Option.ext fun m => ?_
  rw [answer_eq_some_iff, answer_eq_some_iff]
  constructor
  · intro h
    exact ⟨h.candidate, fun x hx => h.greatest x (mem_sorted.mpr hx), filter_sorted ms _ _ ▸ h.last⟩
  · intro h
    exact ⟨h.candidate, fun x hx => h.greatest x (mem_sorted.mp hx),
      (filter_sorted ms _ _).symm ▸ h.last⟩

/-- Where positions are kept, changing mappings changes the answer in the
    same way. -/
theorem answer_map {f : PlainMapping → PlainMapping} (hline : ∀ m, (f m).line = m.line)
    (hcolumn : ∀ m, (f m).column = m.column) (ms : List PlainMapping) :
    answer line column (ms.map f) = (answer line column ms).map f := by
  induction ms with
  | nil => rfl
  | cons m rest ih =>
      have hcandidate : (f m).isCandidate line column = m.isCandidate line column := by
        unfold isCandidate
        rw [hline, hcolumn]
      rw [List.map_cons, answer, answer, ih, hcandidate]
      by_cases hm : m.isCandidate line column = true
      · rw [if_pos hm, if_pos hm]
        cases answer line column rest with
        | none => rfl
        | some best =>
            simp only [Option.map_some, better, hcolumn]
            by_cases hlt : best.column < m.column
            · rw [if_pos hlt, if_pos hlt]
            · rw [if_neg hlt, if_neg hlt]
      · rw [if_neg hm, if_neg hm]

/-! ## What the index finds -/

/-- Whether the mapping does not start after a column. -/
def startsBy (column : Int) (m : PlainMapping) : Bool := decide (m.column ≤ column)

/-- Whether the second of two mappings of a line may follow the first. -/
def columnNotAfter (a b : PlainMapping) : Bool := decide (a.column ≤ b.column)

/-- The mappings of a line in the order of their columns. -/
def lineSorted (line : Int) (ms : List PlainMapping) : List PlainMapping :=
  (ms.filter fun m => m.line == line).mergeSort columnNotAfter

theorem columnNotAfter_trans (a b c : PlainMapping) (hab : columnNotAfter a b = true)
    (hbc : columnNotAfter b c = true) : columnNotAfter a c = true := by
  unfold columnNotAfter at *
  rw [decide_eq_true_eq] at *
  omega

theorem columnNotAfter_total (a b : PlainMapping) :
    (columnNotAfter a b || columnNotAfter b a) = true := by
  unfold columnNotAfter
  rw [Bool.or_eq_true, decide_eq_true_eq, decide_eq_true_eq]
  omega

/-- Where a condition fails from some element on, the elements before it
    are all that meet it. -/
theorem takeWhile_eq_filter {α : Type} {p : α → Bool} {xs : List α}
    (h : xs.Pairwise fun a b => p b = true → p a = true) : xs.takeWhile p = xs.filter p := by
  induction xs with
  | nil => rfl
  | cons x rest ih =>
      obtain ⟨hx, hrest⟩ := List.pairwise_cons.mp h
      cases hp : p x with
      | true => rw [List.takeWhile_cons_of_pos hp, List.filter_cons_of_pos hp, ih hrest]
      | false =>
          have hnone : rest.filter p = [] := by
            rw [List.filter_eq_nil_iff]
            intro y hy hpy
            rw [hx y hy hpy] at hp
            exact nomatch hp
          rw [List.takeWhile_cons_of_neg (by rw [hp]; decide),
            List.filter_cons_of_neg (by rw [hp]; decide), hnone]

/-- Of an ordered line with a candidate in its place, the last one not
    after the column is the better of the candidate and what the other
    mappings give. -/
theorem getLast?_insert {before behind : List PlainMapping}
    (hm : m.startsBy column = true)
    (hbefore : ∀ x ∈ before, x.column < m.column) (hbehind : ∀ x ∈ behind, m.column ≤ x.column) :
    ((before ++ m :: behind).filter (startsBy column)).getLast?
      = some (m.better ((before ++ behind).filter (startsBy column)).getLast?) := by
  rw [List.filter_append, List.filter_append, List.filter_cons_of_pos hm, List.getLast?_append,
    List.getLast?_append, List.getLast?_cons]
  cases hlast : (behind.filter (startsBy column)).getLast? with
  | some best =>
      have hge := hbehind best (List.mem_filter.mp (List.mem_of_getLast? hlast)).1
      exact (congrArg some (if_neg (Int.not_lt.mpr hge))).symm
  | none =>
      cases hfront : (before.filter (startsBy column)).getLast? with
      | none => rfl
      | some best =>
          have hlt := hbefore best (List.mem_filter.mp (List.mem_of_getLast? hfront)).1
          exact (congrArg some (if_pos hlt)).symm

/-- An ordered line is in the order of columns. -/
theorem lineSorted_pairwise (line : Int) (ms : List PlainMapping) :
    (lineSorted line ms).Pairwise fun a b => a.column ≤ b.column := by
  refine (List.pairwise_mergeSort columnNotAfter_trans columnNotAfter_total _).imp ?_
  exact fun {a b} hab => of_decide_eq_true hab

/-- A mapping put in front of others takes its place on their ordered
    line: behind those that start before it and in front of all others. -/
theorem lineSorted_cons (hline : m.line = line) (rest : List PlainMapping) :
    ∃ before behind, lineSorted line (m :: rest) = before ++ m :: behind
      ∧ lineSorted line rest = before ++ behind
      ∧ (∀ x ∈ before, x.column < m.column) ∧ ∀ x ∈ behind, m.column ≤ x.column := by
  obtain ⟨before, behind, hall, hothers, hbefore⟩ :=
    List.mergeSort_cons columnNotAfter_trans columnNotAfter_total m
      (rest.filter fun m => m.line == line)
  have hinsert : lineSorted line (m :: rest) = before ++ m :: behind := by
    rw [lineSorted, List.filter_cons_of_pos (by rw [beq_iff_eq]; exact hline), hall]
  have hordered := lineSorted_pairwise line (m :: rest)
  rw [hinsert, List.pairwise_append, List.pairwise_cons] at hordered
  refine ⟨before, behind, hinsert, hothers, fun x hx => ?_, hordered.2.1.1⟩
  have hx' := hbefore x hx
  simpa [columnNotAfter] using hx'

/-- A mapping of another line is not on an ordered line. -/
theorem lineSorted_cons_of_ne (hline : m.line ≠ line) (rest : List PlainMapping) :
    lineSorted line (m :: rest) = lineSorted line rest := by
  unfold lineSorted
  rw [List.filter_cons_of_neg (by simpa using hline)]

/-- Of an ordered line the last mapping that is not after the column is
    the answer.  The scan prefers a mapping to those that start before it
    only, which are the ones in front of its place. -/
theorem getLast?_filter_lineSorted (line column : Int) (ms : List PlainMapping) :
    ((lineSorted line ms).filter (startsBy column)).getLast? = answer line column ms := by
  induction ms with
  | nil => simp [lineSorted, answer]
  | cons m rest ih =>
      by_cases hline : m.line = line
      · obtain ⟨before, behind, hinsert, hrest, hbefore, hbehind⟩ := lineSorted_cons hline rest
        by_cases hm : m.startsBy column = true
        · have hcandidate : m.isCandidate line column = true :=
            decide_eq_true ⟨hline, of_decide_eq_true hm⟩
          rw [hinsert, getLast?_insert hm hbefore hbehind, ← hrest, ih, answer, if_pos hcandidate]
        · have hcandidate : ¬m.isCandidate line column = true := fun h =>
            hm (decide_eq_true (of_decide_eq_true h).2)
          rw [answer, if_neg hcandidate, ← ih, hinsert, hrest, List.filter_append,
            List.filter_append, List.filter_cons_of_neg hm]
      · have hcandidate : ¬m.isCandidate line column = true := fun h =>
          hline (of_decide_eq_true h).1
        rw [lineSorted_cons_of_ne hline, ih, answer, if_neg hcandidate]

/-- The search of an ordered line up to the column finds the answer. -/
theorem getLast?_lineSorted (line column : Int) (ms : List PlainMapping) :
    ((lineSorted line ms).takeWhile (startsBy column)).getLast? = answer line column ms := by
  have hprefix : (lineSorted line ms).Pairwise fun a b =>
      b.startsBy column = true → a.startsBy column = true :=
    (lineSorted_pairwise line ms).imp fun {a b} hab hb =>
      decide_eq_true (Int.le_trans hab (of_decide_eq_true hb))
  rw [takeWhile_eq_filter hprefix, getLast?_filter_lineSorted]

/-- The entry of a key among those made from a list of keys. -/
theorem get?_map_of_mem {α : Type} {keys : List Json} {g : Json → α} {y : Json}
    (hkey : ∀ x ∈ keys, x.same y = true → x = y) (hy : y ∈ keys) :
    Json.Table.get? (keys.map fun x => (x, g x)) y = some (g y) := by
  induction keys with
  | nil => exact nomatch hy
  | cons x rest ih =>
      rw [List.map_cons, Json.Table.get?]
      by_cases hx : x.same y = true
      · rw [if_pos hx, hkey x (List.mem_cons_self ..) hx]
      · rw [if_neg hx]
        exact ih (fun z hz => hkey z (List.mem_cons_of_mem _ hz)) (mem_of_not_same hx hy)

/-- A key that is not in a list has no entry among those made from it. -/
theorem get?_map_of_not_mem {α : Type} {keys : List Json} {g : Json → α} {y : Json}
    (hkey : ∀ x ∈ keys, x.same y = true → x = y) (hy : y ∉ keys) :
    Json.Table.get? (keys.map fun x => (x, g x)) y = none := by
  induction keys with
  | nil => rfl
  | cons x rest ih =>
      have hx : ¬x.same y = true := fun hsame =>
        hy (by rw [hkey x (List.mem_cons_self ..) hsame]; exact List.mem_cons_self ..)
      rw [List.map_cons, Json.Table.get?, if_neg hx]
      exact ih (fun z hz => hkey z (List.mem_cons_of_mem _ hz))
        fun hmem => hy (List.mem_cons_of_mem _ hmem)

/-- The lines that occur are the first uses of lines. -/
theorem linesOf_eq_firstUses (ms : List Mapping) : linesOf ms = firstUses (ms.map (·.line)) := by
  induction ms with
  | nil => rfl
  | cons m rest ih => rw [linesOf, ih, List.map_cons, firstUses]

/-- Lines of plain mappings are told apart as integers. -/
theorem eq_of_same_line {x : Json} (hx : x ∈ linesOf (ms.map toMapping))
    (hsame : x.same (.int line) = true) : x = .int line := by
  rw [linesOf_eq_firstUses] at hx
  have hmem := mem_of_mem_firstUses hx
  rw [List.map_map] at hmem
  obtain ⟨m, -, rfl⟩ := List.mem_map.mp hmem
  have heq : (m.line == line) = true := hsame
  exact congrArg Json.int (beq_iff_eq.mp heq)

/-- The line of every mapping occurs. -/
theorem line_mem_linesOf (hm : m ∈ ms) : Json.int m.line ∈ linesOf (ms.map toMapping) := by
  have hlines : Json.int m.line ∈ (ms.map toMapping).map (·.line) := by
    rw [List.map_map]
    exact List.mem_map.mpr ⟨m, hm, rfl⟩
  rw [linesOf_eq_firstUses]
  refine mem_firstUses (fun x hx hsame => ?_) hlines
  rw [List.map_map] at hx
  obtain ⟨y, -, rfl⟩ := List.mem_map.mp hx
  have heq : (y.line == m.line) = true := hsame
  exact congrArg Json.int (beq_iff_eq.mp heq)

/-- The index of plain mappings. -/
def lineIndex (ms : List PlainMapping) : LineIndex :=
  (linesOf (ms.map toMapping)).map fun line => (line, sortedColumns (onLine (ms.map toMapping) line))

/-- Plain mappings can always be indexed. -/
theorem ofMappings_toMapping (ms : List PlainMapping) :
    LineIndex.ofMappings (ms.map toMapping) = .ok (lineIndex ms) := by
  have hscalar : (ms.map toMapping).all (·.line.isScalar) = true := by
    rw [List.all_eq_true]
    intro x hx
    obtain ⟨m, -, rfl⟩ := List.mem_map.mp hx
    rfl
  have hcolumns : ∀ line, sortColumns (onLine (ms.map toMapping) line)
      = .ok (sortedColumns (onLine (ms.map toMapping) line)) := by
    intro line
    refine if_pos (List.all_eq_true.mpr fun x hx => ?_)
    obtain ⟨m, -, rfl⟩ := List.mem_map.mp (List.mem_filter.mp hx).1
    rfl
  unfold LineIndex.ofMappings
  rw [if_pos hscalar]
  exact mapM_of_forall fun line _ => bind_of_eq_ok (hcolumns line)

/-- The mappings of a line, in order, are those of the plain mappings. -/
theorem sortedColumns_onLine (line : Int) (ms : List PlainMapping) :
    sortedColumns (onLine (ms.map toMapping) (.int line)) = (lineSorted line ms).map toMapping := by
  have honLine : onLine (ms.map toMapping) (.int line)
      = (ms.filter fun m => m.line == line).map toMapping := List.filter_map ..
  have hless : ∀ a b : PlainMapping,
      columnNotAfter a b = !b.toMapping.column.less a.toMapping.column := by
    intro a b
    show _ = !decide (b.column < a.column)
    unfold columnNotAfter
    rw [← decide_not, decide_eq_decide]
    omega
  rw [honLine, sortedColumns, lineSorted]
  exact (List.map_mergeSort fun a _ b _ => hless a b).symm

/-- On an ordered line the index finds the answer. -/
theorem lastBefore_lineSorted (line column : Int) (ms : List PlainMapping) :
    LineIndex.lastBefore (.int column) ((lineSorted line ms).map toMapping)
      = .ok ((answer line column ms).map toMapping) := by
  have hplain : ((Json.int column).isMagnitude
      && havePlainColumns ((lineSorted line ms).map toMapping)) = true := by
    refine Bool.and_eq_true_iff.mpr ⟨rfl, List.all_eq_true.mpr fun x hx => ?_⟩
    obtain ⟨m, -, rfl⟩ := List.mem_map.mp hx
    rfl
  have hless : ((fun m : Mapping => !(Json.int column).less m.column) ∘ toMapping)
      = startsBy column := by
    funext m
    show (!decide (column < m.column)) = _
    unfold startsBy
    rw [← decide_not, decide_eq_decide]
    omega
  unfold LineIndex.lastBefore
  rw [if_pos hplain, LineIndex.lastNotAfter, List.takeWhile_map, hless, List.getLast?_map,
    getLast?_lineSorted]

/-- **The index answers with the hit**: with the answer to the query if it
    has a source, and with nothing otherwise. -/
theorem sourcePosition_lineIndex (line column : Int) (ms : List PlainMapping) :
    (lineIndex ms).sourcePosition (.int line) (.int column)
      = .ok ((hit line column ms).map toMapping) := by
  have hkeys : ∀ x ∈ linesOf (ms.map toMapping), x.same (.int line) = true → x = .int line :=
    fun x hx => eq_of_same_line hx
  have hscalar : (Json.int line).isScalar = true := rfl
  unfold LineIndex.sourcePosition
  rw [if_pos hscalar]
  by_cases hline : Json.int line ∈ linesOf (ms.map toMapping)
  · rw [lineIndex, get?_map_of_mem hkeys hline, sortedColumns_onLine]
    show (LineIndex.lastBefore _ _ >>= fun hit => _) = _
    rw [bind_of_eq_ok (lastBefore_lineSorted line column ms), hit]
    cases answer line column ms with
    | none => rfl
    | some m =>
        show Except.ok ((some m.toMapping).filter fun m => !m.source.isNull) = _
        rw [Option.filter_some, Option.filter_some, toMapping, textValue_isNull, Bool.not_not]
        split <;> rfl
  · have hnone : answer line column ms = none := by
      rw [answer_eq_none_iff]
      intro m hm
      refine decide_eq_false fun h => hline ?_
      rw [← h.1]
      exact line_mem_linesOf hm
    rw [lineIndex, get?_map_of_not_mem hkeys hline, hit, hnone]
    rfl

/-- A lookup among plain mappings finds the hit. -/
theorem sourcePosition_toMapping (line column : Int) (ms : List PlainMapping) :
    sourcePosition (ms.map toMapping) (.int line) (.int column)
      = .ok ((hit line column ms).map toMapping) := by
  unfold sourcePosition
  rw [bind_of_eq_ok (ofMappings_toMapping ms)]
  exact sourcePosition_lineIndex line column ms

end PlainMapping

end HermesBundle.SourceMap
