import HermesBundle.Text.CodePoint

/-! # Pieces — joining and cutting are the list library's own

    A text is a list, and the library knows how lists are joined and cut.
    The two agree with ours, so its laws hold here: pieces that do not
    hold the separator come back from the text they were joined to
    (`splitOn_join`), dropping the separators from that text leaves the
    pieces in a row (`filter_join`), and a text is cut into pieces that do
    not hold it (`not_mem_of_mem_splitOn`). -/

namespace HermesBundle.Text

/-- Joining is intercalation. -/
theorem join_eq_intercalate (separator : Text) (ts : List Text) :
    join separator ts = separator.intercalate ts := by
  induction ts with
  | nil => rfl
  | cons t rest ih =>
      cases rest with
      | nil => exact List.intercalate_singleton.symm
      | cons u more =>
          rw [List.intercalate_cons_cons, ← ih]
          rfl

/-- Cutting is cutting at every element equal to the separator. -/
theorem splitOn_eq_list (separator : CodePoint) (t : Text) :
    splitOn separator t = List.splitOn separator t := by
  induction t with
  | nil => rfl
  | cons c rest ih =>
      rw [List.splitOn_cons_eq_if_modifyHead, splitOn, ih]
      by_cases hc : c = separator
      · rw [if_pos hc, if_pos (by rw [hc]; exact beq_self_eq_true _)]
      · rw [if_neg hc, if_neg (by rw [beq_iff_eq]; exact hc)]
        cases hrest : List.splitOn separator rest with
        | nil => exact absurd hrest (List.splitOn_ne_nil separator rest)
        | cons piece pieces => rfl

/-- Pieces without the separator come back from the text they were joined
    to. -/
theorem splitOn_join {separator : CodePoint} {ts : List Text} (hne : ts ≠ [])
    (hfree : ∀ t ∈ ts, separator ∉ t) :
    splitOn separator (join [separator] ts) = ts := by
  rw [splitOn_eq_list, join_eq_intercalate]
  exact List.splitOn_intercalate separator hfree hne

/-- **Separators are dropped without loss** from pieces that do not hold
    them. -/
theorem filter_join {separator : CodePoint} {ts : List Text}
    (hfree : ∀ t ∈ ts, separator ∉ t) :
    (join [separator] ts).filter (· ≠ separator) = ts.flatten := by
  have hkept {t : Text} (ht : separator ∉ t) : t.filter (· ≠ separator) = t := by
    rw [List.filter_eq_self]
    intro c hc
    exact decide_eq_true fun heq => ht (heq ▸ hc)
  have hdropped : [separator].filter (· ≠ separator) = [] :=
    List.filter_cons_of_neg (by simp)
  induction ts with
  | nil => rfl
  | cons t rest ih =>
      obtain ⟨ht, hrest⟩ := List.forall_mem_cons.mp hfree
      cases rest with
      | nil =>
          show t.filter (· ≠ separator) = [t].flatten
          rw [hkept ht, List.flatten_singleton]
      | cons u more =>
          show (t ++ [separator] ++ join [separator] (u :: more)).filter (· ≠ separator) = _
          rw [List.filter_append, List.filter_append, hkept ht, hdropped, ih hrest, List.append_nil]
          rfl

/-- A text is joined from its pieces. -/
theorem join_splitOn (separator : CodePoint) (t : Text) :
    join [separator] (splitOn separator t) = t := by
  rw [join_eq_intercalate, splitOn_eq_list]
  exact List.intercalate_splitOn separator

/-- A code point of a joined text stands in a piece or in the separator. -/
theorem mem_join {separator : Text} {c : CodePoint} {ts : List Text}
    (h : c ∈ join separator ts) : c ∈ separator ∨ ∃ t ∈ ts, c ∈ t := by
  induction ts with
  | nil => exact nomatch h
  | cons t rest ih =>
      cases rest with
      | nil => exact Or.inr ⟨t, List.mem_singleton.mpr rfl, h⟩
      | cons u more =>
          rcases List.mem_append.mp h with hleft | hright
          · rcases List.mem_append.mp hleft with ht | hs
            · exact Or.inr ⟨t, List.mem_cons_self .., ht⟩
            · exact Or.inl hs
          · rcases ih hright with hs | ⟨v, hv, hc⟩
            · exact Or.inl hs
            · exact Or.inr ⟨v, List.mem_cons_of_mem _ hv, hc⟩

/-- A last piece is joined to the others by the separator. -/
theorem join_concat (separator : Text) {ts : List Text} (hne : ts ≠ []) (t : Text) :
    join separator (ts ++ [t]) = join separator ts ++ separator ++ t := by
  induction ts with
  | nil => exact absurd rfl hne
  | cons first rest ih =>
      cases rest with
      | nil => rfl
      | cons second more =>
          have hmore := ih (List.cons_ne_nil _ _)
          show first ++ separator ++ join separator (second :: more ++ [t]) = _
          rw [hmore]
          show _ = first ++ separator ++ join separator (second :: more) ++ separator ++ t
          simp only [List.append_assoc]

/-- A text has pieces. -/
theorem splitOn_ne_nil (separator : CodePoint) (t : Text) : splitOn separator t ≠ [] := by
  rw [splitOn_eq_list]
  exact List.splitOn_ne_nil separator t

/-- The pieces before a separator and those after it. -/
theorem splitOn_append_cons (separator : CodePoint) (s t : Text) :
    splitOn separator (s ++ separator :: t) = splitOn separator s ++ splitOn separator t := by
  induction s with
  | nil => simp [splitOn]
  | cons c rest ih =>
      obtain ⟨piece, pieces, hpieces⟩ := List.exists_cons_of_ne_nil (splitOn_ne_nil separator rest)
      rw [hpieces] at ih
      by_cases hc : c = separator
      · simp [splitOn, hc, ih, hpieces]
      · simp [splitOn, hc, ih, hpieces]

/-- There is one piece more than there are separators. -/
theorem length_splitOn (separator : CodePoint) (t : Text) :
    (splitOn separator t).length = t.count separator + 1 := by
  induction t with
  | nil => rfl
  | cons c rest ih =>
      obtain ⟨piece, pieces, hpieces⟩ := List.exists_cons_of_ne_nil (splitOn_ne_nil separator rest)
      rw [hpieces, List.length_cons] at ih
      by_cases hc : c = separator
      · simp [splitOn, hc, hpieces, ih]
      · simp [splitOn, hc, hpieces, ih]

/-- No piece holds the separator. -/
theorem not_mem_of_mem_splitOn {separator : CodePoint} {t piece : Text}
    (h : piece ∈ splitOn separator t) : separator ∉ piece := by
  induction t generalizing piece with
  | nil =>
      obtain rfl := List.mem_singleton.mp h
      exact List.not_mem_nil
  | cons c rest ih =>
      obtain ⟨first, pieces, hpieces⟩ := List.exists_cons_of_ne_nil (splitOn_ne_nil separator rest)
      rw [hpieces] at ih
      unfold splitOn at h
      rw [hpieces] at h
      split at h
      · rcases List.mem_cons.mp h with rfl | hrest
        · exact List.not_mem_nil
        · exact ih hrest
      · rename_i hc
        rcases List.mem_cons.mp h with rfl | hrest
        · intro hmem
          rcases List.mem_cons.mp hmem with heq | hfirst
          · exact hc heq.symm
          · exact ih (List.mem_cons_self ..) hfirst
        · exact ih (List.mem_cons_of_mem _ hrest)

/-- A text without the separator is its only piece. -/
theorem splitOn_of_not_mem {separator : CodePoint} {t : Text} (h : separator ∉ t) :
    splitOn separator t = [t] :=
  splitOn_join (List.cons_ne_nil t []) fun _ hpiece => List.mem_singleton.mp hpiece ▸ h

end HermesBundle.Text
