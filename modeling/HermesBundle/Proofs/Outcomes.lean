import Mathlib.Data.List.Forall2

/-! # Outcomes — what a computation that may fail consisted of

    A computation that may fail and gave a result has a result for each
    of its steps.  A list of computations that all succeed has one result
    for each element, in the same order.  A computation that fails has
    the failure of one of its steps (`FailsOnly`). -/

namespace HermesBundle.Outcome

variable {ε α β γ : Type}

/-- A sequence succeeds if its first step does, and the rest with that
    result. -/
theorem bind_eq_ok {x : Except ε α} {f : α → Except ε β} {b : β} :
    (x >>= f) = .ok b ↔ ∃ a, x = .ok a ∧ f a = .ok b := by
  cases x with
  | error e => simp [bind, Except.bind]
  | ok a => simp [bind, Except.bind]

/-- A result that is given succeeds with itself. -/
theorem pure_eq_ok {a b : α} : (pure a : Except ε α) = .ok b ↔ a = b := by
  simp [pure, Except.pure]

/-- Sequences of a step that succeeds. -/
theorem bind_of_eq_ok {x : Except ε α} {f : α → Except ε β} {a : α} (h : x = .ok a) :
    (x >>= f) = f a := by
  rw [h]
  rfl

/-- Computations on a list succeed if each of them does. -/
theorem mapM_eq_ok {f : α → Except ε β} {xs : List α} {ys : List β} :
    xs.mapM f = .ok ys ↔ List.Forall₂ (fun x y => f x = .ok y) xs ys := by
  induction xs generalizing ys with
  | nil =>
      rw [List.mapM_nil, pure_eq_ok, List.forall₂_nil_left_iff]
      exact eq_comm
  | cons x rest ih =>
      rw [List.mapM_cons, bind_eq_ok, List.forall₂_cons_left_iff]
      constructor
      · rintro ⟨y, hy, h⟩
        obtain ⟨more, hmore, hys⟩ := bind_eq_ok.mp h
        exact ⟨y, more, hy, ih.mp hmore, (pure_eq_ok.mp hys).symm⟩
      · rintro ⟨y, more, hy, hmore, rfl⟩
        refine ⟨y, hy, ?_⟩
        rw [bind_of_eq_ok (ih.mpr hmore)]
        rfl

/-- Computations that are known element by element give a list of known
    results. -/
theorem mapM_of_forall {f : α → Except ε β} {g : α → β} {xs : List α}
    (h : ∀ x ∈ xs, f x = .ok (g x)) : xs.mapM f = .ok (xs.map g) := by
  rw [mapM_eq_ok, List.forall₂_map_right_iff]
  exact List.forall₂_same.mpr h

/-- Computations that give results of a kind give a list of such. -/
theorem exists_mapM {f : α → Except ε β} {P : β → Prop} {xs : List α}
    (h : ∀ x ∈ xs, ∃ y, f x = .ok y ∧ P y) : ∃ ys, xs.mapM f = .ok ys ∧ ∀ y ∈ ys, P y := by
  induction xs with
  | nil => exact ⟨[], rfl, fun y hy => nomatch hy⟩
  | cons x rest ih =>
      obtain ⟨⟨y, hy, hone⟩, hrest⟩ := List.forall_mem_cons.mp h
      obtain ⟨ys, hys, hall⟩ := ih hrest
      refine ⟨y :: ys, ?_, List.forall_mem_cons.mpr ⟨hone, hall⟩⟩
      rw [List.mapM_cons, bind_of_eq_ok hy, bind_of_eq_ok hys]
      rfl

/-- Every result is that of an element. -/
theorem exists_of_mem_mapM {f : α → Except ε β} {xs : List α} {ys : List β} {y : β}
    (h : xs.mapM f = .ok ys) (hy : y ∈ ys) : ∃ x ∈ xs, f x = .ok y := by
  have hall := mapM_eq_ok.mp h
  clear h
  induction hall with
  | nil => exact nomatch hy
  | @cons x z _ _ hhead _ ih =>
      rcases List.mem_cons.mp hy with heq | hrest
      · exact ⟨x, List.mem_cons_self .., by rw [heq]; exact hhead⟩
      · obtain ⟨x', hmem, hx'⟩ := ih hrest
        exact ⟨x', List.mem_cons_of_mem _ hmem, hx'⟩

/-- Computations on lists of elements for which they agree. -/
theorem mapM_congr {f : α → Except ε β} {xs ys : List α}
    (h : List.Forall₂ (fun x y => f y = f x) xs ys) : ys.mapM f = xs.mapM f := by
  induction h with
  | nil => rfl
  | cons hhead _ ih => rw [List.mapM_cons, List.mapM_cons, hhead, ih]

/-- Computations on a list that each change what others give. -/
theorem mapM_eq_map_mapM {f : α → Except ε γ} {g : α → Except ε β} {h : β → γ}
    (hfg : ∀ x, f x = (g x).map h) (xs : List α) : xs.mapM f = (xs.mapM g).map (List.map h) := by
  induction xs with
  | nil => rfl
  | cons x rest ih =>
      rw [List.mapM_cons, List.mapM_cons, hfg, ih]
      cases g x with
      | error e => rfl
      | ok y =>
          cases rest.mapM g with
          | error e => rfl
          | ok ys => rfl

/-- Computations on a list succeed in front of an element, on it and
    behind it. -/
theorem exists_of_mapM_append_cons {f : α → Except ε β} {before behind : List α} {x : α}
    {ys : List β} (h : (before ++ x :: behind).mapM f = .ok ys) :
    ∃ front y rear, before.mapM f = .ok front ∧ f x = .ok y ∧ behind.mapM f = .ok rear
      ∧ front ++ y :: rear = ys := by
  rw [List.mapM_append] at h
  obtain ⟨front, hfront, h⟩ := bind_eq_ok.mp h
  obtain ⟨rest, hrest, h⟩ := bind_eq_ok.mp h
  obtain rfl := pure_eq_ok.mp h
  rw [List.mapM_cons] at hrest
  obtain ⟨y, hy, hrest⟩ := bind_eq_ok.mp hrest
  obtain ⟨rear, hrear, hrest⟩ := bind_eq_ok.mp hrest
  obtain rfl := pure_eq_ok.mp hrest
  exact ⟨front, y, rear, hfront, hy, hrear, rfl⟩

/-! ## Failures -/

/-- If a computation fails then in one of some ways. -/
def FailsOnly (P : ε → Prop) (x : Except ε α) : Prop := ∀ e, x = .error e → P e

variable {P : ε → Prop}

/-- What succeeds does not fail. -/
theorem FailsOnly.ok (a : α) : FailsOnly P (.ok a : Except ε α) := fun _ h => nomatch h

/-- What fails does so in one way. -/
theorem FailsOnly.error {e : ε} (h : P e) : FailsOnly P (.error e : Except ε α) :=
  fun _ he => Except.error.inj he ▸ h

/-- A sequence fails as one of its steps does. -/
theorem FailsOnly.bind {x : Except ε α} {f : α → Except ε β} (hx : FailsOnly P x)
    (hf : ∀ a, x = .ok a → FailsOnly P (f a)) : FailsOnly P (x >>= f) := by
  cases x with
  | error e => exact .error (hx e rfl)
  | ok a => exact hf a rfl

/-- Computations on a list fail as one of them does. -/
theorem FailsOnly.mapM {f : α → Except ε β} {xs : List α} (h : ∀ x ∈ xs, FailsOnly P (f x)) :
    FailsOnly P (xs.mapM f) := by
  induction xs with
  | nil => exact .ok []
  | cons x rest ih =>
      obtain ⟨hx, hrest⟩ := List.forall_mem_cons.mp h
      rw [List.mapM_cons]
      exact hx.bind fun y _ => (ih hrest).bind fun more _ => .ok (y :: more)

end HermesBundle.Outcome
