import HermesBundle.Machine
import Mathlib

/-! # Performed actions — what comes of a sequence of steps

    An action that is performed on a machine gives a value or fails, and
    leaves a machine behind either way.  What a sequence comes to is known
    from its steps:

    * a sequence gives a value if all its steps do (`gives_bind`);
    * it fails where its first failing step does, and leaves the machine
      that this step leaves (`failsWith_bind`);
    * an action for each of some values does so as well (`gives_mapM`,
      `failsWith_mapM`);
    * it leaves the files alone if all its steps do
      (`LeavesFiles.bind`). -/

namespace HermesBundle

/-- The machine with one more record in its log. -/
def Machine.noting (m : Machine) (level : LogLevel) (origin : String) (message : Text) : Machine :=
  { m with log := m.log ++ [⟨level, origin, message⟩] }

namespace Action

variable {α β : Type}

/-- Whether an action gives a value and leaves a machine. -/
def Gives (x : Action α) (m : Machine) (a : α) (after : Machine) : Prop :=
  x.perform m = (.ok a, after)

/-- Whether an action fails and leaves a machine. -/
def FailsWith (x : Action α) (m : Machine) (f : Failure) (after : Machine) : Prop :=
  x.perform m = (.error f, after)

/-- What an action gives is settled by the machine. -/
theorem Gives.unique {x : Action α} {m after after' : Machine} {a a' : α} (h : x.Gives m a after)
    (h' : x.Gives m a' after') : a = a' ∧ after = after' := by
  obtain ⟨hvalue, hmachine⟩ := Prod.mk.inj (h.symm.trans h')
  exact ⟨Except.ok.inj hvalue, hmachine⟩

/-! ## Single steps -/

@[simp] theorem perform_pure (a : α) (m : Machine) : (pure a : Action α).perform m = (.ok a, m) :=
  rfl

@[simp] theorem perform_throw (f : Failure) (m : Machine) :
    (throw f : Action α).perform m = (.error f, m) := rfl

@[simp] theorem perform_get (m : Machine) : (get : Action Machine).perform m = (.ok m, m) := rfl

@[simp] theorem perform_set (next m : Machine) :
    (set next : Action PUnit).perform m = (.ok ⟨⟩, next) := rfl

@[simp] theorem perform_record (level : LogLevel) (origin : String) (message : Text) (m : Machine) :
    (record level origin message).perform m = (.ok (), m.noting level origin message) := rfl

@[simp] theorem perform_settle (files : FileSystem) (m : Machine) :
    (settle files).perform m = (.ok (), { m with files := files, here := files.settle m.here }) :=
  rfl

@[simp] theorem perform_attempt (x : Action α) (m : Machine) :
    (attempt x).perform m = (.ok (x.perform m).1, (x.perform m).2) := rfl

@[simp] theorem perform_ofExcept {ε : Type} (failure : ε → Failure) (x : Except ε α) (m : Machine) :
    (ofExcept failure x).perform m = (x.mapError failure, m) := by
  cases x <;> rfl

/-- An outcome that is taken over as it is. -/
@[simp] theorem perform_ofExcept_id (outcome : Except Failure α) (m : Machine) :
    (ofExcept id outcome).perform m = (outcome, m) := by
  cases outcome <;> rfl

/-! ## Sequences -/

theorem perform_bind (x : Action α) (f : α → Action β) (m : Machine) :
    (x >>= f).perform m =
      match x.perform m with
      | (.ok a, middle) => (f a).perform middle
      | (.error e, after) => (.error e, after) := by
  show (ExceptT.bindCont f (x.perform m).1).run (x.perform m).2 = _
  rcases x.perform m with ⟨_ | a, after⟩ <;> rfl

/-- A sequence whose first step gives a value goes on with it. -/
theorem perform_bind_of_gives {x : Action α} {m middle : Machine} {a : α} (h : x.Gives m a middle)
    (f : α → Action β) : (x >>= f).perform m = (f a).perform middle := by
  rw [perform_bind, h]

/-- A sequence whose first step fails ends there. -/
theorem perform_bind_of_failsWith {x : Action α} {m after : Machine} {e : Failure}
    (h : x.FailsWith m e after) (f : α → Action β) : (x >>= f).perform m = (.error e, after) := by
  rw [perform_bind, h]

/-- An action either gives a value or fails. -/
theorem gives_or_failsWith (x : Action α) (m : Machine) :
    (∃ a after, x.Gives m a after) ∨ ∃ f after, x.FailsWith m f after := by
  unfold Gives FailsWith
  rcases x.perform m with ⟨f | a, after⟩
  · exact .inr ⟨f, after, rfl⟩
  · exact .inl ⟨a, after, rfl⟩

/-- What a sequence gives is given by its second step. -/
theorem gives_bind {x : Action α} {f : α → Action β} {m after : Machine} {b : β} :
    (x >>= f).Gives m b after ↔ ∃ a middle, x.Gives m a middle ∧ (f a).Gives middle b after := by
  unfold Gives
  rw [perform_bind]
  rcases x.perform m with ⟨e | a, middle⟩
  · simp
  · constructor
    · exact fun h => ⟨a, middle, rfl, h⟩
    · rintro ⟨_, _, heq, h⟩
      cases heq
      exact h

/-- A sequence fails in its first step or in its second. -/
theorem failsWith_bind {x : Action α} {f : α → Action β} {m after : Machine} {e : Failure} :
    (x >>= f).FailsWith m e after
      ↔ x.FailsWith m e after
        ∨ ∃ a middle, x.Gives m a middle ∧ (f a).FailsWith middle e after := by
  unfold FailsWith Gives
  rw [perform_bind]
  rcases x.perform m with ⟨e' | a, middle⟩
  · simp
  · constructor
    · exact fun h => .inr ⟨a, middle, rfl, h⟩
    · rintro (h | ⟨_, _, heq, h⟩)
      · exact nomatch h
      · cases heq
        exact h

/-- An action for each of some values gives what the single ones give. -/
theorem gives_mapM {f : α → Action β} {g : α → β} {m : Machine} {xs : List α}
    (h : ∀ x ∈ xs, (f x).Gives m (g x) m) : (xs.mapM f).Gives m (xs.map g) m := by
  induction xs with
  | nil => rfl
  | cons x rest ih =>
      rw [List.forall_mem_cons] at h
      rw [List.mapM_cons]
      refine (perform_bind_of_gives h.1 _).trans ?_
      exact perform_bind_of_gives (ih h.2) _

/-- It fails where the first of them fails. -/
theorem failsWith_mapM {f : α → Action β} {g : α → β} {m after : Machine} {e : Failure}
    {before rest : List α} {x : α} (hbefore : ∀ y ∈ before, (f y).Gives m (g y) m)
    (hx : (f x).FailsWith m e after) : ((before ++ x :: rest).mapM f).FailsWith m e after := by
  induction before with
  | nil =>
      rw [List.nil_append, List.mapM_cons]
      exact perform_bind_of_failsWith hx _
  | cons y more ih =>
      rw [List.forall_mem_cons] at hbefore
      rw [List.cons_append, List.mapM_cons]
      refine (perform_bind_of_gives hbefore.1 _).trans ?_
      exact perform_bind_of_failsWith (ih hbefore.2) _

/-- An action is described by a relation that always says what becomes of
    it, and never anything else. -/
theorem perform_iff {x : Action α} {m : Machine} {describes : Except Failure α → Machine → Prop}
    (htotal : ∃ outcome after, describes outcome after)
    (hsound : ∀ outcome after, describes outcome after → x.perform m = (outcome, after))
    {outcome : Except Failure α} {after : Machine} :
    x.perform m = (outcome, after) ↔ describes outcome after := by
  constructor
  · intro hperform
    obtain ⟨outcome', after', hdescribed⟩ := htotal
    obtain ⟨rfl, rfl⟩ := Prod.mk.inj (hperform.symm.trans (hsound outcome' after' hdescribed))
    exact hdescribed
  · exact hsound outcome after

/-- An attempt that has a value is one of an action that gives it. -/
theorem gives_of_attempt {x : Action α} {m after : Machine} {a : α}
    (h : (attempt x).Gives m (.ok a) after) : x.Gives m a after := by
  obtain ⟨hvalue, hmachine⟩ := Prod.mk.inj h
  exact Prod.ext (Except.ok.inj hvalue) hmachine

theorem gives_get {m a after : Machine} :
    (get : Action Machine).Gives m a after ↔ a = m ∧ after = m := by
  simp only [Gives, perform_get, Prod.mk.injEq, Except.ok.injEq]
  exact and_congr eq_comm eq_comm

/-- A sequence that takes the machine first goes on with it. -/
theorem gives_get_bind {f : Machine → Action β} {m after : Machine} {b : β} :
    (get >>= f).Gives m b after ↔ (f m).Gives m b after := by
  unfold Gives
  rw [perform_bind, perform_get]

theorem gives_set {next m after : Machine} :
    (set next : Action PUnit).Gives m ⟨⟩ after ↔ after = next := by
  simp only [Gives, perform_set, Prod.mk.injEq, true_and]
  exact eq_comm

theorem gives_pure {a b : α} {m after : Machine} :
    (pure a : Action α).Gives m b after ↔ a = b ∧ m = after := by
  simp [Gives]

/-- The result of a function is given as it is. -/
theorem gives_ofExcept {ε : Type} {failure : ε → Failure} {x : Except ε α} {m after : Machine}
    {a : α} : (ofExcept failure x).Gives m a after ↔ x = .ok a ∧ m = after := by
  unfold Gives
  rw [perform_ofExcept, Prod.mk.injEq]
  cases x with
  | ok b => exact and_congr_left' (by rw [Except.mapError, Except.ok.injEq, Except.ok.injEq])
  | error e => exact ⟨fun h => (nomatch h.1), fun h => nomatch h.1⟩

/-- So is its failure, under its name here. -/
theorem failsWith_ofExcept {ε : Type} {failure : ε → Failure} {x : Except ε α} {m after : Machine}
    {f : Failure} :
    (ofExcept failure x).FailsWith m f after ↔ (∃ e, x = .error e ∧ failure e = f) ∧ m = after := by
  unfold FailsWith
  rw [perform_ofExcept, Prod.mk.injEq]
  cases x with
  | ok b => exact ⟨fun h => (nomatch h.1), fun ⟨⟨_, h, _⟩, _⟩ => nomatch h⟩
  | error e =>
      constructor
      · rintro ⟨h, rfl⟩
        exact ⟨⟨e, rfl, Except.error.inj h⟩, rfl⟩
      · rintro ⟨⟨_, h, rfl⟩, rfl⟩
        obtain rfl := Except.error.inj h
        exact ⟨rfl, rfl⟩

/-! ## Actions that leave the files alone -/

/-- Whether an action leaves the files as they are, and the current
    directory. -/
def LeavesFiles (x : Action α) : Prop :=
  ∀ m, (x.perform m).2.files = m.files ∧ (x.perform m).2.here = m.here

theorem LeavesFiles.pure (a : α) : LeavesFiles (Pure.pure a : Action α) := fun _ => ⟨rfl, rfl⟩

theorem LeavesFiles.throw (f : Failure) : LeavesFiles (throwThe Failure f : Action α) :=
  fun _ => ⟨rfl, rfl⟩

theorem LeavesFiles.get : LeavesFiles (MonadState.get : Action Machine) := fun _ => ⟨rfl, rfl⟩

/-- A sequence leaves the files alone if its first step does, and the
    second with whatever the first one gives. -/
theorem LeavesFiles.bind_of_gives {x : Action α} {f : α → Action β} (hx : LeavesFiles x)
    (hf : ∀ a m after, x.Gives m a after → LeavesFiles (f a)) : LeavesFiles (x >>= f) := by
  intro m
  have hfirst := hx m
  rcases gives_or_failsWith x m with ⟨a, middle, hgives⟩ | ⟨e, after, hfails⟩
  · rw [hgives] at hfirst
    rw [perform_bind_of_gives hgives]
    have hsecond := hf a m middle hgives middle
    exact ⟨hsecond.1.trans hfirst.1, hsecond.2.trans hfirst.2⟩
  · rw [hfails] at hfirst
    rw [perform_bind_of_failsWith hfails]
    exact hfirst

theorem LeavesFiles.bind {x : Action α} {f : α → Action β} (hx : LeavesFiles x)
    (hf : ∀ a, LeavesFiles (f a)) : LeavesFiles (x >>= f) :=
  hx.bind_of_gives fun a _ _ _ => hf a

theorem LeavesFiles.record (level : LogLevel) (origin : String) (message : Text) :
    LeavesFiles (Action.record level origin message) := fun _ => ⟨rfl, rfl⟩

theorem LeavesFiles.attempt {x : Action α} (h : LeavesFiles x) : LeavesFiles (Action.attempt x) := h

theorem LeavesFiles.ofExcept {ε : Type} (failure : ε → Failure) (x : Except ε α) :
    LeavesFiles (Action.ofExcept failure x) := by
  intro m
  rw [perform_ofExcept]
  exact ⟨rfl, rfl⟩

theorem LeavesFiles.checkName (path : Text) : LeavesFiles (Action.checkName path) := by
  unfold Action.checkName
  split
  · exact .throw _
  · split
    · exact .throw _
    · exact .pure _

theorem LeavesFiles.readBytes (path : Text) : LeavesFiles (Action.readBytes path) :=
  .bind (.checkName path) fun _ => .bind .get fun _ => .ofExcept _ _

theorem LeavesFiles.readText (path : Text) : LeavesFiles (Action.readText path) := by
  refine .bind (.readBytes path) fun bytes => ?_
  split
  · exact .pure _
  · exact .throw _

end Action

end HermesBundle
