import HermesBundle.Proofs.Build.Cancellation
import HermesBundle.Proofs.Storage.Removal

/-! # Abandoned scopes — no workspace stays behind

    A task that works in a workspace of its own can be cancelled at every
    point: while the workspace is made, inside the body, while it is
    removed.  Whatever happens, when the task has ended and nothing is
    left to be done for it, the last thing that was done was to remove the
    workspace.  The route:

    * **acquiring makes directories** (`acquire_grows`), so it keeps a
      machine sound, and so does the body, if its steps do;
    * **where a scope can stand** (`Tended`) — its workspace is still to be
      made, in use, to be removed, or removed;
    * **what an event does** (`Tended.step`) — it leads from one of these
      places to another, but for a request to cancel while a removal is
      queued that nothing holds on to;
    * **what a row of events does** (`no_workspace_left`) — at its end no
      directory is left at the path of the workspace.

    The exception is real: after a body that succeeded the task waits for
    the removal itself, and takes the removal along if it is cancelled
    before a worker has taken it up (`cancel_of_holdsRemoval`, `workspace_left_by_cancel`). -/

namespace HermesBundle

open FileSystem

/-! ## Sound machines -/

/-- A machine on which directories have been made is sound. -/
theorem Machine.IsSound.grown {m after : Machine} (h : m.IsSound)
    (hgrown : m.files.Grown after.files) (hhere : after.here = m.here) : after.IsSound where
  tree := hgrown.isTree h.tree
  settled := by
    rw [hhere]
    exact settle_of_extends h.settled hgrown.extends

namespace Action

/-- Whether an action keeps sound machines sound. -/
def KeepsSound {α : Type} (x : Action α) : Prop := ∀ m, m.IsSound → (x.perform m).2.IsSound

variable {α β : Type}

/-- Whether an action makes directories, and nothing else. -/
def Grows {α : Type} (x : Action α) : Prop :=
  ∀ m, m.files.Grown (x.perform m).2.files ∧ (x.perform m).2.here = m.here

theorem Grows.keepsSound {x : Action α} (h : Grows x) : KeepsSound x := fun m hm =>
  hm.grown (h m).1 (h m).2

theorem LeavesFiles.grows {x : Action α} (h : LeavesFiles x) : Grows x := by
  intro m
  obtain ⟨hfiles, hhere⟩ := h m
  rw [hfiles]
  exact ⟨.same, hhere⟩

theorem Grows.bind {x : Action α} {f : α → Action β} (hx : Grows x) (hf : ∀ a, Grows (f a)) :
    Grows (x >>= f) := by
  intro m
  have hfirst := hx m
  rcases gives_or_failsWith x m with ⟨a, middle, hgives⟩ | ⟨e, after, hfails⟩
  · rw [hgives] at hfirst
    rw [perform_bind_of_gives hgives]
    exact ⟨hfirst.1.trans (hf a middle).1, (hf a middle).2.trans hfirst.2⟩
  · rw [hfails] at hfirst
    rw [perform_bind_of_failsWith hfails]
    exact hfirst

theorem Grows.attempt {x : Action α} (h : Grows x) : Grows (Action.attempt x) := h

theorem Grows.ensureDirectory (path : Path) : Grows (Action.ensureDirectory path) := by
  refine .bind (LeavesFiles.checkName _).grows fun _ m => ?_
  have hgrown := grown_ensureDirectory m.files m.here path
  rw [perform_bind, perform_get]
  dsimp only
  rw [perform_bind, perform_set]
  dsimp only
  split
  · exact ⟨hgrown, rfl⟩
  · exact ⟨hgrown, rfl⟩

end Action

namespace Temporary

open HermesBundle.Action

theorem absoluteText_leavesFiles (directory : Text) : LeavesFiles (absoluteText directory) := by
  unfold absoluteText
  split
  · exact .pure _
  · dsimp only
    split
    · exact .bind (.pure _) fun _ => .pure _
    · exact .bind .currentDirectory fun _ => .pure _

theorem firstUsable_leavesFiles (candidates : List Text) :
    LeavesFiles (firstUsable candidates) := by
  induction candidates with
  | nil => exact .pure _
  | cons candidate rest ih =>
      refine .bind (absoluteText_leavesFiles _) fun directory => .bind .get fun m => ?_
      split
      · exact .pure _
      · exact ih

theorem directory_leavesFiles : LeavesFiles directory := by
  intro m
  unfold directory
  rw [perform_bind, perform_get]
  dsimp only
  cases m.temporary with
  | some known => exact ⟨rfl, rfl⟩
  | none =>
      have hsearch := firstUsable_leavesFiles (candidates m) m
      rcases gives_or_failsWith (firstUsable (candidates m)) m with
        ⟨found, after, hgives⟩ | ⟨f, after, hfails⟩
      · rw [hgives] at hsearch
        rw [perform_bind_of_gives hgives]
        cases found with
        | none => exact hsearch
        | some found => exact ⟨rfl, rfl⟩
      · rw [hfails] at hsearch
        rw [perform_bind_of_failsWith hfails]
        exact hsearch

end Temporary

namespace Build

open HermesBundle.Action

namespace Workspace

/-- Whatever fresh directory is made, it is made at a free name. -/
theorem grown_of_makeFresh {fs files : FileSystem} {here : Location} {parent path : Text}
    {draws : Nat → Nat} {processId n k left : Nat}
    (h : makeFresh fs here parent processId draws n left = .ok (files, path, k)) :
    fs.Grown files :=
  grown_of_makeDirectory (makeFresh_eq_ok h).2

/-- The directory that a workspace is made in is there, or is made. -/
theorem directoryFor_grows (parent : Option Path) : Grows (directoryFor parent) := by
  cases parent with
  | none => exact Temporary.directory_leavesFiles.grows
  | some path => exact .bind (.ensureDirectory path) fun _ => (LeavesFiles.pure _).grows

theorem create_grows (parent : Option Path) : Grows (create parent) := by
  refine .bind (directoryFor_grows parent) fun directory m => ?_
  rw [perform_bind, perform_get]
  dsimp only
  generalize Temporary.inside directory (nameOf m.processId (m.draws m.tickets)) = path
  rcases gives_or_failsWith (checkName path) m with ⟨_, after, hname⟩ | ⟨f, after, hname⟩
  · obtain ⟨-, rfl⟩ := checkName_gives_iff.mp hname
    rw [perform_bind_of_gives hname]
    split
    · rename_i files path n hfresh
      exact ⟨grown_of_makeFresh hfresh, rfl⟩
    · exact ⟨.same, rfl⟩
  · rw [perform_bind_of_failsWith hname]
    have hsame := (LeavesFiles.checkName path).grows m
    rw [hname] at hsame
    exact hsame

theorem parentOf_leavesFiles (root : Option Path) : LeavesFiles (parentOf root) := by
  cases root with
  | some path => exact .pure _
  | none => exact .bind Settings.current_leavesFiles fun _ => .pure _

/-- **Acquiring a workspace makes directories, and nothing else**, whether
    it succeeds or not. -/
theorem acquire_grows (root : Option Path) : Grows (acquire root) := by
  refine .bind (parentOf_leavesFiles root).grows fun parent =>
    .bind (create_grows parent).attempt fun outcome => ?_
  split
  · exact ((LeavesFiles.record _ _ _).bind fun _ => .pure _).grows
  · exact (LeavesFiles.throw _).grows
  · exact (LeavesFiles.throw _).grows

/-- So it keeps a machine sound. -/
theorem acquire_keepsSound (root : Option Path) : KeepsSound (acquire root) :=
  (acquire_grows root).keepsSound

/-- Whether the path of a workspace is one that a fresh directory gets. -/
structure HasFreshPath (ws : Workspace) : Prop where
  usable : isUsable ws.path.toText = true
  normal : ws.path.IsNormal
  named : ∃ names processId n, ws.path.parts = names ++ [nameOf processId n]

theorem hasFreshPath_of_acquire {root : Option Path} {m after : Machine} {ws : Workspace}
    (h : (acquire root).Gives m ws after) : ws.HasFreshPath where
  usable := isUsable_of_acquire h
  normal := (path_of_acquire h).1
  named := by
    obtain ⟨-, names, n, hparts⟩ := path_of_acquire h
    exact ⟨names, _, n, hparts⟩

/-- After a workspace has been released that could be removed, or was gone,
    there is no directory at its path. -/
theorem locate_of_released {ws : Workspace} {m : Machine} (hpath : ws.HasFreshPath)
    (hm : m.IsSound) (hremovable : removalFailure ws m = none) (strict : Bool) (place : Location) :
    ((release ws strict).perform m).2.files.locate ((release ws strict).perform m).2.here .itself
      ws.path.toText ≠ .ok (.found place .directory) := by
  obtain ⟨names, processId, n, hparts⟩ := hpath.named
  rw [release_of_removable hpath.usable hremovable strict]
  exact locate_removeDirectory hpath.normal hparts (nameOf_ne_dotDot processId n) hm.tree hm.settled
    hremovable

end Workspace

namespace ScopeTask

variable {α : Type} {t next : ScopeTask α} {event : ScopeEvent α}

/-- Whether the removal of a workspace is queued, and the task that waits
    for it would take it along. -/
def holdsRemoval (t : ScopeTask α) : Bool :=
  match t.point, t.removal with
  | .leaving _, some ⟨_, _, .queued⟩ => true
  | _, _ => false

/-- Whether an event is no request to cancel while a removal is queued that
    would be dropped. -/
def spares (t : ScopeTask α) : ScopeEvent α → Bool
  | .cancel => !t.holdsRemoval
  | _ => true

/-- Whether no request to cancel arrives while a removal is queued that
    would be dropped. -/
def sparesAll (t : ScopeTask α) : List (ScopeEvent α) → Bool
  | [] => true
  | event :: rest => t.spares event && (t.step event).all fun next => next.sparesAll rest

/-- Whether nothing is left to be done for a scope: no errand is pending,
    and no workspace is to be discarded. -/
def isIdle (t : ScopeTask α) : Bool :=
  !t.acquisition.isPending && !(t.removal.any fun r => r.errand.isPending) && !t.abandoned

/-- Whether the work of a body keeps sound machines sound. -/
def KeepsSound : ScopeEvent α → Prop
  | .act work => ∀ ws, Action.KeepsSound (work ws)
  | _ => True

/-- Where a scope stands whose workspace does not stay behind. -/
inductive Tended : ScopeTask α → Prop where
  | acquiring {m : Machine} {root : Option Path} {e : Errand Workspace} :
      m.IsSound → e ≠ .dropped →
      Tended ⟨m, root, .acquiring, e, none, false⟩
  | inside {m : Machine} {root : Option Path} {ws : Workspace} :
      m.IsSound →
      Tended ⟨m, root, .inside ws, .done (.ok ws), none, false⟩
  /-- The workspace is to be removed, or has been, whatever has become of
      the task. -/
  | removing {before m : Machine} {root : Option Path} {point : ScopePoint α} {ws : Workspace}
      {strict : Bool} {e : Errand Unit} :
      before.IsSound → point.isOpen = false → e.Does (Workspace.release ws strict) before m →
      Tended ⟨m, root, point, .done (.ok ws), some ⟨ws, strict, e⟩, false⟩
  /-- The task has gone while the workspace was made. -/
  | abandoned {m : Machine} {root : Option Path} {outcome : Except Failure α}
      {e : Errand Workspace} :
      m.IsSound → e ≠ .dropped →
      Tended ⟨m, root, .ended outcome, e, none, true⟩
  | notAcquired {m : Machine} {root : Option Path} {outcome : Except Failure α} {f : Failure} :
      Tended ⟨m, root, .ended outcome, .done (.error f), none, false⟩
  | discarded {before : Machine} {root : Option Path} {outcome : Except Failure α}
      {ws : Workspace} :
      before.IsSound →
      Tended ⟨((Workspace.release ws false).perform before).2, root, .ended outcome,
        .done (.ok ws), none, false⟩

/-- An errand that is taken up is not dropped by that. -/
theorem start?_ne_dropped {β : Type} {e e' : Errand β} (h : e.start? = some e') :
    e' ≠ .dropped := by
  cases e with
  | queued =>
      obtain rfl := Option.some.inj h
      exact fun heq => nomatch heq
  | running => exact nomatch h
  | done _ => exact nomatch h
  | dropped => exact nomatch h

/-- An errand that ends leaves the machine that its work leaves. -/
theorem finish?_eq_some {β : Type} {work : Action β} {m after : Machine} {e e' : Errand β}
    (h : e.finish? work m = some (e', after)) :
    ∃ outcome, e' = .done outcome ∧ work.perform m = (outcome, after) := by
  cases e with
  | running =>
      obtain ⟨rfl, rfl⟩ := Prod.mk.inj (Option.some.inj h)
      exact ⟨_, rfl, rfl⟩
  | queued => exact nomatch h
  | done _ => exact nomatch h
  | dropped => exact nomatch h

theorem Tended.step_start (h : Tended t) (hstep : t.start = some next) : Tended next := by
  cases h with
  | acquiring hm _ =>
      obtain ⟨e', he, rfl⟩ := Option.map_eq_some_iff.mp hstep
      exact .acquiring hm (start?_ne_dropped he)
  | inside _ => exact nomatch hstep
  | removing hm hpoint hdoes =>
      obtain ⟨e', he, rfl⟩ := Option.map_eq_some_iff.mp hstep
      exact .removing hm hpoint (hdoes.start he)
  | abandoned hm _ =>
      obtain ⟨e', he, rfl⟩ := Option.map_eq_some_iff.mp hstep
      exact .abandoned hm (start?_ne_dropped he)
  | notAcquired => exact nomatch hstep
  | discarded _ => exact nomatch hstep

theorem Tended.step_finish (h : Tended t) (hstep : t.finish = some next) : Tended next := by
  cases h with
  | @acquiring m root e hm _ =>
      obtain ⟨⟨e', after⟩, he, rfl⟩ := Option.map_eq_some_iff.mp hstep
      obtain ⟨outcome, rfl, hwork⟩ := finish?_eq_some he
      have hafter := Workspace.acquire_keepsSound root m hm
      rw [hwork] at hafter
      exact .acquiring hafter (fun heq => nomatch heq)
  | inside _ => exact nomatch hstep
  | removing hm hpoint hdoes =>
      obtain ⟨⟨e', after⟩, he, rfl⟩ := Option.map_eq_some_iff.mp hstep
      exact .removing hm hpoint (hdoes.finish he)
  | @abandoned m root outcome e hm _ =>
      obtain ⟨⟨e', after⟩, he, rfl⟩ := Option.map_eq_some_iff.mp hstep
      obtain ⟨_, rfl, hwork⟩ := finish?_eq_some he
      have hafter := Workspace.acquire_keepsSound root m hm
      rw [hwork] at hafter
      exact .abandoned hafter (fun heq => nomatch heq)
  | notAcquired => exact nomatch hstep
  | discarded _ => exact nomatch hstep

theorem Tended.step_resume (h : Tended t) (hstep : t.resume = some next) : Tended next := by
  cases h with
  | @acquiring m root e hm _ =>
      obtain ⟨_, he, rfl⟩ := Option.map_eq_some_iff.mp hstep
      obtain ⟨result, rfl⟩ := Errand.exists_done (he ▸ rfl : e.outcome?.isSome = true)
      obtain rfl := Option.some.inj he
      cases result with
      | ok ws => exact .inside hm
      | error f => exact .notAcquired
  | inside _ => exact nomatch hstep
  | @removing before m root point ws strict e hm hpoint hdoes =>
      cases point with
      | acquiring => exact nomatch hpoint
      | inside _ => exact nomatch hpoint
      | closing failure =>
          obtain ⟨outcome, he, rfl⟩ := Option.map_eq_some_iff.mp hstep
          cases outcome with
          | ok _ => exact .removing hm rfl hdoes
          | error _ => exact .removing hm rfl hdoes
      | leaving value =>
          obtain ⟨outcome, he, rfl⟩ := Option.map_eq_some_iff.mp hstep
          cases outcome with
          | ok _ => exact .removing hm rfl hdoes
          | error _ => exact .removing hm rfl hdoes
      | ended _ => exact nomatch hstep
  | abandoned _ _ => exact nomatch hstep
  | notAcquired => exact nomatch hstep
  | discarded _ => exact nomatch hstep

/-- A body that ends leaves its workspace to be removed. -/
theorem Tended.left {m : Machine} {root : Option Path} {ws : Workspace} (hm : m.IsSound)
    (outcome : Except Failure α) :
    Tended (ScopeTask.left ⟨m, root, .inside ws, .done (.ok ws), none, false⟩ ws outcome) := by
  cases outcome with
  | ok value => exact .removing hm rfl .queued
  | error f => exact .removing hm rfl .queued

theorem Tended.step_act {work : Workspace → Action Unit} (h : Tended t)
    (hsound : ∀ ws, Action.KeepsSound (work ws)) (hstep : t.act work = some next) :
    Tended next := by
  cases h with
  | @inside m root ws hm =>
      have hafter := hsound ws m hm
      unfold act at hstep
      dsimp only at hstep
      split at hstep
      · obtain rfl := Option.some.inj hstep
        exact .inside hafter
      · obtain rfl := Option.some.inj hstep
        exact .left hafter _
  | @removing _ _ _ point _ _ _ _ hpoint _ =>
      cases point with
      | inside _ => exact nomatch hpoint
      | _ => exact nomatch hstep
  | _ => exact nomatch hstep

theorem Tended.step_leave {outcome : Except Failure α} (h : Tended t)
    (hstep : t.leave outcome = some next) : Tended next := by
  cases h with
  | inside hm =>
      obtain rfl := Option.some.inj hstep
      exact .left hm outcome
  | @removing _ _ _ point _ _ _ _ hpoint _ =>
      cases point with
      | inside _ => exact nomatch hpoint
      | _ => exact nomatch hstep
  | _ => exact nomatch hstep

theorem Tended.step_cancel (h : Tended t) (hspared : t.spares .cancel = true)
    (hstep : t.cancel = some next) : Tended next := by
  cases h with
  | acquiring hm he =>
      obtain rfl := Option.some.inj hstep
      exact .abandoned hm he
  | inside hm =>
      obtain rfl := Option.some.inj hstep
      exact .left hm _
  | @removing before m root point ws strict e hm hpoint hdoes =>
      cases point with
      | acquiring => exact nomatch hpoint
      | inside _ => exact nomatch hpoint
      | closing failure =>
          obtain rfl := Option.some.inj hstep
          exact .removing hm rfl hdoes
      | leaving value =>
          obtain rfl := Option.some.inj hstep
          -- Only a removal that is queued is dropped.
          cases hdoes with
          | queued => exact nomatch hspared
          | running => exact .removing hm rfl .running
          | done hwork => exact .removing hm rfl (.done hwork)
      | ended _ => exact nomatch hstep
  | abandoned _ _ => exact nomatch hstep
  | notAcquired => exact nomatch hstep
  | discarded _ => exact nomatch hstep

theorem Tended.step_discard (h : Tended t) (hstep : t.discard = some next) : Tended next := by
  cases h with
  | @abandoned m root outcome e hm he =>
      obtain ⟨_, hresult, rfl⟩ := Option.map_eq_some_iff.mp hstep
      obtain ⟨result, rfl⟩ := Errand.exists_done (hresult ▸ rfl : e.outcome?.isSome = true)
      obtain rfl := Option.some.inj hresult
      cases result with
      | ok ws => exact .discarded hm
      | error f => exact .notAcquired
  | _ => exact nomatch hstep

/-- **Every event keeps the workspace of a scope from staying behind**, but
    for a request to cancel that drops its removal. -/
theorem Tended.step (h : Tended t) (hsound : KeepsSound event) (hspared : t.spares event = true)
    (hstep : t.step event = some next) : Tended next := by
  cases event with
  | start => exact h.step_start hstep
  | finish => exact h.step_finish hstep
  | resume => exact h.step_resume hstep
  | act work => exact h.step_act hsound hstep
  | leave outcome => exact h.step_leave hstep
  | cancel => exact h.step_cancel hspared hstep
  | discard => exact h.step_discard hstep

/-- What becomes of the acquisition by an event: it stays as it is, it is
    taken up, or it is done. -/
theorem acquisition_of_step (hstep : t.step event = some next) :
    next.acquisition = t.acquisition ∨ next.acquisition = .running
      ∨ ∃ outcome m after, (Workspace.acquire t.root).perform m = (outcome, after)
        ∧ next.acquisition = .done outcome := by
  cases event with
  | start =>
      change t.start = some next at hstep
      unfold start at hstep
      split at hstep
      · obtain ⟨_, -, rfl⟩ := Option.map_eq_some_iff.mp hstep
        exact .inl rfl
      · obtain ⟨e, he, rfl⟩ := Option.map_eq_some_iff.mp hstep
        cases hacquisition : t.acquisition with
        | queued =>
            rw [hacquisition] at he
            exact .inr (.inl (Option.some.inj he).symm)
        | _ =>
            rw [hacquisition] at he
            exact nomatch he
  | finish =>
      change t.finish = some next at hstep
      unfold finish at hstep
      split at hstep
      · obtain ⟨_, -, rfl⟩ := Option.map_eq_some_iff.mp hstep
        exact .inl rfl
      · obtain ⟨⟨e, after⟩, he, rfl⟩ := Option.map_eq_some_iff.mp hstep
        obtain ⟨outcome, rfl, hwork⟩ := finish?_eq_some he
        exact .inr (.inr ⟨outcome, _, after, hwork, rfl⟩)
  | resume =>
      change t.resume = some next at hstep
      unfold resume at hstep
      split at hstep
      · obtain ⟨outcome, -, rfl⟩ := Option.map_eq_some_iff.mp hstep
        cases outcome <;> exact .inl rfl
      · exact nomatch hstep
      · obtain ⟨outcome, -, rfl⟩ := Option.map_eq_some_iff.mp hstep
        cases outcome <;> exact .inl rfl
      · obtain ⟨outcome, -, rfl⟩ := Option.map_eq_some_iff.mp hstep
        cases outcome <;> exact .inl rfl
      · exact nomatch hstep
  | act work =>
      change t.act work = some next at hstep
      unfold act at hstep
      split at hstep
      · dsimp only at hstep
        split at hstep
        all_goals
          obtain rfl := Option.some.inj hstep
          exact .inl rfl
      · exact nomatch hstep
  | leave outcome =>
      change t.leave outcome = some next at hstep
      unfold leave at hstep
      split at hstep
      · obtain rfl := Option.some.inj hstep
        cases outcome <;> exact .inl rfl
      · exact nomatch hstep
  | cancel =>
      change t.cancel = some next at hstep
      unfold cancel at hstep
      cases hpoint : t.point with
      | ended _ =>
          rw [hpoint] at hstep
          exact nomatch hstep
      | _ =>
          rw [hpoint] at hstep
          obtain rfl := Option.some.inj hstep
          exact .inl rfl
  | discard =>
      change t.discard = some next at hstep
      unfold discard at hstep
      split at hstep
      · obtain ⟨outcome, -, rfl⟩ := Option.map_eq_some_iff.mp hstep
        cases outcome <;> exact .inl rfl
      · exact nomatch hstep

/-! ## What a row of events does -/

/-- The workspace of a scope has the path of a fresh directory. -/
theorem hasFreshPath_of_steps {events : List (ScopeEvent α)}
    (h : ∀ ws, t.acquisition = .done (.ok ws) → ws.HasFreshPath)
    (hsteps : t.steps events = some next) {ws : Workspace}
    (hws : next.acquisition = .done (.ok ws)) : ws.HasFreshPath := by
  induction events generalizing t with
  | nil =>
      obtain rfl := Option.some.inj hsteps
      exact h ws hws
  | cons event rest ih =>
      obtain ⟨middle, hstep, hrest⟩ := Option.bind_eq_some_iff.mp hsteps
      refine ih (fun made hmade => ?_) hrest
      rcases acquisition_of_step hstep with hsame | hrunning | ⟨outcome, m, after, hwork, hdone⟩
      · exact h made (hsame.symm.trans hmade)
      · exact nomatch hrunning.symm.trans hmade
      · obtain rfl := Errand.done.inj (hdone.symm.trans hmade)
        exact Workspace.hasFreshPath_of_acquire hwork

theorem Tended.steps {events : List (ScopeEvent α)} (h : Tended t)
    (hsound : ∀ event ∈ events, KeepsSound event) (hspared : t.sparesAll events = true)
    (hsteps : t.steps events = some next) : Tended next := by
  induction events generalizing t with
  | nil =>
      obtain rfl := Option.some.inj hsteps
      exact h
  | cons event rest ih =>
      obtain ⟨middle, hstep, hrest⟩ := Option.bind_eq_some_iff.mp hsteps
      obtain ⟨hfirst, hothers⟩ := Bool.and_eq_true_iff.mp hspared
      rw [hstep] at hothers
      obtain ⟨hevent, hmore⟩ := List.forall_mem_cons.mp hsound
      exact ih (h.step hevent hfirst hstep) hmore hothers hrest

/-- A scope that has ended, and for which nothing is left to be done, has
    released the workspace that was made for it, as the last thing. -/
theorem Tended.released (h : Tended t) (hended : t.outcome?.isSome = true) (hidle : t.isIdle = true)
    {ws : Workspace} (hws : t.acquisition = .done (.ok ws)) :
    ∃ before strict, before.IsSound
      ∧ t.machine = ((Workspace.release ws strict).perform before).2 := by
  cases h with
  | acquiring _ _ => exact nomatch hended
  | inside _ => exact nomatch hended
  | @removing before m root point ws' strict e hm hpoint hdoes =>
      obtain rfl := Except.ok.inj (Errand.done.inj hws)
      cases hdoes with
      | queued => exact nomatch hidle
      | running => exact nomatch hidle
      | done hwork => exact ⟨before, strict, hm, by rw [hwork]⟩
  | abandoned _ _ =>
      unfold isIdle at hidle
      simp at hidle
  | notAcquired => exact nomatch hws
  | @discarded before _ _ _ hm =>
      obtain rfl := Except.ok.inj (Errand.done.inj hws)
      exact ⟨before, false, hm, rfl⟩

/-- **No workspace stays behind**: whatever happens to the task of a scope
    and however often it is cancelled, when the task has ended and nothing
    is left to be done, the last thing that was done was to release the
    workspace, and there is no directory at its path unless the removal
    failed — if no request to cancel arrives while a removal is queued
    that would be dropped. -/
theorem no_workspace_left {m : Machine} {root : Option Path} {events : List (ScopeEvent α)}
    (hm : m.IsSound) (hsound : ∀ event ∈ events, KeepsSound event)
    (hspared : (begin m root).sparesAll events = true)
    (hsteps : (begin m root).steps events = some t) (hended : t.outcome?.isSome = true)
    (hidle : t.isIdle = true) {ws : Workspace} (hws : t.acquisition = .done (.ok ws)) :
    ∃ before strict, t.machine = ((Workspace.release ws strict).perform before).2
      ∧ (Workspace.removalFailure ws before = none → ∀ place,
        t.machine.files.locate t.machine.here .itself ws.path.toText
          ≠ .ok (.found place .directory)) := by
  have hbegin : Tended (begin m root : ScopeTask α) := .acquiring hm fun h => (nomatch h)
  obtain ⟨before, strict, hbefore, hmachine⟩ :=
    (hbegin.steps hsound hspared hsteps).released hended hidle hws
  have hpath := hasFreshPath_of_steps (t := begin m root)
    (fun _ h => nomatch (h : Errand.queued = .done _)) hsteps hws
  refine ⟨before, strict, hmachine, fun hremovable place => ?_⟩
  rw [hmachine]
  exact Workspace.locate_of_released hpath hbefore hremovable strict place

/-- The machine with a home is sound. -/
theorem homeMachine_isSound : homeMachine.IsSound where
  tree := isTree_of_all (by decide)
  settled := by decide

/-- A scope on the machine with a home. -/
def homeScope : ScopeTask Unit := begin homeMachine (some (Path.ofString "/home/ws"))

/-- The events of a scope that is cancelled inside its body, and again while
    its workspace is waiting to be removed. -/
def twiceCancelled : List (ScopeEvent Unit) :=
  errandEvents ++ [.cancel, .cancel, .start, .finish]

theorem no_workspace_left_twiceCancelled :
    ∃ t ws, homeScope.steps twiceCancelled = some t ∧ t.outcome?.isSome = true ∧ t.isIdle = true
      ∧ t.acquisition = .done (.ok ws)
      ∧ ∃ before strict, t.machine = ((Workspace.release ws strict).perform before).2
        ∧ (Workspace.removalFailure ws before = none → ∀ place,
          t.machine.files.locate t.machine.here .itself ws.path.toText
            ≠ .ok (.found place .directory)) := by
  have hsound : ∀ event ∈ twiceCancelled, KeepsSound event := by
    simp only [twiceCancelled, errandEvents, List.cons_append, List.nil_append,
      List.forall_mem_cons]
    exact ⟨trivial, trivial, trivial, trivial, trivial, trivial, trivial, List.forall_mem_nil _⟩
  have hspared : homeScope.sparesAll twiceCancelled = true := by cbv
  have hsteps : (homeScope.steps twiceCancelled).map
      (fun t => (t.outcome?.isSome, t.isIdle, t.acquisition)) = some (true, true,
        .done (.ok ⟨Path.ofString "/home/ws/hbc-build-7-aaaaaaaa"⟩)) := by cbv
  obtain ⟨t, hsteps, hseen⟩ := Option.map_eq_some_iff.mp hsteps
  obtain ⟨hended, hseen⟩ := Prod.mk.inj hseen
  obtain ⟨hidle, hws⟩ := Prod.mk.inj hseen
  exact ⟨t, _, hsteps, hended, hidle, hws,
    no_workspace_left homeMachine_isSound hsound hspared hsteps hended hidle hws⟩

/-! ## The removal that is dropped -/

/-- **A request to cancel takes a queued removal along**: a scope whose body
    succeeded, and whose removal no worker has taken up, ends with the
    machine as it is, and nothing is left to be done. -/
theorem cancel_of_holdsRemoval (hholds : t.holdsRemoval = true)
    (hdone : t.acquisition.isPending = false) (hkept : t.abandoned = false) :
    ∃ next, t.step .cancel = some next ∧ next.outcome?.isSome = true ∧ next.isIdle = true
      ∧ next.machine = t.machine := by
  obtain ⟨m, root, point, acquisition, removal, abandoned⟩ := t
  unfold holdsRemoval at hholds
  dsimp only at hholds hdone hkept
  split at hholds
  · refine ⟨_, rfl, rfl, ?_, rfl⟩
    unfold isIdle
    dsimp only [finished]
    rw [hdone, hkept]
    rfl
  · exact nomatch hholds

/-- A scope that is cancelled when its body has succeeded, and before a
    worker has taken up the removal, leaves a workspace behind that could
    have been removed. -/
theorem workspace_left_by_cancel :
    ∃ t ws, homeScope.steps (errandEvents ++ [.leave (.ok ()), .cancel]) = some t
      ∧ t.outcome?.isSome = true ∧ t.isIdle = true ∧ t.acquisition = .done (.ok ws)
      ∧ Workspace.removalFailure ws t.machine = none
      ∧ t.machine.files.locate t.machine.here .itself ws.path.toText
        = .ok (.found ["home", "ws", "hbc-build-7-aaaaaaaa"] .directory) := by
  have hsteps : (homeScope.steps (errandEvents ++ [.leave (.ok ()), .cancel])).map
      (fun t => (t.outcome?.isSome, t.isIdle, t.acquisition,
        Workspace.removalFailure ⟨Path.ofString "/home/ws/hbc-build-7-aaaaaaaa"⟩ t.machine,
        t.machine.files.locate t.machine.here .itself
          (Path.ofString "/home/ws/hbc-build-7-aaaaaaaa").toText))
      = some (true, true, .done (.ok ⟨Path.ofString "/home/ws/hbc-build-7-aaaaaaaa"⟩), none,
        .ok (.found ["home", "ws", "hbc-build-7-aaaaaaaa"] .directory)) := by cbv
  obtain ⟨t, hsteps, hseen⟩ := Option.map_eq_some_iff.mp hsteps
  simp only [Prod.mk.injEq] at hseen
  obtain ⟨hended, hidle, hws, hremovable, hthere⟩ := hseen
  exact ⟨t, _, hsteps, hended, hidle, hws, hremovable, hthere⟩

end ScopeTask

end Build

end HermesBundle
