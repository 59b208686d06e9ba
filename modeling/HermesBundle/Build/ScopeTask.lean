import HermesBundle.Build.Errand
import HermesBundle.Build.Workspace

/-! # Scopes as tasks — a workspace under cancellation

    A task that works in a scope of its own waits at several points: for
    the workspace to be made, inside the body, and for the workspace to be
    removed.  Making and removing are errands of the worker pool, so that
    other tasks go on meanwhile.  A request to cancel the task may arrive
    at every point.

    What a request does depends on the point.  While the workspace is
    being made, the task ends at once and leaves behind that a workspace
    which comes into being is to be discarded.  Inside the body, the body
    ends and its workspace is removed.  While a workspace is removed
    because its body failed, the removal goes on without the task.  While
    it is removed because its body succeeded, the removal is dropped if no
    worker has taken it up. -/

namespace HermesBundle.Build

/-- The point at which the task of a scope waits. -/
inductive ScopePoint (α : Type) where
  | acquiring
  | inside (ws : Workspace)
  /-- The body failed. -/
  | closing (failure : Failure)
  /-- The body succeeded. -/
  | leaving (value : α)
  | ended (outcome : Except Failure α)

/-- The removal of a workspace. -/
structure Removal where
  workspace : Workspace
  strict : Bool
  errand : Errand Unit

/-- A scope under way. -/
structure ScopeTask (α : Type) where
  machine : Machine
  /-- The parent directory of the workspace, if given. -/
  root : Option Path
  point : ScopePoint α
  acquisition : Errand Workspace
  removal : Option Removal
  /-- Whether a workspace that comes into being is to be discarded. -/
  abandoned : Bool

/-- What can happen to a scope. -/
inductive ScopeEvent (α : Type) where
  /-- A worker takes up the errand that is queued. -/
  | start
  /-- The errand that is running ends. -/
  | finish
  /-- The task goes on, for the errand it waits for is done. -/
  | resume
  /-- The body does some work. -/
  | act (work : Workspace → Action Unit)
  /-- The body ends. -/
  | leave (outcome : Except Failure α)
  /-- The task is to be cancelled. -/
  | cancel
  /-- The abandoned workspace is removed. -/
  | discard

namespace ScopeTask

variable {α : Type}

/-- A scope that has begun. -/
def begin (m : Machine) (root : Option Path) : ScopeTask α :=
  ⟨m, root, .acquiring, .queued, none, false⟩

/-- The outcome of a scope that has ended. -/
def outcome? (t : ScopeTask α) : Option (Except Failure α) :=
  match t.point with
  | .ended outcome => some outcome
  | _ => none

/-- The scope after its task has ended. -/
def finished (t : ScopeTask α) (outcome : Except Failure α) : ScopeTask α :=
  { t with point := .ended outcome }

/-- The scope after its body has ended: the workspace is to be removed. -/
def left (t : ScopeTask α) (ws : Workspace) : Except Failure α → ScopeTask α
  | .ok value => { t with point := .leaving value, removal := some ⟨ws, true, .queued⟩ }
  | .error f => { t with point := .closing f, removal := some ⟨ws, false, .queued⟩ }

/-- A worker takes up the removal, or else the acquisition. -/
def start (t : ScopeTask α) : Option (ScopeTask α) :=
  match t.removal with
  | some r => r.errand.start?.map fun e => { t with removal := some { r with errand := e } }
  | none => t.acquisition.start?.map fun e => { t with acquisition := e }

/-- The removal ends, or else the acquisition. -/
def finish (t : ScopeTask α) : Option (ScopeTask α) :=
  match t.removal with
  | some r =>
      (r.errand.finish? (Workspace.release r.workspace r.strict) t.machine).map fun (e, m) =>
        { t with machine := m, removal := some { r with errand := e } }
  | none =>
      (t.acquisition.finish? (Workspace.acquire t.root) t.machine).map fun (e, m) =>
        { t with machine := m, acquisition := e }

/-- The task goes on.  A failure to remove the workspace is an outcome of
    its own. -/
def resume (t : ScopeTask α) : Option (ScopeTask α) :=
  match t.point with
  | .acquiring =>
      t.acquisition.outcome?.map fun
        | .ok ws => { t with point := .inside ws }
        | .error f => t.finished (.error f)
  | .inside _ => none
  | .closing failure =>
      (t.removal.bind (·.errand.outcome?)).map fun
        | .ok () => t.finished (.error failure)
        | .error f => t.finished (.error f)
  | .leaving value =>
      (t.removal.bind (·.errand.outcome?)).map fun
        | .ok () => t.finished (.ok value)
        | .error f => t.finished (.error f)
  | .ended _ => none

/-- The body does some work; if that fails, the body ends. -/
def act (t : ScopeTask α) (work : Workspace → Action Unit) : Option (ScopeTask α) :=
  match t.point with
  | .inside ws =>
      let (outcome, m) := (work ws).perform t.machine
      match outcome with
      | .ok () => some { t with machine := m }
      | .error f => some ({ t with machine := m }.left ws (.error f))
  | _ => none

/-- The body ends. -/
def leave (t : ScopeTask α) (outcome : Except Failure α) : Option (ScopeTask α) :=
  match t.point with
  | .inside ws => some (t.left ws outcome)
  | _ => none

/-- The task is cancelled where it waits. -/
def cancel (t : ScopeTask α) : Option (ScopeTask α) :=
  match t.point with
  | .acquiring => some { t.finished (.error .cancelled) with abandoned := true }
  | .inside ws => some (t.left ws (.error .cancelled))
  | .closing _ => some (t.finished (.error .cancelled))
  | .leaving _ =>
      some { t.finished (.error .cancelled) with
        removal := t.removal.map fun r => { r with errand := r.errand.drop } }
  | .ended _ => none

/-- The workspace of an abandoned scope is removed once it is there. -/
def discard (t : ScopeTask α) : Option (ScopeTask α) :=
  if t.abandoned then
    t.acquisition.outcome?.map fun
      | .ok ws =>
          { t with machine := ((Workspace.release ws false).perform t.machine).2,
                   abandoned := false }
      | .error _ => { t with abandoned := false }
  else none

/-- What an event makes of a scope; not every event can happen at every
    time. -/
def step (t : ScopeTask α) : ScopeEvent α → Option (ScopeTask α)
  | .start => t.start
  | .finish => t.finish
  | .resume => t.resume
  | .act work => t.act work
  | .leave outcome => t.leave outcome
  | .cancel => t.cancel
  | .discard => t.discard

/-- Some events happen one after another. -/
def steps (t : ScopeTask α) : List (ScopeEvent α) → Option (ScopeTask α)
  | [] => some t
  | e :: rest => (t.step e).bind fun next => next.steps rest

/-- Of some events those happen that can. -/
def follow (t : ScopeTask α) (events : List (ScopeEvent α)) : ScopeTask α :=
  events.foldl (fun t e => (t.step e).getD t) t

/-- The events by which an errand is done and the task goes on. -/
def errandEvents : List (ScopeEvent α) := [.start, .finish, .resume]

/-- The events of a scope that nothing delays. -/
def promptEvents (body : List (ScopeEvent α)) : List (ScopeEvent α) :=
  errandEvents ++ body ++ errandEvents

/-- The events of a scope that is cancelled before its workspace is
    there. -/
def earlyEvents : List (ScopeEvent α) := [.start, .cancel, .finish, .discard]

/-- Runs a scope through some events. -/
def run (root : Option Path) (events : List (ScopeEvent α)) : Action α := do
  let m ← get
  let t := (begin m root).follow events
  set t.machine
  match t.outcome? with
  | some outcome => Action.ofExcept id outcome
  | none => throw .cancelled

end ScopeTask

end HermesBundle.Build
