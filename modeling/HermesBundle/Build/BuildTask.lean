import HermesBundle.Build.Pipeline
import HermesBundle.Build.ScopeTask

/-! # Builds as tasks — what a build waits for, and its cancellation

    Inside its workspace a build waits three times: for its inputs to be
    staged, for the compiler, and for the bytecode to be read while the
    maps are composed.  Staging, reading and composing are errands of the
    worker pool; the compiler is a program of its own.

    A build that is cancelled while it waits does not leave its workspace
    at once.  It waits a second time, for the errands to be done, or for
    the compiler, which it kills, to be reaped; then its body ends.  A
    request that arrives during the second wait ends the body on the
    spot. -/

namespace HermesBundle.Build

/-- How far the compiler of a build has come. -/
inductive Child where
  | running
  | killed
  | reaped (outcome : Except Failure Unit)

/-- What the body of a build waits for. -/
inductive Work where
  | staging (errand : Errand Unit)
  | compiling (child : Child)
  | collecting (reading : Errand Bytes) (composing : Errand Text)

/-- Whether the body of a build waits. -/
inductive Wait where
  | forWork
  /-- It has been cancelled, and lets its work come to an end. -/
  | afterCancellation
  | over
deriving DecidableEq

/-- The body of a build. -/
structure Body where
  work : Work
  wait : Wait

/-- A build under way. -/
structure BuildTask where
  programs : Programs
  job : Job
  composer : Composer
  compiler : Path
  scope : ScopeTask Result
  /-- There is none before the workspace has been acquired. -/
  body : Option Body

/-- The errands of a build. -/
inductive ErrandName where
  /-- Making the workspace and removing it. -/
  | workspace
  | staging
  | reading
  | composing
deriving DecidableEq

/-- What can happen to a build. -/
inductive BuildEvent where
  | start (errand : ErrandName)
  | finish (errand : ErrandName)
  /-- The compiler ends and is reaped; it has run to its end, or for some
      milliseconds. -/
  | reap (allowed : Option Nat)
  /-- The task goes on, for what it waits for is done. -/
  | resume
  /-- The task is to be cancelled. -/
  | cancel
  /-- The abandoned workspace is removed. -/
  | discard

namespace Work

/-- Whether a worker is at work for the body, or its compiler has not been
    reaped. -/
def isUnderWay : Work → Bool
  | .staging errand => errand.isRunning
  | .compiling (.reaped _) => false
  | .compiling _ => true
  | .collecting reading composing => reading.isRunning || composing.isRunning

/-- Whether the work of the body has come to an end. -/
def isDone : Work → Bool
  | .staging errand => errand.outcome?.isSome
  | .compiling (.reaped _) => true
  | .compiling _ => false
  | .collecting reading composing => reading.outcome?.isSome && composing.outcome?.isSome

/-- What a request to cancel makes of the work: only the compiler is
    stopped. -/
def interrupt : Work → Work
  | .compiling .running => .compiling .killed
  | work => work

end Work

namespace BuildTask

/-- A build that has found its tools. -/
def begin (programs : Programs) (job : Job) (composer : Composer) (compiler : Path)
    (m : Machine) : BuildTask :=
  ⟨programs, job, composer, compiler, .begin m job.root, none⟩

/-- The build with other work for its body. -/
def withWork (t : BuildTask) (body : Body) (work : Work) : BuildTask :=
  { t with body := some { body with work := work } }

/-- A worker takes up an errand. -/
def start (t : BuildTask) : ErrandName → Option BuildTask
  | .workspace => t.scope.start.map fun scope => { t with scope := scope }
  | .staging =>
      t.body.bind fun body =>
        match body.work with
        | .staging e => e.start?.map fun e => t.withWork body (.staging e)
        | _ => none
  | .reading =>
      t.body.bind fun body =>
        match body.work with
        | .collecting e other => e.start?.map fun e => t.withWork body (.collecting e other)
        | _ => none
  | .composing =>
      t.body.bind fun body =>
        match body.work with
        | .collecting other e => e.start?.map fun e => t.withWork body (.collecting other e)
        | _ => none

/-- The workspace of the build, once it has been acquired. -/
def workspace? (t : BuildTask) : Option Workspace :=
  match t.scope.acquisition with
  | .done (.ok ws) => some ws
  | _ => none

/-- The build on another machine. -/
def onMachine (t : BuildTask) (m : Machine) : BuildTask :=
  { t with scope := { t.scope with machine := m } }

/-- The composition of the maps of the build. -/
def composition (t : BuildTask) (ws : Workspace) : Action Text :=
  composedMap (t.composer t.programs) t.job.request.sourceMap ws.bytecodeMap

/-- An errand of the build ends. -/
def finish (t : BuildTask) : ErrandName → Option BuildTask
  | .workspace => t.scope.finish.map fun scope => { t with scope := scope }
  | .staging => do
      let body ← t.body
      let ws ← t.workspace?
      match body.work with
      | .staging e =>
          let (e, m) ← e.finish? (stageInputs ws t.job.request) t.scope.machine
          return (t.onMachine m).withWork body (.staging e)
      | _ => none
  | .reading => do
      let body ← t.body
      let ws ← t.workspace?
      match body.work with
      | .collecting e other =>
          let (e, m) ← e.finish? (readBytecode ws.bytecode) t.scope.machine
          return (t.onMachine m).withWork body (.collecting e other)
      | _ => none
  | .composing => do
      let body ← t.body
      let ws ← t.workspace?
      match body.work with
      | .collecting other e =>
          let (e, m) ← e.finish? (t.composition ws) t.scope.machine
          return (t.onMachine m).withWork body (.collecting other e)
      | _ => none

/-- The compiler ends. -/
def reap (t : BuildTask) (allowed : Option Nat) : Option BuildTask := do
  let body ← t.body
  let ws ← t.workspace?
  match body.work with
  | .compiling (.reaped _) => none
  | .compiling _ =>
      let (outcome, m) :=
        (compileWithin t.programs t.job t.compiler ws allowed).perform t.scope.machine
      return (t.onMachine m).withWork body (.compiling (.reaped outcome))
  | _ => none

/-- The body ends with an outcome, and the scope is left. -/
def leave (t : BuildTask) (body : Body) (outcome : Except Failure Result) : Option BuildTask :=
  (t.scope.leave outcome).map fun scope =>
    { t with scope := scope, body := some { body with wait := .over } }

/-- What follows when the work of the body is done. -/
def goOn (t : BuildTask) (body : Body) : Option BuildTask :=
  match body.work with
  | .staging e =>
      e.outcome?.bind fun
        | .ok () => some (t.withWork body (.compiling .running))
        | .error f => t.leave body (.error f)
  | .compiling (.reaped outcome) =>
      match outcome with
      | .ok () => some (t.withWork body (.collecting .queued .queued))
      | .error f => t.leave body (.error f)
  | .compiling _ => none
  | .collecting reading composing => do
      let bytecode ← reading.outcome?
      let sourceMap ← composing.outcome?
      t.leave body (joinResults bytecode sourceMap)

/-- The task goes on. -/
def resume (t : BuildTask) : Option BuildTask :=
  match t.scope.point with
  | .inside _ =>
      t.body.bind fun body =>
        match body.wait with
        | .forWork => t.goOn body
        | .afterCancellation =>
            if body.work.isDone then t.leave body (.error .cancelled) else none
        | .over => none
  | _ =>
      t.scope.resume.map fun scope =>
        match scope.point with
        | .inside _ => { t with scope := scope, body := some ⟨.staging .queued, .forWork⟩ }
        | _ => { t with scope := scope }

/-- The task is cancelled where it waits. -/
def cancel (t : BuildTask) : Option BuildTask :=
  match t.scope.point with
  | .inside _ =>
      t.body.bind fun body =>
        match body.wait with
        | .forWork => some { t with body := some ⟨body.work.interrupt, .afterCancellation⟩ }
        | .afterCancellation => t.leave body (.error .cancelled)
        | .over => none
  | _ => t.scope.cancel.map fun scope => { t with scope := scope }

/-- What an event makes of a build; not every event can happen at every
    time. -/
def step (t : BuildTask) : BuildEvent → Option BuildTask
  | .start errand => t.start errand
  | .finish errand => t.finish errand
  | .reap allowed => t.reap allowed
  | .resume => t.resume
  | .cancel => t.cancel
  | .discard => t.scope.discard.map fun scope => { t with scope := scope }

/-- Some events happen one after another. -/
def steps (t : BuildTask) : List BuildEvent → Option BuildTask
  | [] => some t
  | e :: rest => (t.step e).bind fun next => next.steps rest

/-- Of some events those happen that can. -/
def follow (t : BuildTask) (events : List BuildEvent) : BuildTask :=
  events.foldl (fun t e => (t.step e).getD t) t

/-- Whether the removal of the workspace has been taken up. -/
def releaseStarted (t : BuildTask) : Bool :=
  match t.scope.removal with
  | some ⟨_, _, .running⟩ => true
  | some ⟨_, _, .done _⟩ => true
  | _ => false

/-- Whether the build is at work in its workspace. -/
def isUnderWay (t : BuildTask) : Bool :=
  match t.body with
  | none => false
  | some body => body.work.isUnderWay

/-- The events up to the composition of the maps. -/
def eventsToComposition : List BuildEvent :=
  [.start .workspace, .finish .workspace, .resume, .start .staging, .finish .staging, .resume,
    .reap none, .resume, .start .reading, .finish .reading, .start .composing]

/-- The events from the composition on. -/
def eventsFromComposition : List BuildEvent :=
  [.finish .composing, .resume, .start .workspace, .finish .workspace, .resume]

end BuildTask

/-- What can be seen of a build that is cancelled while its maps are being
    composed. -/
structure Interruption where
  /-- The names of the files in each workspace below the root. -/
  workspaces : List (List Text)
  /-- Whether the build had ended before the composition had. -/
  doneMeanwhile : Bool
  outcome : Except Failure Result

/-- The names of the files in each directory below a path, in order. -/
def directoryListings (m : Machine) (root : Path) : List (List Text) :=
  let ordered := fun names : List Text => names.mergeSort fun a b => !Text.less b a
  match m.files.locate m.here .target root.toText with
  | .ok (.found l .directory) =>
      (ordered (m.files.names l)).filterMap fun name =>
        match m.files.entry? (l ++ [name]) with
        | some .directory => some (ordered (m.files.names (l ++ [name])))
        | _ => none
  | _ => []

/-- Whether the maps of a build are being composed: they could be
    read. -/
def isComposing (t : BuildTask) : Bool :=
  match t.body, t.workspace? with
  | some ⟨.collecting _ .running, _⟩, some ws =>
      match ((readMaps t.job.request.sourceMap ws.bytecodeMap).perform t.scope.machine).1 with
      | .ok _ => true
      | .error _ => false
  | _, _ => false

/-- Cancels a build while its maps are being composed, and lets it come to
    its end.  A build whose maps cannot be read is not cancelled. -/
def interruptComposition (t : BuildTask) (root : Path) : Interruption × Machine :=
  let seen := t.follow (if isComposing t then [.cancel] else BuildTask.eventsFromComposition)
  let last := seen.follow BuildTask.eventsFromComposition
  (⟨if isComposing t then directoryListings seen.scope.machine root else [],
    seen.scope.outcome?.isSome, last.scope.outcome?.getD (.error .cancelled)⟩,
    last.scope.machine)

/-- Runs a build and cancels it while its maps are being composed. -/
def runInterrupted (programs : Programs) (job : Job) (root : Path) : Action Interruption := do
  match ← Action.attempt (equip job) with
  | .error f => return ⟨[], true, .error f⟩
  | .ok (composer, compiler) => do
      let m ← get
      let t := BuildTask.begin programs job composer compiler m
      let (interruption, after) :=
        interruptComposition (t.follow BuildTask.eventsToComposition) root
      set after
      return interruption

end HermesBundle.Build
