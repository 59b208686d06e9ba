import HermesBundle.Shell.World

/-! # Processes — runs that can wait for each other

    A run changes the state of its process and ends with a value or stops.
    Where it has to wait it is a resumption: the state so far, what it
    waits for, and how it goes on.  Who goes on next is for the scheduler
    to say; a run by itself is a function. -/

namespace HermesBundle.Shell

/-- The state of a process: what it has for itself and the world. -/
structure State extends Context, World

/-- Something that a process waits for. -/
inductive Condition where
  /-- There is something to read from a pipe, or no one can write to it. -/
  | input (pipe : Nat)
  /-- There is room in a pipe, or no one can read from it. -/
  | room (pipe : Nat)
  /-- The other end of a pipe is opened. -/
  | reader (pipe : Nat)
  | writer (pipe : Nat)
  | time (clock : Nat)
  | ended (process : Nat)
  /-- A signal with an action has come. -/
  | signal
  /-- Other processes had their turn. -/
  | turn
deriving DecidableEq

/-- Why a run stops before its end. -/
inductive Stop where
  | exited (status : Nat)
  /-- Something is wrong that ends a script, but not the command of a shell
      that finds it. -/
  | failed (status : Nat)
  | killed (signal : Nat)
  /-- The process goes on as another program. -/
  | replaced (image : Image)
  /-- There is no end to the run. -/
  | stuck
  /-- Loops are left, or the next round begins. -/
  | leaveLoops (count : Nat)
  | nextRound (count : Nat)
  /-- A function is left. -/
  | returned (status : Nat)

/-- A run up to its end or to the point where it waits. -/
inductive Resumption (α : Type) where
  | finished (outcome : Except Stop α) (s : State)
  | paused (wait : List Condition) (s : State) (resume : State → Resumption α)

namespace Resumption

variable {α β : Type}

/-- Goes on with the value that a run ends with. -/
def andThen (r : Resumption α) (f : α → State → Resumption β) : Resumption β :=
  match r with
  | .finished (.ok a) s => f a s
  | .finished (.error stop) s => .finished (.error stop) s
  | .paused wait s resume => .paused wait s fun t => (resume t).andThen f

/-- Goes on after a stop. -/
def orElse (r : Resumption α) (f : Stop → State → Resumption α) : Resumption α :=
  match r with
  | .finished (.ok a) s => .finished (.ok a) s
  | .finished (.error stop) s => f stop s
  | .paused wait s resume => .paused wait s fun t => (resume t).orElse f

end Resumption

/-- A piece of the work of a process. -/
def Run (α : Type) : Type := State → Resumption α

namespace Run

/-- The run of a piece of work from a state. -/
def start {α : Type} (piece : Run α) (s : State) : Resumption α := piece s

/-- A piece of work with a value that is known. -/
@[always_inline, inline]
protected def pure {α : Type} (a : α) : Run α := fun s => .finished (.ok a) s

/-- One piece of work after another. -/
@[always_inline, inline]
protected def bind {α β : Type} (piece : Run α) (f : α → Run β) : Run β := fun s =>
  match piece s with
  | .finished (.ok a) s => f a s
  | .finished (.error stop) s => .finished (.error stop) s
  | .paused wait s resume => .paused wait s fun t => (resume t).andThen f

instance : Monad Run where
  pure := Run.pure
  bind := Run.bind

instance : MonadStateOf State Run where
  get := fun s => .finished (.ok s) s
  set s := fun _ => .finished (.ok ()) s
  modifyGet f := fun s =>
    let (a, t) := f s
    .finished (.ok a) t

instance : MonadExceptOf Stop Run where
  throw stop := fun s => .finished (.error stop) s
  tryCatch piece handler := fun s => (piece s).orElse handler

instance {α : Type} : Inhabited (Run α) := ⟨fun s => .finished (.error .stuck) s⟩

/-- Waits until one of some conditions holds. -/
def await (wait : List Condition) : Run Unit := fun s =>
  .paused wait s fun t => .finished (.ok ()) t

/-- Runs a piece and then another one, however the first one ends. -/
def ensuring {α : Type} (piece : Run α) (after : Run Unit) : Run α := do
  let a ← tryCatch piece fun stop => do
    after
    throw stop
  after
  return a

/-- How many commands a run can have in all. -/
def tickLimit : Nat := 3000000

/-- How many commands a process runs before others have their turn. -/
def slice : Nat := 1000

/-- How many milliseconds these commands take. -/
def sliceTime : Nat := 5

/-- The signal that is sent to a process that has used its time. -/
def timeSignal : Nat := 24

/-- The commands that a process runs in a second. -/
def ticksPerSecond : Nat := 1000 / sliceTime * slice

/-- The signal that is sent to a process that has run a number of commands, if
    it has used up the time that it may use. -/
def overdueSignal (limit : Option Limit) (used : Nat) : Option Nat :=
  let seconds := used / ticksPerSecond
  match limit with
  | none => none
  | some ⟨soft, hard⟩ =>
      if used % ticksPerSecond != 0 then none
      else if hard.any fun n => max 1 n ≤ seconds then some 9
      else if soft.any fun n => max 1 n ≤ seconds then some timeSignal
      else none

/-- Counts a command. -/
def tick : Run Unit := do
  let s ← get
  let s := { s with used := s.used + 1 }
  set s
  match overdueSignal (s.limits.lookup 't') s.used with
  | some signal =>
      match s.traps.lookup signal with
      | some action => if !action.isEmpty then set { s with pending := s.pending ++ [signal] }
      | none => throw (.killed signal)
  | none => pure ()
  let s ← get
  let ticks := s.ticks + 1
  if tickLimit < ticks then throw .stuck
  else if ticks % slice = 0 then do
    set { s with ticks := ticks, clock := s.clock + sliceTime }
    await [.turn]
  else set { s with ticks := ticks }

/-- Lets time pass. -/
def sleep (milliseconds : Nat) : Run Unit := do
  let s ← get
  await [.time (s.clock + milliseconds)]

/-- A number for a node, an opening or a pipe. -/
def fresh : Run Nat := do
  let s ← get
  set { s with next := s.next + 1 }
  return s.next

/-- Starts a process, which shares the descriptors of this one. -/
def fork (job : Job) : Run Nat := do
  let s ← get
  let number := s.nextProcess
  let child : Context :=
    { s.toContext with
      process := number, parent := s.process, unwritten := [], unwrittenSize := 0 }
  let world : World := s.toWorld.retainAll child.descriptors
  let born : Newborn := ⟨job, child⟩
  let account : Account := ⟨s.process, none, [], false⟩
  set { s with
    toWorld := { world with
      nextProcess := number + 1
      newborn := world.newborn ++ [born]
      accounts := world.accounts ++ [(number, account)] } }
  return number

/-- How a process ended, if it has. -/
def endingOf (process : Nat) : Run (Option Ending) := do
  let s ← get
  return (s.accounts.lookup process).bind (·.ended)

/-- Waits for a process to end. -/
def join (process : Nat) : Run Ending := do
  await [.ended process]
  return (← endingOf process).getD (.exited 0)

end Run

end HermesBundle.Shell
