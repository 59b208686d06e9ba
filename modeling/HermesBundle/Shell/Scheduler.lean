import HermesBundle.Shell.Session

/-! # The scheduler — which process goes on

    Processes take turns in the order in which they came to wait.  One
    that can go on runs until it has to wait again.  The clock moves only
    when no process can go on. -/

namespace HermesBundle.Shell

/-- A process that waits. -/
structure Sleeper where
  context : Context
  wait : List Condition
  resume : State → Resumption Nat

/-- The processes and what they share. -/
structure Schedule where
  world : World
  /-- The processes in the order in which they came to wait. -/
  queue : List Sleeper

namespace World

/-- Whether a condition holds for a process. -/
def holds (w : World) (c : Context) : Condition → Bool
  | .input pipe =>
      ((w.pipes.lookup pipe).any fun p => p.size != 0) || !w.hasEnd pipe true
  | .room pipe =>
      ((w.pipes.lookup pipe).all fun p => p.limit.all fun limit => p.size < limit)
        || !w.hasEnd pipe false
  | .reader pipe => w.hasEnd pipe false
  | .writer pipe => w.hasEnd pipe true || (w.pipes.lookup pipe).any fun p => p.size != 0
  | .time clock => clock ≤ w.clock
  | .ended process => (w.accounts.lookup process).all fun a => a.ended.isSome
  | .signal => !c.pending.isEmpty
  | .turn => true

/-- Whether a process can go on. -/
def isReady (w : World) (p : Sleeper) : Bool :=
  !((w.accounts.lookup p.context.process).any (·.isStopped)) && p.wait.any (w.holds p.context)

/-- A process has ended. -/
def bury (w : World) (c : Context) (ending : Ending) : World :=
  let w := w.releaseAll c.descriptors
  { w with accounts := changeAt w.accounts c.process fun a => { a with ended := some ending } }

end World

namespace Schedule

/-- The processes that are to begin, as ones that wait for their turn. -/
def begun (w : World) : List Sleeper :=
  w.newborn.map fun n => ⟨n.context, [.turn], fun s => (runJob n.job).start s⟩

/-- What comes of a process that was run for a while.  `fuel` bounds how
    often it goes on as another program. -/
def settle : Nat → Schedule → Resumption Nat → Schedule
  | fuel, sched, .finished outcome s =>
      match outcome with
      | .ok status => ended sched s (.exited (status % 256))
      | .error (.killed signal) => ended sched s (.killed signal)
      | .error (.exited status) => ended sched s (.exited (status % 256))
      | .error (.failed status) => ended sched s (.exited (status % 256))
      | .error (.returned status) => ended sched s (.exited (status % 256))
      | .error (.replaced image) =>
          match fuel with
          | 0 => ended sched s (.killed 9)
          | fuel + 1 => settle fuel sched ((runImage image).start s)
      | .error _ =>
          -- A run without an end waits for something that never comes.
          paused sched s [.ended s.process] fun t => .finished (.error .stuck) t
  | _, sched, .paused wait s resume => paused sched s wait resume
where
  /-- The process has ended. -/
  ended (sched : Schedule) (s : State) (ending : Ending) : Schedule :=
    let w := s.toWorld.bury s.toContext ending
    ⟨{ w with newborn := [] }, sched.queue ++ begun w⟩
  /-- The process waits. -/
  paused (sched : Schedule) (s : State) (wait : List Condition)
      (resume : State → Resumption Nat) : Schedule :=
    ⟨{ s.toWorld with newborn := [] },
      sched.queue ++ begun s.toWorld ++ [⟨s.toContext, wait, resume⟩]⟩

/-- How often a process can go on as another program without waiting. -/
def replacementLimit : Nat := 1000

/-- Lets a process go on. -/
def advance (sched : Schedule) (p : Sleeper) : Schedule :=
  settle replacementLimit sched
    (p.resume { toContext := sched.world.carry p.context, toWorld := sched.world })

/-- Lets a signal reach a process; none if it ends. -/
def receive (w : World) (p : Sleeper) (signal : Nat) : World × Option Sleeper :=
  let mark := fun isStopped : Bool =>
    { w with accounts := changeAt w.accounts p.context.process fun a =>
      { a with isStopped := isStopped } }
  match p.context.reaction signal with
  | .ends => (w.bury p.context (.killed signal), none)
  | .stops => (mark true, some p)
  | .continues => (mark false, some p)
  | .ignored => (w, some p)
  | .answers =>
      (w, some { p with context := { p.context with pending := p.context.pending ++ [signal] } })

/-- Lets the signals that were sent reach a process. -/
def receiveAll (w : World) (p : Sleeper) : World × Option Sleeper :=
  match w.accounts.lookup p.context.process with
  | none => (w, some p)
  | some account =>
      if account.signals.isEmpty then (w, some p)
      else
        let w : World :=
          { w with accounts := changeAt w.accounts p.context.process fun a =>
            { a with signals := [] } }
        account.signals.foldl
          (fun (w, p) signal =>
            match p with
            | some p => receive w p signal
            | none => (w, none))
          (w, some p)

/-- Lets all signals reach their processes. -/
def deliver (sched : Schedule) : Schedule :=
  if sched.world.accounts.all fun (_, a) => a.signals.isEmpty then sched
  else
    let (w, queue) := sched.queue.foldl
      (fun (w, kept) p =>
        let (w, p) := receiveAll w p
        (w, p.toList ++ kept))
      (sched.world, [])
    ⟨w, queue.reverse⟩

/-- Takes the first process that can go on out of the queue; the ones
    before it are given in reverse. -/
def takeReady (w : World) : List Sleeper → List Sleeper → Option (Sleeper × List Sleeper)
  | [], _ => none
  | p :: rest, before =>
      if w.isReady p then some (p, before.reverse ++ rest) else takeReady w rest (p :: before)

/-- The earliest time that some process waits for. -/
def nextTime (sched : Schedule) : Option Nat :=
  let times := sched.queue.flatMap fun p =>
    if (sched.world.accounts.lookup p.context.process).any (·.isStopped) then []
    else p.wait.filterMap fun
      | .time clock => some clock
      | _ => none
  times.min?

/-- How many turns there are at most. -/
def turnLimit : Nat := 100000000

/-- Lets processes go on until something holds of the world, time is up or
    none can go on.  Without time, the clock does not move. -/
def runUntil (isDone : World → Bool) (limit : Option Nat) (movesClock : Bool) :
    Nat → Schedule → Schedule
  | 0, sched => sched
  | fuel + 1, sched =>
      let sched := sched.deliver
      if isDone sched.world || limit.any fun t => t ≤ sched.world.clock then sched
      else
        match takeReady sched.world sched.queue [] with
        | some (p, rest) =>
            runUntil isDone limit movesClock fuel (advance { sched with queue := rest } p)
        | none =>
            match if movesClock then sched.nextTime else none with
            | none => sched
            | some t =>
                let t := match limit with
                  | some last => min t last
                  | none => t
                runUntil isDone limit movesClock fuel
                  { sched with world := { sched.world with clock := t } }

end Schedule

end HermesBundle.Shell
