import HermesBundle.Machine

/-! # Errands — work that a task leaves to the worker pool

    An errand is queued until a worker takes it up, and from then on
    nothing interrupts it.  Its effect on the machine is that of one
    action, which takes place when the errand ends.  Only an errand that
    no worker has taken up can be dropped. -/

namespace HermesBundle.Build

/-- How far an errand has come. -/
inductive Errand (α : Type) where
  | queued
  | running
  | done (outcome : Except Failure α)
  | dropped

namespace Errand

variable {α : Type}

/-- A worker takes the errand up. -/
def start? : Errand α → Option (Errand α)
  | .queued => some .running
  | _ => none

/-- A running errand ends. -/
def finish? (work : Action α) (m : Machine) : Errand α → Option (Errand α × Machine)
  | .running =>
      let (outcome, after) := work.perform m
      some (.done outcome, after)
  | _ => none

/-- The errand after the wait for it has been given up. -/
def drop : Errand α → Errand α
  | .queued => .dropped
  | errand => errand

/-- Whether a worker is at work on the errand. -/
def isRunning : Errand α → Bool
  | .running => true
  | _ => false

/-- Whether the errand will still be worked on. -/
def isPending : Errand α → Bool
  | .queued => true
  | .running => true
  | _ => false

/-- The outcome of an errand that is done. -/
def outcome? : Errand α → Option (Except Failure α)
  | .done outcome => some outcome
  | _ => none

end Errand

end HermesBundle.Build
