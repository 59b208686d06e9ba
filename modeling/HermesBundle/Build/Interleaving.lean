import HermesBundle.Build.Pipeline

/-! # Interleavings — several builds at the same time

    Builds that run at the same time share one machine.  Each of them
    takes its steps in order, but the steps of different builds come in
    any order: a schedule names the build that takes the next step. -/

namespace HermesBundle.Build

/-- Builds under way, each with the stage it has reached. -/
abbrev Site := List (Job × Stage)

namespace Site

/-- Builds of which none has begun. -/
def ofJobs (jobs : List Job) : Site := jobs.map fun job => (job, .begun)

/-- One build takes a step. -/
def advanceAt (programs : Programs) (site : Site) (index : Nat) : Action Site :=
  match site[index]? with
  | none => return site
  | some (job, stage) => do
      let next ← advance programs job stage
      return site.set index (job, next)

/-- Builds take steps as a schedule says. -/
def follow (programs : Programs) (site : Site) : List Nat → Action Site
  | [] => return site
  | index :: rest => do
      let next ← advanceAt programs site index
      follow programs next rest

/-- The outcomes in the order of the jobs; a build that has not ended has
    none. -/
def outcomes (site : Site) : List (Option (Except Failure Result)) :=
  site.map fun (_, stage) => stage.outcome?

/-- Whether all builds have ended. -/
def hasEnded (site : Site) : Bool := site.outcomes.all Option.isSome

end Site

/-- The schedule by which some builds take their steps in turn. -/
def inTurn (count : Nat) : List Nat := (List.replicate stepCount (List.range count)).flatten

/-- Runs builds at the same time and reports their outcomes in the order
    of the jobs. -/
def runTogether (programs : Programs) (jobs : List Job) :
    Action (List (Except Failure Result)) := do
  let site ← (Site.ofJobs jobs).follow programs (inTurn jobs.length)
  return site.outcomes.map fun outcome => outcome.getD (.error .cancelled)

end HermesBundle.Build
