import HermesBundle.Shell.Builtins.Arguments
import HermesBundle.Shell.Modes
import HermesBundle.Shell.Signals

/-! # Jobs — what runs in the background, and signals

    A job is waited for by its number or by its last process.  Signals
    have actions, which are run between commands.  The limits of a process
    can be asked for here as well. -/

namespace HermesBundle.Shell.Builtin

/-- The last process of a job. -/
def lastProcess (job : BackgroundJob) : Nat := job.processes.getLast?.getD 0

/-- Whether all processes of a job have ended. -/
def hasEnded (w : World) (job : BackgroundJob) : Bool :=
  job.processes.all fun p => ((w.accounts.lookup p).bind (·.ended)).isSome

/-- The job that a reference stands for. -/
def findJob (reference : String) : Run BackgroundJob := do
  let jobs := (← get).jobs
  let found :=
    match reference.toList with
    | '%' :: t =>
        match decimal? t with
        | some n => jobs.find? fun job => job.number == n
        | none =>
            if t.isEmpty || t == ['%'] || t == ['+'] then jobs.head?
            else if t == ['-'] then jobs[1]?
            else none
    | _ => none
  match found with
  | some job => return job
  | none =>
      if reference == "%" || reference == "%%" || reference == "%+" then Run.fail "No current job"
      else if reference == "%-" then Run.fail "No previous job"
      else Run.fail ("No such job: " ++ reference)

/-- Waits for a process to end; the signal is returned that comes before
    that and has an action. -/
def waitFor : Nat → List Nat → Run (Option Nat)
  | 0, _ => return none
  | _, [] => return none
  | fuel + 1, process :: rest => do
      Run.await [.ended process, .signal]
      match (← get).pending with
      | signal :: _ => return some signal
      | [] => waitFor fuel rest

/-- Says of processes that they were killed. -/
def reportEndings (processes : List Nat) : Run Unit := do
  for process in processes do
    match ← Run.endingOf process with
    | some (.killed signal) =>
        if signal != 2 && signal != 13 then Run.report (signalText signal ++ "\n").toList
    | _ => pure ()

/-- The status of a process that has ended. -/
def statusOf (process : Nat) : Run Nat := do
  return ((← Run.endingOf process).map Ending.status).getD 0

/-- Waits for jobs or processes to end. -/
def wait : Builtin := fun arguments => do
  let a ← divideArguments "" arguments
  if a.operands.isEmpty then
    let processes := (← get).jobs.reverse.flatMap (·.processes)
    match ← waitFor (processes.length + 1) processes with
    | some signal => return 128 + signal
    | none => do
        modify fun s => { s with jobs := s.jobs.map fun job => { job with isKnown := true } }
        return 0
  else
    let mut status := 127
    for reference in a.operands do
      let job ←
        if reference.toList.head? == some '%' then do pure (some (← findJob reference))
        else do
          let n ← numberArgument reference
          pure ((← get).jobs.find? fun job => lastProcess job == n)
      match job with
      | none => status := 127
      | some job => do
          match ← waitFor (job.processes.length + 1) job.processes with
          | some signal => return 128 + signal
          | none => do
              if !job.isKnown then reportEndings job.processes
              modify fun s => { s with
                jobs := s.jobs.map fun other =>
                  if other.number == job.number then { other with isKnown := true } else other }
              status ← statusOf (lastProcess job)
    return status

/-- The line that shows a job. -/
def jobLine (jobs : List BackgroundJob) (w : World) (job : BackgroundJob) (withNumber : Bool) :
    Octets :=
  let mark :=
    if (jobs.head?.map (·.number)) == some job.number then '+'
    else if (jobs[1]?.map (·.number)) == some job.number then '-'
    else ' '
  let ending := (w.accounts.lookup (lastProcess job)).bind (·.ended)
  let condition :=
    if !hasEnded w job then "Running"
    else
      match ending with
      | some (.exited status) =>
          if status = 0 then "Done" else "Done(" ++ toString status ++ ")"
      | some (.killed signal) => signalText signal
      | none => "Done"
  let number := if withNumber then decimal (job.processes.headD 0) ++ [' '] else []
  padRight ' ' 33 (['['] ++ decimal job.number ++ "] ".toList ++ [mark, ' '] ++ number
    ++ condition.toList) ++ ['\n']

/-- Shows jobs. -/
def showJobs : Builtin := fun arguments => do
  let a ← divideArguments "lp" arguments
  let s ← get
  let shown ← if a.operands.isEmpty then pure s.jobs else a.operands.mapM findJob
  for job in shown do
    if a.has 'p' then Run.printLine (decimal (job.processes.headD 0))
    else do
      Run.print (jobLine s.jobs s.toWorld job (a.has 'l'))
      if hasEnded s.toWorld job then
        modify fun t => { t with jobs := t.jobs.filter fun other => other.number != job.number }
  return 0

/-- Resumes a job, which takes a terminal that scripts do not have. -/
def resume : Builtin := fun arguments => do
  let a ← divideArguments "" arguments
  match a.operands with
  | [] => do
      if (← get).jobs.isEmpty then Run.fail "No current job"
      else Run.fail "job (null) not created under job control"
  | reference :: _ => do
      let _ ← findJob reference
      Run.fail ("job " ++ reference ++ " not created under job control")

/-- Sends a signal to one target; false if that is not possible. -/
def signalTarget (signal : Nat) (target : String) : Run Bool := do
  match target.toList with
  | '%' :: _ => do
      let _ ← findJob target
      return false
  | '-' :: t => do
      let _ ← numberArgument (String.ofList t)
      return false
  | _ => do Run.sendSignal (← numberArgument target) signal

/-- How the builtin that sends signals is used. -/
def killUsage : String :=
  "Usage: kill [-s sigspec | -signum | -sigspec] [pid | job]... or\nkill -l [exitstatus]"

/-- Lists signals. -/
def listSignals (operands : List String) : Run Nat := do
  match operands with
  | [] => do
      Run.printString "0\n"
      for n in List.range (signalLimit - 1) do
        Run.printString (signalName (n + 1) ++ "\n")
      return 0
  | operand :: _ => do
      let n ← numberArgument operand
      let n := if 128 < n then n - 128 else n
      if 0 < n && n < signalLimit then
        Run.printString (signalName n ++ "\n")
        return 0
      else Run.fail ("invalid signal number or exit status: " ++ operand)

/-- Sends a signal to targets in turn. -/
def signalTargets (signal : Nat) (targets : List String) : Run Nat := do
  let mut status := 0
  for target in targets do
    if !(← signalTarget signal target) then
      Run.complain "No such process\n"
      status := 1
  return status

/-- Sends signals, or lists them. -/
def kill : Builtin := fun arguments => do
  match arguments with
  | [] => Run.fail killUsage
  | first :: rest =>
      match first.toList with
      | '-' :: t =>
          match signalOf 1 (String.ofList t) with
          | some signal =>
              if rest.isEmpty then Run.fail killUsage else signalTargets signal rest
          | none => do
              let a ← divideArguments "ls:" arguments
              let signal ← match a.value? 's' with
                | none => pure none
                | some name =>
                    match signalOf 1 name with
                    | some signal => pure (some signal)
                    | none => Run.fail ("invalid signal number or name: " ++ name)
              if a.has 'l' then
                if signal.isSome then Run.fail killUsage else listSignals a.operands
              else if a.operands.isEmpty then Run.fail killUsage
              else signalTargets (signal.getD 15) a.operands
      | _ => signalTargets 15 arguments

/-- Sets what is run when a signal comes or at the end, or shows it. -/
def trap : Builtin := fun arguments => do
  let a ← divideArguments "" arguments
  match a.operands with
  | [] => do
      let s ← get
      for n in List.range signalLimit do
        match s.traps.lookup n with
        | some action =>
            Run.printString ("trap -- " ++ inReadableQuotes action ++ " " ++ signalName n ++ "\n")
        | none => pure ()
      return 0
  | first :: rest => do
      let resets := rest.isEmpty || (decimal? first.toList).any fun n => n < signalLimit
      let action := if resets || first == "-" then none else some first
      for occasion in (if resets then first :: rest else rest) do
        match signalOf 0 occasion with
        | none => do
            Run.report ("trap: " ++ occasion ++ ": bad trap\n").toList
            return 1
        | some n =>
            modify fun s =>
              let others := s.traps.filter fun (m, _) => m != n
              { s with traps := (action.map fun t => (n, t)).toList ++ others }
      return 0

/-! ## Limits -/

/-- Shows or sets the permissions that new files do not get. -/
def umask : Builtin := fun arguments => do
  let a ← divideArguments "S" arguments
  let mask := (← get).mask
  match a.operands with
  | [] => do
      let left := without 0o777 mask
      if a.has 'S' then
        Run.printLine ("u=".toList ++ classLetters (left / 64) ++ ",g=".toList
          ++ classLetters (left / 8 % 8) ++ ",o=".toList ++ classLetters (left % 8))
      else Run.printLine (zeroPadded 8 4 mask)
      return 0
  | operand :: _ => do
      if (operand.toList.head?.map isDigit).getD false then
        if operand.toList.all isOctal then
          modify fun s => { s with mask := valueOfDigits 8 operand.toList % 0o1000 }
          return 0
        else refuseNumber operand
      else
        match modeOf operand.toList with
        | some f => do
            modify fun s => { s with mask := without 0o777 (f false 0 (without 0o777 mask)) }
            return 0
        | none => Run.fail ("Illegal mode: " ++ operand)

/-- Something that is limited. -/
structure Resource where
  letter : Char
  name : String
  /-- What its numbers are multiples of. -/
  unit : Nat
  /-- The limit of a process that was given no other. -/
  limit : Limit

/-- No limit. -/
def boundless : Limit := ⟨none, none⟩

/-- What is limited. -/
def resources : List Resource :=
  [⟨'t', "time(seconds)", 1, boundless⟩, ⟨'f', "file(blocks)", 512, boundless⟩,
   ⟨'d', "data(kbytes)", 1024, boundless⟩, ⟨'s', "stack(kbytes)", 1024, ⟨some stackSize, none⟩⟩,
   ⟨'c', "coredump(blocks)", 512, ⟨some 0, none⟩⟩, ⟨'m', "memory(kbytes)", 1024, boundless⟩,
   ⟨'l', "locked memory(kbytes)", 1024, ⟨some 8388608, some 8388608⟩⟩,
   ⟨'p', "process", 1, ⟨some 128620, some 128620⟩⟩, ⟨'n', "nofiles", 1, ⟨some 20000, some 20000⟩⟩,
   ⟨'v', "vmemory(kbytes)", 1024, boundless⟩, ⟨'w', "locks", 1, boundless⟩,
   ⟨'r', "rtprio", 1, ⟨some 0, some 0⟩⟩]

/-- A limit in words. -/
def limitText (unit : Nat) (limit : Option Nat) : Octets :=
  match limit with
  | none => "unlimited".toList
  | some n => decimal (n / unit)

/-- Whether a limit is below another, where none is above all. -/
def isBelow (a b : Option Nat) : Bool :=
  match a, b with
  | some a, some b => a < b
  | some _, none => true
  | none, _ => false

/-- Sets a limit.  How far it can be moved cannot be raised. -/
def setLimit (r : Resource) (soft hard : Bool) (value : Option Nat) : Run Unit := do
  let s ← get
  let before := (s.limits.lookup r.letter).getD r.limit
  let after : Limit :=
    ⟨if soft then value else before.soft, if hard then value else before.hard⟩
  let failed := fun (e : Errno) => Run.fail ("error setting limit (" ++ e.text ++ ")")
  if isBelow after.hard after.soft then failed .invalid
  else if isBelow before.hard after.hard then failed .notPermitted
  else set { s with limits := (r.letter, after) :: s.limits.filter fun (l, _) => l != r.letter }

/-- Shows or sets limits. -/
def ulimit : Builtin := fun arguments => do
  let a ← divideArguments "HSatfdscmlpnvwr" arguments
  let letters := a.options.map (·.1)
  let how := (letters.filter fun l => l == 'H' || l == 'S').getLast?
  let showsHard := how == some 'H'
  let s ← get
  let limitOf := fun (r : Resource) =>
    let limit := (s.limits.lookup r.letter).getD r.limit
    limitText r.unit (if showsHard then limit.hard else limit.soft)
  let letter :=
    ((letters.filter fun l => l != 'H' && l != 'S' && l != 'a').getLast?).getD 'f'
  match a.operands, resources.find? fun r => r.letter == letter with
  | [], some r => do
      if a.has 'a' then
        for r in resources do
          Run.printLine (padRight ' ' 20 r.name.toList ++ [' '] ++ limitOf r)
      else Run.printLine (limitOf r)
      return 0
  | [operand], some r => do
      if a.has 'a' then Run.fail "too many arguments"
      else
        let value ←
          if operand == "unlimited" then pure none
          else if operand.toList.all isDigit then
            pure (some (valueOfDigits 10 operand.toList * r.unit))
          else Run.fail "bad number"
        setLimit r (how != some 'H') (how != some 'S') value
        return 0
  | _, _ => Run.fail "too many arguments"

/-- Shows how much time was used. -/
def times : Builtin := fun _ => do
  Run.printString "0m0.000000s 0m0.000000s\n0m0.000000s 0m0.000000s\n"
  return 0

end HermesBundle.Shell.Builtin
