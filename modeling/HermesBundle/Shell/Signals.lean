import HermesBundle.Shell.Process

/-! # Signals — their names and what they do

    A signal has a number and a name.  A process that has no action for it
    ends, stops or goes on as if nothing had happened. -/

namespace HermesBundle.Shell

/-- The names of the first signals, which start with number 1. -/
def signalNames : List String :=
  ["HUP", "INT", "QUIT", "ILL", "TRAP", "ABRT", "BUS", "FPE", "KILL", "USR1", "SEGV", "USR2",
   "PIPE", "ALRM", "TERM", "16", "CHLD", "CONT", "STOP", "TSTP", "TTIN", "TTOU", "URG",
   "XCPU", "XFSZ", "VTALRM", "PROF", "WINCH", "IO", "PWR", "SYS"]

/-- The first number that is not a signal. -/
def signalLimit : Nat := 65

/-- The name of a signal. -/
def signalName (n : Nat) : String :=
  if n = 0 then "EXIT"
  else if n ≤ 31 then signalNames[n - 1]?.getD ""
  else if n < 34 then toString n
  else if n = 34 then "RTMIN"
  else if n < 50 then "RTMIN+" ++ toString (n - 34)
  else if n < 64 then "RTMAX-" ++ toString (64 - n)
  else "RTMAX"

/-- The signal that a number or a name stands for; names count from some
    number on. -/
def signalOf (lowest : Nat) (t : String) : Option Nat :=
  match decimal? t.toList with
  | some n => if n < signalLimit then some n else none
  | none =>
      let capitals := String.ofList (t.toList.map raised)
      (List.range signalLimit).find? fun n => lowest ≤ n && signalName n == capitals

/-- What a signal does to a process that has no action for it. -/
inductive SignalEffect where
  | ends
  | stops
  | continues
  | ignored
deriving DecidableEq

/-- What a signal does to a process that has no action for it. -/
def signalEffect (n : Nat) : SignalEffect :=
  if [19, 20, 21, 22].contains n then .stops
  else if n = 18 then .continues
  else if [17, 23, 28].contains n then .ignored
  else .ends

/-- What is said of a process that was killed by a signal. -/
def signalText (n : Nat) : String :=
  match n with
  | 1 => "Hangup"
  | 2 => "Interrupt"
  | 3 => "Quit"
  | 4 => "Illegal instruction"
  | 5 => "Trace/breakpoint trap"
  | 6 => "Aborted"
  | 7 => "Bus error"
  | 8 => "Floating point exception"
  | 9 => "Killed"
  | 10 => "User defined signal 1"
  | 11 => "Segmentation fault"
  | 12 => "User defined signal 2"
  | 13 => "Broken pipe"
  | 14 => "Alarm clock"
  | 15 => "Terminated"
  | 16 => "Stack fault"
  | 24 => "CPU time limit exceeded"
  | 25 => "File size limit exceeded"
  | 26 => "Virtual timer expired"
  | 27 => "Profiling timer expired"
  | 29 => "I/O possible"
  | 30 => "Power failure"
  | 31 => "Bad system call"
  | n =>
      if 34 ≤ n && n < 65 then "Real-time signal " ++ toString (n - 34)
      else "Unknown signal " ++ toString n

/-- What comes of a signal for a process. -/
inductive Reaction where
  | ends
  | stops
  | continues
  | ignored
  /-- There is an action for it, which is to be run. -/
  | answers
deriving DecidableEq

/-- What comes of a signal for a process. -/
def Context.reaction (s : Context) (signal : Nat) : Reaction :=
  let plain : Reaction :=
    match signalEffect signal with
    | .ends => .ends
    | .stops => .stops
    | .continues => .continues
    | .ignored => .ignored
  if signal = 9 || signal = 19 then plain
  else if s.deaf.contains signal then .ignored
  else
    match s.traps.lookup signal with
    | some "" => .ignored
    | some _ => .answers
    | none => plain

namespace Run

/-- Sends a signal to a process; false if there is none. -/
def sendSignal (process signal : Nat) : Run Bool := do
  let s ← get
  if process = s.process then
    if signal = 0 then return true
    match s.toContext.reaction signal with
    | .ends => throw (.killed signal)
    | .stops => throw .stuck
    | .continues => return true
    | .ignored => return true
    | .answers => do
        set { s with pending := s.pending ++ [signal] }
        return true
  else
    match s.accounts.lookup process with
    | none => return false
    | some account =>
        if account.ended.isSome then return false
        else do
          if signal != 0 then
            set { s with
              accounts := changeAt s.accounts process fun a =>
                { a with signals := a.signals ++ [signal] } }
          return true

end Run

end HermesBundle.Shell
