import HermesBundle.Machine

/-! # Programs — running other programs

    What programs do is given from outside, as a function from the files
    and an invocation to the changed files and a conclusion.  A build can
    thus be studied with every compiler, and run with a concrete one.

    A program may also move the directory that it was started from, or one
    above it; the caller then stands in the same directory at another
    place. -/

namespace HermesBundle.Build

/-- A request to run a program. -/
structure Invocation where
  /-- The program as it is named, and its arguments. -/
  argv : List Text
  /-- The directory to run in, if not the current one. -/
  directory : Option Text
  environment : Entries Text
  input : Bytes
  /-- After how many milliseconds the program is killed. -/
  allowed : Option Nat

/-- How a run ended. -/
inductive Conclusion where
  /-- The program could not be started. -/
  | notStarted (errno : Errno)
  /-- The directory to run in could not be entered. -/
  | notEntered (errno : Errno)
  /-- It ended by itself, or by a signal, which counts negative. -/
  | ended (status : Int) (out err : Bytes) (time : Nat)
  /-- It was still running when its time was up, and was killed. -/
  | killed

/-- What programs do, seen from a directory: the files afterwards, where
    the directory is then, and how the run ended. -/
abbrev Programs := FileSystem → Location → Invocation → FileSystem × Location × Conclusion

/-- Runs a program, which takes its time on the machine's clock. -/
def runProgram (programs : Programs) (argv : List Text) (directory : Option Text)
    (input : Bytes) (allowed : Option Nat) : Action Conclusion := do
  for argument in argv ++ directory.toList do
    Action.checkName argument
  let m ← get
  let (files, here, conclusion) :=
    programs m.files m.here ⟨argv, directory, m.environment, input, allowed⟩
  let time :=
    match conclusion with
    | .ended _ _ _ time => time
    | .killed => allowed.getD 0
    | _ => 0
  set { m with clock := m.clock + time, here := here }
  Action.settle files
  return conclusion

end HermesBundle.Build
