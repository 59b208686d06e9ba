import HermesBundle.Shell.Tools.Invocation

/-! # Closing — what programs do with their input and output at their end

    A program closes its input and its output when it is done.  If what it
    printed could not be written, it says so and ends with a status that
    tells of that.  Programs differ in the words that they use and in the
    status; most of them say only that there was a write error. -/

namespace HermesBundle.Shell.Tool

/-- What the programs that close their input at their end complain about if
    they cannot. -/
def inputLabels : List (String × String) :=
  [("cat", "closing standard input"), ("fmt", "closing standard input")]
    ++ ["head", "tail", "wc", "cut", "fold", "nl", "paste", "tac", "expand", "unexpand"].map (·, "-")
    ++ ["od", "tee", "cksum", "sum", "md5sum", "sha1sum", "sha224sum", "sha256sum", "sha384sum",
        "sha512sum", "b2sum"].map (·, inputTitle)

/-- The statuses of programs that could not write their output, unless they
    are one. -/
def outputStatuses : List (String × Nat) :=
  [("ls", 2), ("dir", 2), ("sort", 2), ("grep", 2), ("egrep", 2), ("fgrep", 2), ("diff", 2),
   ("cmp", 2), ("printenv", 2), ("expr", 3), ("tty", 3), ("sed", 4), ("env", 125),
   ("nice", 125)]

/-- The programs that write every line at once. -/
def lineWriters : List String :=
  ["find", "wc", "cksum", "sum", "md5sum", "sha1sum", "sha224sum", "sha256sum", "sha384sum", "sha512sum",
   "b2sum"]

/-- What a program says of output that it could not write.  The cause is known
    only if it was found out at the very end. -/
def outputComplaints (program : String) (isLate : Bool) (e : Errno) : List String :=
  let isClosed := e == .badDescriptor
  let usual := if isClosed || isLate then "write error: " ++ e.text else "write error"
  if program == "sort" then
    ["fflush failed: \x27" ++ outputTitle ++ "\x27: " ++ e.text, "write error"]
  else if program == "sed" then
    ["couldn\x27t " ++ (if isClosed then "close" else "flush") ++ " stdout: " ++ e.text]
  else if program == "diff" || program == "cmp" then [outputTitle ++ ": " ++ e.text]
  else if program == "hostname" || program == "rev" && isClosed && isLate then []
  else [usual]

/-- Writes what is left of the output; the status that a program ends with is
    returned. -/
def closeOutput (program : String) (status : Nat) : Run Nat := do
  let late ← Run.flush
  -- An editor closes its output even if it has written nothing.
  if program == "sed" && status != 1 && (← Run.opening 1).isNone then
    modify fun s => { s with lost := some .badDescriptor }
  match (← get).lost with
  | none => return status
  | some e => do
      let isLate := late.isSome && !lineWriters.contains program
      if program == "find" then
        Run.objection ((← Run.inQuotes outputTitle) ++ ": " ++ e.text)
      let complaints := outputComplaints program isLate e
      for t in complaints do
        Run.objection t
      return if complaints.isEmpty then status else (outputStatuses.lookup program).getD 1

/-- Closes what a program has read. -/
def closeInputOf (program : String) (status : Nat) : Run Nat :=
  match inputLabels.lookup program with
  | none => return status
  | some label => closeTaken label status

/-- Runs a program to its end and closes its input and its output. -/
def closing (program : String) (tool : Tool) : Tool := fun arguments => do
  let status ← tryCatch (tool arguments >>= closeInputOf program) fun
    | .exited status => return status
    | .failed status => return status
    | stop => throw stop
  closeOutput program status

end HermesBundle.Shell.Tool
