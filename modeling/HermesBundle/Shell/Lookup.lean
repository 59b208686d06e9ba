import HermesBundle.Shell.Builtins.Naming
import HermesBundle.Shell.Image
import HermesBundle.Shell.Reader

/-! # Lookup — what the name of a command stands for

    A name stands for a function, a builtin or a program, which is looked
    up along the search path.  Where a program was found is remembered. -/

namespace HermesBundle.Shell

/-- How a shell treats a builtin. -/
structure BuiltinKind where
  /-- Whether its misuse ends the script and its assignments last. -/
  isSpecial : Bool
  /-- Whether its arguments may be assignments, which are not divided. -/
  assigns : Bool

/-- The builtins that are special. -/
def specialBuiltins : List String :=
  [".", ":", "break", "continue", "eval", "exec", "exit", "export", "local", "readonly", "return",
   "set", "shift", "times", "trap", "unset"]

/-- The other builtins. -/
def regularBuiltins : List String :=
  ["[", "alias", "bg", "cd", "chdir", "command", "echo", "false", "fg", "getopts", "hash", "jobs",
   "kill", "printf", "pwd", "read", "test", "true", "type", "ulimit", "umask", "unalias", "wait"]

/-- How a shell treats a command, if it is a builtin. -/
def builtinKind? (name : String) : Option BuiltinKind :=
  let assigns := ["alias", "export", "local", "readonly"].contains name
  if specialBuiltins.contains name then some ⟨true, assigns⟩
  else if regularBuiltins.contains name then some ⟨false, assigns⟩
  else none

namespace World

/-- The first candidate that is a regular file.  Something else of that name
    is what the search fails with. -/
def firstFile (w : World) (here : Location) (failure : Errno) :
    List String → Except Errno String
  | [] => .error failure
  | path :: rest =>
      match w.status here true path with
      | .ok f =>
          if f.kind = .regular then .ok path else w.firstFile here .denied rest
      | .error e =>
          w.firstFile here (if e = .noEntry || e = .notDirectory then failure else e) rest

end World

/-- Why a program cannot be run, as it is said of its name. -/
def searchFailure (e : Errno) : String :=
  if e = .noEntry || e = .notDirectory then "not found" else e.text

namespace Run

/-- The search path. -/
def searchPath : Run String := do
  return (← valueOf "PATH").getD standardPath

/-- Where a program is, which is remembered. -/
def locate (name : String) : Run (Except Errno String) := do
  let s ← get
  match s.located.find? name with
  | some path => return .ok path
  | none =>
      match s.toWorld.firstFile s.here .noEntry (candidates (← searchPath) name) with
      | .ok path => do
          set { s with located := s.located.set name path }
          return .ok path
      | .error e => return .error e

end Run

namespace Builtin

/-- Says what a name stands for; status 127 if it is not known. -/
def describe (isVerbose usesStandard : Bool) (name : String) : Run Nat := do
  let s ← get
  let say := fun (brief verbose : String) => do
    Run.printString (if isVerbose then name ++ verbose ++ "\n" else brief ++ "\n")
    return 0
  if keywords.contains name then say name " is a shell keyword"
  else
    match s.aliases.find? name with
    | some text =>
        if isVerbose then say name (" is an alias for " ++ text)
        else do
          Run.printString ("alias " ++ aliasLine name text)
          return 0
    | none =>
        match s.functions.find? name, builtinKind? name with
        | some _, _ => say name " is a shell function"
        | none, some kind =>
            say name (if kind.isSpecial then " is a special shell builtin" else " is a shell builtin")
        | none, none =>
            match if usesStandard then none else s.located.find? name with
            | some path => say path (" is a tracked alias for " ++ path)
            | none => do
                let path ← if usesStandard then pure standardPath else Run.searchPath
                let found :=
                  if isPath name then
                    match s.toWorld.status s.here true name with
                    | .ok _ => some name
                    | .error _ => none
                  else
                    match s.toWorld.firstFile s.here .noEntry (candidates path name) with
                    | .ok path => some path
                    | .error _ => none
                match found with
                | some path => do
                    if !usesStandard && !isPath name then
                      modify fun s => { s with located := s.located.set name path }
                    say path (" is " ++ path)
                | none => do
                    if isVerbose then Run.printString (name ++ ": not found\n")
                    return 127

/-- Says what names stand for. -/
def type : Builtin := fun arguments => do
  let mut status := 0
  for name in arguments do
    status := status ||| (← describe true false name)
  return status

/-- Says what a name stands for, if an option asks for that. -/
def command : Builtin := fun arguments => do
  let a ← divideArguments "pvV" arguments
  match a.operands with
  | [] => return 0
  | name :: _ =>
      if a.has 'V' then describe true (a.has 'p') name
      else if a.has 'v' then describe false (a.has 'p') name
      else return 0

/-- How many buckets a shell has for programs. -/
def programBuckets : Nat := 31

/-- Shows where programs were found, or looks for them. -/
def hash : Builtin := fun arguments => do
  let a ← divideArguments "r" arguments
  if a.has 'r' then
    modify fun s => { s with located := [] }
    return 0
  if a.operands.isEmpty then
    for (_, path) in inBuckets (← get).located programBuckets do
      Run.printString (path ++ "\n")
    return 0
  let mut status := 0
  for name in a.operands do
    modify fun s => { s with located := s.located.erase name }
    let isKnown := (builtinKind? name).isSome || ((← get).functions.find? name).isSome || isPath name
    if !isKnown then
      match ← Run.locate name with
      | .ok _ => pure ()
      | .error e => do
          Run.complain (name ++ ": " ++ searchFailure e)
          status := 1
  return status

end Builtin

end HermesBundle.Shell
