import HermesBundle.Shell.Lookup
import HermesBundle.Shell.Tools.Listing

/-! # Identity — programs that say where and for whom they run

    There is one user, and the system is always the same. -/

namespace HermesBundle.Shell.Tool

/-- A property of the system. -/
structure SystemFact where
  letter : Char
  name : String
  value : String

/-- What is known of the system, in the order in which it is told. -/
def systemFacts : List SystemFact :=
  [⟨'s', "kernel-name", "Linux"⟩, ⟨'n', "nodename", "localhost"⟩,
   ⟨'r', "kernel-release", "6.1.0"⟩, ⟨'v', "kernel-version", "#1 SMP PREEMPT_DYNAMIC"⟩,
   ⟨'m', "machine", "x86_64"⟩, ⟨'p', "processor", "x86_64"⟩,
   ⟨'i', "hardware-platform", "x86_64"⟩, ⟨'o', "operating-system", "GNU/Linux"⟩]

/-- Refuses all operands. -/
def refuseOperands (status : Nat) (g : Given) : Run Unit := do
  match g.operands with
  | [] => return ()
  | operand :: _ => Run.extra status operand

/-- Tells about the system. -/
def uname : Tool := fun arguments => do
  let g ← given
    (flag 'a' "all" :: ⟨some 's', "sysname", .none⟩ :: ⟨some 'r', "release", .none⟩
      :: systemFacts.map fun fact => flag fact.letter fact.name) 1 arguments
  refuseOperands 1 g
  let asked := systemFacts.filter fun fact => g.has (String.singleton fact.letter)
  let told :=
    if g.has "a" then systemFacts
    else if asked.isEmpty then systemFacts.take 1
    else asked
  Run.printLine (joinWith [' '] (told.map fun fact => fact.value.toList))
  return 0

/-- A program that prints a line and takes no operands. -/
def printsFact (status : Nat) (line : String) : Tool := fun arguments => do
  refuseOperands status (← given [] status arguments)
  Run.printLine line.toList
  return 0

/-- Tells the kind of the machine. -/
def arch : Tool := printsFact 1 "x86_64"

/-- Tells the name of the machine. -/
def hostname : Tool := printsFact 1 "localhost"

/-- Tells the name of the user. -/
def whoami : Tool := printsFact 1 userName

/-- Tells the number of the machine. -/
def hostid : Tool := printsFact 1 "00000000"

/-- Refuses a user that is not known. -/
def knownUser (name : String) : Run Bool := do
  if name == userName || name == "0" then return true
  else do
    Run.objection ((← Run.inQuotes name) ++ ": no such user")
    return false

/-- Tells the groups of users. -/
def groups : Tool := fun arguments => do
  let g ← given [] 1 arguments
  if g.operands.isEmpty then
    Run.printString (userName ++ "\n")
    return 0
  overall
    (fun name => do
      if ← knownUser name then
        Run.printString (name ++ " : " ++ userName ++ "\n")
        return 0
      else return 1)
    g.operands 0

/-- Tells who the user is. -/
def identity : Tool := fun arguments => do
  let g ← given
    [flag 'a' "", flag 'g' "group", flag 'G' "groups", flag 'n' "name", flag 'r' "real",
     flag 'u' "user", flag 'z' "zero", flag 'Z' "context"] 1 arguments
  let only := (["g", "G", "u"].filter g.has).length
  if 1 < only then Run.quit 1 "cannot print \x22only\x22 of more than one choice"
  if only = 0 && (g.has "n" || g.has "r") then
    Run.quit 1 "cannot print only names or real IDs in default format"
  if only = 0 && g.has "z" then
    Run.quit 1 "option --zero not permitted in default format"
  let text :=
    if only = 0 then "uid=0(" ++ userName ++ ") gid=0(" ++ userName ++ ") groups=0(" ++ userName ++ ")"
    else if g.has "n" then userName
    else "0"
  let tell := Run.printString (text ++ if g.has "z" then "\x00" else "\n")
  if g.operands.isEmpty then
    tell
    return 0
  overall
    (fun name => do
      if ← knownUser name then
        tell
        return 0
      else return 1)
    g.operands 0

/-- Tells under which name the user came. -/
def logname : Tool := fun arguments => do
  refuseOperands 1 (← given [] 1 arguments)
  Run.quit 1 "no login name"

/-- Tells who is there: no one. -/
def users : Tool := fun arguments => do
  match (← given [] 1 arguments).operands with
  | _ :: operand :: _ => Run.extra 1 operand
  | _ => return 0

/-- How many processors there are. -/
def processors : Nat := 4

/-- Tells how many processors there are. -/
def nproc : Tool := fun arguments => do
  let g ← given [long "all" .none, long "ignore" .required] 1 arguments
  let ignored ← match g.value? "ignore" with
    | none => pure 0
    | some t =>
        match plainQuantity t.toList with
        | .ok n => pure n
        | .error e => do Run.quit 1 ("invalid number: " ++ (← Run.inQuotes t) ++ faultText e)
  refuseOperands 1 g
  Run.printLine (decimal (max 1 (processors - ignored)))
  return 0

/-- Tells that the input is no terminal. -/
def tty : Tool := fun arguments => do
  let g ← given [⟨some 's', "silent", .none⟩, ⟨some 's', "quiet", .none⟩] 2 arguments
  refuseOperands 2 g
  if !g.has "s" then Run.printString "not a tty\n"
  return 1

/-- Waits until files are stored. -/
def sync : Tool := fun arguments => do
  let g ← given [flag 'd' "data", flag 'f' "file-system"] 1 arguments
  if g.has "d" && g.has "f" then Run.quit 1 "cannot specify both --data and --file-system"
  if g.has "d" && g.operands.isEmpty then Run.quit 1 "--data needs at least one argument"
  overall
    (fun path => do
      match ← Run.status true path with
      | .ok _ => return 0
      | .error e => do
          Run.objection ("error opening " ++ (← Run.quoted path) ++ ": " ++ e.text)
          return 1)
    g.operands 0

/-! ## Programs in directories -/

/-- Whether there is a program at a path. -/
def isProgram (path : String) : Run Bool := do
  match ← Run.status true path with
  | .ok f => return f.kind = .regular && mayExecute f.mode
  | .error _ => return false

/-- The first elements of a list that something holds of: one, or all. -/
def chosen {α : Type} (isAll : Bool) (found : List α) : List α :=
  if isAll then found else found.take 1

/-- Where a program with a name can be. -/
def programPlaces (path name : String) : List String :=
  if name.toList.contains '/' then [name]
  else
    let pieces := splitOn ':' path.toList
    -- A colon at the end counts as one that something empty follows only
    -- if there is something before it.
    let pieces := if pieces.getLast? == some [] && pieces.length = 1 then [] else pieces
    pieces.map fun piece => (if piece.isEmpty then "." else String.ofList piece) ++ "/" ++ name

/-- Tells where programs are. -/
def which : Tool := fun arguments => do
  let letters := (arguments.takeWhile fun a => a.toList.head? == some '-' && a != "-" && a != "--")
  match (letters.flatMap fun a => a.toList.drop 1).find? fun c => c != 'a' && c != 's' with
  | some c => do
      Run.remark ("Illegal option -" ++ String.singleton c)
      let called ← Run.called
      let shown := if called.toList.contains '/' then called else "/usr/bin/" ++ called
      Run.printString ("Usage: " ++ shown ++ " [-as] args\n")
      return 2
  | none => do
      let names := arguments.drop letters.length
      let names := if names.head? == some "--" then names.drop 1 else names
      let isAll := letters.any fun a => a.toList.contains 'a'
      let isSilent := letters.any fun a => a.toList.contains 's'
      let path := ((← get).valueOf "PATH").getD ""
      let mut status := if names.isEmpty then 1 else 0
      for name in names do
        let found ← (programPlaces path name).filterM isProgram
        if found.isEmpty then status := 1
        if !isSilent then
          for place in chosen isAll found do
            Run.printString (place ++ "\n")
      return status

end HermesBundle.Shell.Tool
