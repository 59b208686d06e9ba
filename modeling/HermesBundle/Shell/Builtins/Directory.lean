import HermesBundle.Shell.Builtins.Arguments
import HermesBundle.Shell.Disk

/-! # Directories — where a shell stands

    A shell remembers by which names it went to its directory.  Two dots
    take the last of these names back, even if it is a link. -/

namespace HermesBundle.Shell

/-- The path of a location; a removed directory has none. -/
def pathOf (l : Location) : String :=
  if FileSystem.isLost l then ""
  else String.ofList ('/' :: joinWith ['/'] (l.map Octets.ofText))

/-- The candidates for a name in the directories of a search path. -/
def candidates (searchPath name : String) : List String :=
  (splitOn ':' searchPath.toList).map fun directory =>
    if directory.isEmpty then name
    else if directory.getLast? == some '/' then String.ofList directory ++ name
    else String.ofList directory ++ "/" ++ name

namespace Builtin

/-- The root that a path starts with: exactly two slashes are kept. -/
def rootOf (path : Octets) : Octets :=
  if "//".toList.isPrefixOf path && path[2]? != some '/' then "//".toList else ['/']

/-- The names on a path with dots taken back by the names alone. -/
def plainNames (names : List Octets) : List Octets :=
  names.foldl
    (fun kept name =>
      if name.isEmpty || name == ['.'] then kept
      else if name == "..".toList then kept.dropLast
      else kept ++ [name])
    []

/-- An absolute path for one that is seen from a directory. -/
def plainPath (directory path : Octets) : Octets :=
  let whole := if path.head? == some '/' then path else directory ++ ['/'] ++ path
  rootOf whole ++ joinWith ['/'] (plainNames (splitOn '/' whole))

/-- The path of the directory, looked up anew. -/
def lookUp : Run String := do
  let s ← get
  let path := pathOf s.here
  if path.isEmpty then
    Run.complain "getcwd() failed: No such file or directory"
    set { (← get) with lookedUp := none }
  else set { s with lookedUp := some path }
  return path

/-- Sets a variable that programs get too. -/
def setExported (name value : String) : Run Unit := do
  Run.assign name value
  Run.changeVariable name fun v => { v with isExported := true }

/-- The shell stands in a directory, under a name or under its path. -/
def enter (l : Location) (name : Option String) : Run Unit := do
  let s ← get
  setExported "OLDPWD" s.directory
  modify fun s => { s with here := l, lookedUp := none }
  let directory ←
    match name with
    | some name => pure name
    | none => lookUp
  modify fun s => { s with directory := directory }
  setExported "PWD" directory
  modify fun s => { s with located := s.located.filter fun (_, path) => path.toList.head? == some '/' }

/-- Goes to a directory, by names alone or along links; false if there is
    none. -/
def goTo (isPhysical : Bool) (path : String) : Run Bool := do
  let s ← get
  let isLogical := !isPhysical && (path.toList.head? == some '/' || !s.directory.isEmpty)
  let goal :=
    if isLogical then String.ofList (plainPath s.directory.toList path.toList) else path
  match s.toWorld.spot s.here true goal with
  | .ok (.found l .directory) => do
      enter l (if isLogical then some goal else none)
      return true
  | _ => return false

/-- Whether a path is looked up from the directory itself and not from
    others too. -/
def isAnchored (path : Octets) : Bool :=
  match path with
  | '/' :: _ => true
  | ['.'] => true
  | '.' :: '/' :: _ => true
  | ['.', '.'] => true
  | '.' :: '.' :: '/' :: _ => true
  | _ => false

/-- Goes to the first candidate that is a directory; tells whether its name
    is to be shown. -/
def goToFirst (isPhysical : Bool) (path : String) : List String → Run (Option Bool)
  | [] => do return if ← goTo isPhysical path then some false else none
  | candidate :: rest => do
      let s ← get
      if s.toWorld.isDirectory s.here candidate then
        return if ← goTo isPhysical candidate then some (candidate != path) else none
      else goToFirst isPhysical path rest

/-- Changes the directory. -/
def cd : Builtin := fun arguments => do
  let a ← divideArguments "LP" arguments
  let isPhysical := (a.options.getLast?.map (·.1)) == some 'P'
  let s ← get
  let (goal, goesBack) :=
    match a.operands with
    | [] => ((s.valueOf "HOME").getD "", false)
    | "-" :: _ => ((s.valueOf "OLDPWD").getD "", true)
    | path :: _ => (path, false)
  let path := if goal.isEmpty then "." else goal
  let others :=
    if isAnchored goal.toList then []
    else ((s.valueOf "CDPATH").map fun t => candidates t path).getD []
  match ← goToFirst isPhysical path others with
  | none => Run.fail ("can\x27t cd to " ++ goal)
  | some isShown => do
      if isShown || goesBack then Run.printLine (← get).directory.toList
      return 0

/-- Writes the directory.  A path that was looked up is not looked up
    again. -/
def pwd : Builtin := fun arguments => do
  let a ← divideArguments "LP" arguments
  let s ← get
  let isPhysical := (a.options.getLast?.map (·.1)) == some 'P'
  let path ←
    if !isPhysical then pure s.directory
    else
      match s.lookedUp with
      | some path => pure path
      | none => do
          let path ← lookUp
          setExported "PWD" s.directory
          pure path
  Run.printLine path.toList
  return 0

end Builtin

end HermesBundle.Shell
