import HermesBundle.Machine

/-! # Project roots — the directory a file belongs to

    The root of a project is the nearest directory with a package file,
    or else the nearest one under version control.  Roots that were found
    are remembered, up to a limit; the one not asked for longest is
    forgotten first. -/

namespace HermesBundle.Project

/-- A path and those above it, up to the root. -/
def ancestors (p : Path) : List Path :=
  (List.range (p.parts.length + 1)).map fun n => ⟨p.anchor, p.parts.take (p.parts.length - n)⟩

/-- The name of the package file. -/
def packageFile : String := "package.json"

/-- The name of the version control directory. -/
def versionControl : String := ".git"

/-- Whether a directory holds an entry of a name. -/
def holds (directory : Path) (name : String) : Action Bool :=
  Action.pathExists (directory.childNamed name)

/-- Searches candidates in order, given the nearest one under version
    control so far. -/
def searchRoot (underControl : Option Path) : List Path → Action (Option Path)
  | [] => return underControl
  | candidate :: rest => do
      if ← holds candidate packageFile then return some candidate
      else if underControl.isSome then searchRoot underControl rest
      else if ← holds candidate versionControl then searchRoot (some candidate) rest
      else searchRoot none rest

/-- How many roots are remembered. -/
def cacheSize : Nat := 128

/-- Marks a remembered root as used. -/
def touch (cache : RootCache) (start root : Path) : RootCache :=
  (start, root) :: cache.filter fun (key, _) => key != start

/-- Remembers a root; the one used longest ago may be forgotten. -/
def remember (cache : RootCache) (start root : Path) : RootCache :=
  (touch cache start root).take cacheSize

/-- The project root above a resolved path. -/
def rootAbove (start : Path) : Action Path := do
  let m ← get
  match m.roots.lookup start with
  | some root =>
      set { m with roots := touch m.roots start root }
      return root
  | none =>
      match ← searchRoot none (ancestors start) with
      | some root =>
          modify fun m => { m with roots := remember m.roots start root }
          return root
      | none => throw (.notFound "Unable to locate project root")

/-- The project root of a path, or of the current directory. -/
def findRoot (start : Option Path) : Action Path := do
  let path ←
    match start with
    | some path => pure path
    | none => do
        let here ← Action.currentDirectory
        pure (FileSystem.absolute here)
  let resolved ← Action.resolve path
  rootAbove resolved

end HermesBundle.Project
