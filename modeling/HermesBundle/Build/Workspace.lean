import HermesBundle.Settings
import HermesBundle.Temporary

/-! # Workspaces — private directories of builds

    A workspace is a fresh directory that one build owns.  Its name
    carries the process number and a suffix that is drawn, over and over
    again as long as there is something of that name.  A scope removes its
    workspace however its body ends, and the body's own error outweighs a
    failure to remove it. -/

namespace HermesBundle.Build

/-- Where this part of the program logs. -/
def workspaceOrigin : String := "hbckit.api.hermes.workspace"

/-- A workspace. -/
structure Workspace where
  path : Path
deriving DecidableEq

namespace Workspace

/-- The staged bundle. -/
def bundle (ws : Workspace) : Path := ws.path.childNamed "index.bundle"

/-- The staged source map of the bundle. -/
def bundleMap (ws : Workspace) : Path := ws.path.childNamed "index.bundle.map"

/-- The bytecode the compiler writes. -/
def bytecode (ws : Workspace) : Path := ws.path.childNamed "index.hbc"

/-- The source map the compiler writes next to the bytecode. -/
def bytecodeMap (ws : Workspace) : Path := ws.path.childNamed "index.hbc.map"

/-- The characters of suffixes. -/
def suffixDigit (n : Nat) : CodePoint :=
  if n < 26 then .ofNat (0x61 + n) else if n < 36 then .ofNat (0x30 + (n - 26)) else .ofNat 0x5F

/-- A number as a suffix of a given length. -/
def suffix (width n : Nat) : Text :=
  match width with
  | 0 => []
  | w + 1 => suffix w (n / 37) ++ [suffixDigit (n % 37)]

/-- What names of workspaces of a process start with. -/
def namePrelude (processId : Nat) : Text :=
  Text.ofString "hbc-build-" ++ Text.ofNat processId ++ Text.ofString "-"

/-- The name of a workspace for a number that was drawn. -/
def nameOf (processId n : Nat) : Text := namePrelude processId ++ suffix 8 n

/-- How many names are tried for a workspace. -/
def attempts : Nat := 238328

/-- Makes a directory under the first name that is free, of some that are
    drawn from the draw `n` on. -/
def makeFresh (fs : FileSystem) (here : Location) (parent : Text) (processId : Nat)
    (draws : Nat → Nat) (n : Nat) : Nat → Except SystemError (FileSystem × Text × Nat)
  | 0 => .error .noFreeName
  | left + 1 =>
      let path := Temporary.inside parent (nameOf processId (draws n))
      match fs.makeDirectory here path with
      | .ok files => .ok (files, path, n)
      | .error (.onPath .occupied _) => makeFresh fs here parent processId draws (n + 1) left
      | .error e => .error e

/-- The directory that a workspace is made in: a parent, which is made if it
    is missing, or else the one for temporary files. -/
def directoryFor (parent : Option Path) : Action Text := do
  match parent with
  | some path => do
      Action.ensureDirectory path
      return path.toText
  | none => Temporary.directory

/-- Makes a fresh directory below a parent or else among the temporary
    files. -/
def create (parent : Option Path) : Action Text := do
  let directory ← directoryFor parent
  let m ← get
  Action.checkName (Temporary.inside directory (nameOf m.processId (m.draws m.tickets)))
  match makeFresh m.files m.here directory m.processId m.draws m.tickets attempts with
  | .ok (files, path, n) =>
      set { m with files := files, tickets := n + 1 }
      return path
  | .error e => throw (.system e)

/-- The parent directory of a workspace: a given one, or the one that the
    settings name, if there is one. -/
def parentOf (root : Option Path) : Action (Option Path) := do
  match root with
  | some path => return some path
  | none => do
      let settings ← Settings.current
      return settings.workspaceRoot

/-- Acquires a workspace below a root, or below the one that the settings
    name, or else among the temporary files. -/
def acquire (root : Option Path) : Action Workspace := do
  let parent ← parentOf root
  match ← Action.attempt (create parent) with
  | .ok path =>
      let ws : Workspace := ⟨Path.ofText path⟩
      Action.record .debug workspaceOrigin
        (Text.ofString "acquired workspace " ++ ws.path.toText)
      return ws
  | .error (.system e) => throw (.build (.workspace (.notCreated e)))
  | .error e => throw e

/-- Removes a workspace with everything in it.  One that is gone already
    is no failure.  If not strict, a failure is only logged. -/
def release (ws : Workspace) (strict : Bool) : Action Unit := do
  Action.checkName ws.path.toText
  let m ← get
  let (files, failure) := m.files.removeDirectory m.here ws.path
  Action.settle files
  match failure.filter fun e => !e.isNoEntry with
  | none =>
      Action.record .debug workspaceOrigin
        (Text.ofString "released workspace " ++ ws.path.toText)
  | some e =>
      if strict then throw (.build (.workspace (.notRemoved ws.path.toText e)))
      else
        Action.record .warning workspaceOrigin
          (Text.ofString "failed to remove workspace " ++ ws.path.toText
            ++ Text.ofString ": " ++ e.message)

/-- Ends the scope of a workspace whose body has ended in some way: the
    body's failure is what propagates, if there is one. -/
def close {α : Type} (ws : Workspace) (outcome : Except Failure α) : Action α := do
  match outcome with
  | .ok a => do
      release ws true
      return a
  | .error f => do
      release ws false
      throw f

/-- Runs a body in a scope of its own. -/
def scope {α : Type} (root : Option Path) (body : Workspace → Action α) : Action α := do
  let ws ← acquire root
  let outcome ← Action.attempt (body ws)
  close ws outcome

end Workspace

end HermesBundle.Build
