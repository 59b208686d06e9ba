import HermesBundle.Machine

/-! # Temporary files — the directory they are made in

    Environment variables name directories to try, the system has some of
    its own, and the current directory comes last.  The first one that
    takes a new file is used, and it is remembered: what happens later to
    the environment or to the files does not change it. -/

namespace HermesBundle.Temporary

/-- The environment variables that name directories to try. -/
def variableNames : List String := ["TMPDIR", "TEMP", "TMP"]

/-- The directories of the system that are tried. -/
def systemDirectories : List Text := ["/tmp", "/var/tmp", "/usr/tmp"]

/-- A name below a directory given by its text. -/
def inside (parent name : Text) : Text :=
  if parent.getLast? == some slash then parent ++ name else parent ++ [slash] ++ name

/-- The directories to try, in order.  A variable that is empty names
    none. -/
def candidates (m : Machine) : List Text :=
  let named := variableNames.filterMap fun name => m.environment.find? (Text.ofString name)
  let here := if FileSystem.isLost m.here then dot else (FileSystem.absolute m.here).toText
  named.filter (!·.isEmpty) ++ systemDirectories ++ [here]

/-- The absolute form of a directory.  Double dots are taken back by the
    names alone; a lone dot stays as it is. -/
def absoluteText (directory : Text) : Action Text := do
  if directory = dot then return dot
  let p := Path.ofText directory
  let here ← if p.isAbsolute then pure [] else Action.currentDirectory
  return (FileSystem.absoluteForm here p).toText

/-- The name of the file that is made to try a directory. -/
def trialName : Text := "aaaaaaaa"

/-- Whether a new file can be made in a directory.  If the name is taken
    another one will do. -/
def takesFiles (m : Machine) (directory : Text) : Bool :=
  match m.files.locate m.here .writing (inside directory trialName) with
  | .ok _ => true
  | .error _ => false

/-- The first of some directories that takes files. -/
def firstUsable : List Text → Action (Option Text)
  | [] => return none
  | candidate :: rest => do
      let directory ← absoluteText candidate
      if takesFiles (← get) directory then return some directory else firstUsable rest

/-- The directory for temporary files. -/
def directory : Action Text := do
  let m ← get
  match m.temporary with
  | some known => return known
  | none =>
      match ← firstUsable (candidates m) with
      | some found => do
          set { m with temporary := some found }
          return found
      | none => throw (.system (.noTemporary (candidates m)))

end HermesBundle.Temporary
