import HermesBundle.CommandLine.Report
import HermesBundle.Shell.Host

/-! # The program — a command line on real files

    The files a command may need are read into a machine, the command is
    run there, and what it changed is written back.  This module only
    moves data: everything that is decided is decided in the library. -/

namespace HermesBundle.Program

/-- The text of a location as a string. -/
def pathString (l : Location) : String := (FileSystem.absolute l).toText.toPlain

/-- The content of a byte array. -/
def ofByteArray (bytes : ByteArray) : Bytes := bytes.toList

/-- Whether a file is taken for a program: scripts say so themselves. -/
def looksExecutable (content : Bytes) : Bool := content.take 2 == [0x23, 0x21]

/-- The entry at a location of the disk, if there is one. -/
def load (l : Location) : IO (Option (Location × Entry)) := do
  let entry : IO.FS.DirEntry := ⟨"/", (Path.mk .here l).toText.toPlain⟩
  if ← entry.path.isDir then return some (l, .directory)
  else
    try
      let content := ofByteArray (← IO.FS.readBinFile (pathString l))
      return some (l, .file content (looksExecutable content))
    catch _ => return none

/-- A program on the search path: its script, or nothing but the fact that
    it is there. -/
def loadProgram (l : Location) : IO (Option (Location × Entry)) := do
  try
    let handle ← IO.FS.Handle.mk (pathString l) .read
    let start := ofByteArray (← handle.read 2)
    if looksExecutable start then load l else return some (l, .file [] true)
  catch _ => return none

/-- Paths below a project directory, or below one above it, that a command
    looks at. -/
def projectPaths : List String :=
  ["package.json", ".git", "app.json", "android/app/build.gradle", "android/gradle.properties",
    "node_modules/hermes-engine/linux64-bin/hermesc",
    "node_modules/hermes-engine/linux64-bin/hermesc.js",
    "node_modules/metro-source-map/src/composeSourceMaps",
    "node_modules/metro-source-map/src/composeSourceMaps.js"]

/-- The paths that arguments can name: each of them whole, and what follows
    an equals sign in it. -/
def argumentPaths (arguments : List Text) : List Path :=
  arguments.flatMap fun a =>
    [Path.ofText a, Path.ofText ((a.dropWhile (· != .ofChar '=')).drop 1)]

/-- The locations that a command started in a directory may look at. -/
def wanted (here : Location) (arguments : List Text) (environment : Entries Text) :
    List Location :=
  let locationOf := FileSystem.locationOf here
  let named := (argumentPaths arguments ++ environment.map fun entry => Path.ofText entry.2).map
    locationOf
  let projects := ((here :: named).flatMap fun l =>
    Project.ancestors (FileSystem.absolute l)).map (·.parts)
  named ++ Temporary.systemDirectories.map components ++ projects ++ projects.flatMap fun l =>
    projectPaths.map fun path : String => l ++ components path

/-- Where the search path may have node. -/
def searched (environment : Entries Text) : List Location :=
  ((environment.find? "PATH").getD Build.systemPath).splitOn ':' |>.map fun directory =>
    components directory ++ [Text.ofString "node"]

/-- Entries with the directories that lead to them. -/
def withParents (entries : List (Location × Entry)) : FileSystem :=
  entries.foldl
    (fun fs (l, e) =>
      let parents := (List.range l.length).filterMap fun n =>
        if n = 0 then none else some (l.take n)
      let fs := parents.foldl
        (fun fs parent => if (fs.entry? parent).isSome then fs else fs.put parent .directory) fs
      fs.put l e)
    Shell.systemFiles

/-- The files that a command started in a directory may need. -/
def loadFiles (here : Location) (arguments : List Text) (environment : Entries Text) :
    IO FileSystem := do
  let locations := (wanted here arguments environment).filter fun l => !l.isEmpty
  let found ← locations.eraseDups.mapM load
  let programs ← (searched environment).eraseDups.mapM loadProgram
  return withParents ((found ++ programs).filterMap id)

/-- Writes back a file if it is new or changed. -/
def store (before : FileSystem) (l : Location) (e : Entry) : IO Unit :=
  match e with
  | .directory => if before.entry? l = some e then pure () else IO.FS.createDirAll (pathString l)
  | .file content _ =>
      match before.entry? l with
      | some (.file old _) =>
          if old = content then pure ()
          else IO.FS.writeBinFile (pathString l) (ByteArray.mk content.toArray)
      | _ => IO.FS.writeBinFile (pathString l) (ByteArray.mk content.toArray)
  | _ => pure ()

/-- The environment variables that commands look at. -/
def variableNames : List String :=
  ["PATH", "HOME", "HBC_HERMESC", "HBC_COMPOSER", "HBC_WORKSPACE_ROOT", "HBC_NODE",
    "HBC_LOG_LEVEL"] ++ Temporary.variableNames

/-- The environment of the process. -/
def loadEnvironment : IO (Entries Text) := do
  let found ← variableNames.mapM fun name => do
    let value ← IO.getEnv name
    return value.map fun v => (Text.ofString name, Text.ofString v)
  return found.filterMap id

/-- The text of a file of the system, or none if it cannot be read. -/
def readSystem (path : String) : IO Text := do
  try return Text.ofString (← IO.FS.readFile path)
  catch _ => return []

/-- The accounts of the system, and the one that the process runs under. -/
def loadAccounts : IO Accounts := do
  let passwords ← readSystem "/etc/passwd"
  let status ← readSystem "/proc/self/status"
  let numbers := (status.splitOn '\n').find? fun line => line.startsWith "Uid:"
  return .ofPasswords passwords (((numbers.getD []).splitOn '\t').getD 1 [])

/-- Prints how a command line ended and returns the exit status. -/
def finish (outcome : Except Failure CommandLine.Ending) : IO UInt32 := do
  match outcome with
  | .ok (.ran report) => do
      IO.print report.out.toPlain
      IO.eprint report.err.toPlain
      return UInt32.ofNat report.exit
  | .ok (.stopped (.help program)) => do
      IO.println ("usage: " ++ program)
      return 0
  | .ok (.stopped (.refused program e)) => do
      IO.eprintln (program ++ ": error: " ++ e.message.toPlain)
      return 2
  | .error f => do
      IO.eprintln f.message.toPlain
      return 1

end HermesBundle.Program

open HermesBundle HermesBundle.Program in
/-- Runs the command line. -/
def main (arguments : List String) : IO UInt32 := do
  let arguments := arguments.map Text.ofString
  let here := components (Text.ofString (← IO.currentDir).toString)
  let environment ← loadEnvironment
  let before ← loadFiles here arguments environment
  let accounts ← loadAccounts
  let machine : Machine :=
    { files := before, here := here, environment := environment
      platform := Text.ofString "linux", processId := (← IO.monoMsNow)
      temporary := none
      roots := [], tickets := 0, clock := 0, log := [], accounts := accounts }
  let (outcome, after) := (CommandLine.run Shell.programs arguments).perform machine
  for (l, e) in after.files.entries do
    store before l e
  finish outcome
