import HermesBundle.Build.Pipeline
import HermesBundle.Bytecode.Header
import HermesBundle.CommandLine.Command
import HermesBundle.Engine.Consistency
import HermesBundle.Project.Relative

/-! # Reports — what a command does and prints

    A command prints its results and ends with an exit status.  Errors of
    a build and of the system are printed as one line; other failures are
    left to the caller.  Log records are printed from a level on that the
    settings choose. -/

namespace HermesBundle.CommandLine

/-- What a command leaves: its exit status, its output and its error
    output. -/
structure Report where
  exit : Nat
  out : Text
  err : Text

/-- How a command line ends. -/
inductive Ending where
  | ran (report : Report)
  | stopped (stop : Stop)

/-- A printed line. -/
def line (t : Text) : Text := t ++ [.ofNat 0x0A]

/-- The root of the project: the given one, or the one above a path. -/
def projectRoot (given start : Option Path) : Action Path := do
  match given with
  | some project => return project
  | none =>
      match ← Action.attempt (Project.findRoot start) with
      | .ok root => return root
      | .error (.notFound reason) => throw (.build (.noProjectRoot reason))
      | .error f => throw f

/-- A path with a new name, if it has a name to exchange. -/
def renamed (p : Path) (q : Option Path) : Action Path :=
  match q with
  | some q => return q
  | none => throw (.invalidValue (p.shown ++ Text.ofString " has an empty name"))

/-- The version of a bytecode, if it has one. -/
def shownVersion (bytecode : Bytes) : Text :=
  match Bytecode.parseHeader bytecode with
  | .ok header => if header.isHermes then Text.ofNat header.version else "None"
  | .error _ => "None"

/-- Builds a bundle and writes bytecode and map. -/
def build (programs : Build.Programs) (bundle : Path)
    (sourceMap project out mapOut : Option Path) (optimize : Bool) : Action (Nat × Text) := do
  let resolved ← Action.resolve bundle
  let root ← projectRoot project (some resolved.parent)
  let code ← Action.readBytes bundle.toText
  let bundlerMap ←
    match sourceMap with
    | some path => Action.readText path.toText
    | none => throw (.misuse .noMembers)
  Action.record .debug "asyncio" (Text.ofString "Using selector: EpollSelector")
  let result ← Build.run programs ⟨⟨root, .bytes code, bundlerMap, optimize⟩, none, none, none⟩
  let out ←
    match out with
    | some out => pure out
    | none => renamed bundle (bundle.withSuffix? ".hbc")
  let mapOut ←
    match mapOut with
    | some mapOut => pure mapOut
    | none => renamed out (out.withName? (out.name ++ Text.ofString ".map"))
  Action.ensureDirectory out.parent
  Action.writeBytes out.toText result.bytecode
  Action.ensureDirectory mapOut.parent
  Action.writeText mapOut.toText result.sourceMap
  let shownOut ← Project.relative out (some root)
  let shownBundle ← Project.relative bundle (some root)
  let first := Text.ofString "[+] " ++ shownBundle ++ Text.ofString " -> " ++ shownOut
    ++ Text.ofString " (len=" ++ Text.ofNat result.bytecode.length ++ Text.ofString ", version="
    ++ shownVersion result.bytecode ++ Text.ofString ") preview: "
    ++ Bytecode.preview result.bytecode Bytecode.previewSize
  let shownMap ← Project.relative mapOut (some root)
  return (0, line first ++ line (Text.ofString "[+] wrote " ++ shownMap))

/-- What an inspection finds out about a file. -/
inductive Finding where
  | bytecode (version : Nat)
  | other
  /-- A bytecode file that is cut off. -/
  | broken (error : BuildError)
  | unreadable (error : SystemError)

/-- Inspects a file. -/
def inspectFile (path : Path) : Action Finding := do
  match ← Action.attempt (Action.readStart path.toText headerSize) with
  | .error (.system e) => return .unreadable e
  | .error f => throw f
  | .ok content =>
      if Bytecode.isBytecode content then
        match Bytecode.version path.toText content with
        | .ok version => return .bytecode version
        | .error e => return .broken e
      else return .other

/-- What is reported about a file. -/
def Finding.toJson (path : Path) : Finding → Json
  | .bytecode version =>
      .obj [(Text.ofString "path", .str path.toText),
        (Text.ofString "is_hermes_bytecode", .bool true),
        (Text.ofString "version", .int version)]
  | .other =>
      .obj [(Text.ofString "path", .str path.toText),
        (Text.ofString "is_hermes_bytecode", .bool false), (Text.ofString "version", .null)]
  | .broken e =>
      .obj [(Text.ofString "path", .str path.toText),
        (Text.ofString "is_hermes_bytecode", .bool true), (Text.ofString "version", .null),
        (Text.ofString "error", .str e.message)]
  | .unreadable e =>
      .obj [(Text.ofString "path", .str path.toText),
        (Text.ofString "error",
          .str (Text.ofString e.className ++ Text.ofString ": " ++ e.message))]

/-- Whether a finding is a failure. -/
def Finding.isFailure : Finding → Bool
  | .broken _ => true
  | .unreadable _ => true
  | _ => false

/-- Inspects files and prints or writes what was found. -/
def inspect (paths : List Path) (out : Option Path) : Action (Nat × Text) := do
  let findings ← paths.mapM fun path => do
    return (path, ← inspectFile path)
  let document := Json.render Json.indented
    (.arr (findings.map fun (path, finding) => finding.toJson path))
  let exit := if findings.any fun (_, finding) => finding.isFailure then 1 else 0
  match out with
  | some out => do
      Action.writeText out.toText document
      return (exit, line (Text.ofString "[+] wrote " ++ out.toText))
  | none => return (exit, line document)

/-- The app config in a document: its `expo` member, or else the document
    itself. -/
def appConfigIn (doc : Json) : Json :=
  match doc with
  | .obj _ => (doc.get? (Text.ofString "expo")).getD doc
  | _ => .obj []

/-- Checks the engine settings of a project.  A lacking platform is none
    that has settings, and is reported as an empty list. -/
def checkEngine (project : Option Path) (platform : Option Text) (appConfig : Option Path) :
    Action (Nat × Text) := do
  let root ← projectRoot project none
  let file := appConfig.getD (root.childNamed "app.json")
  let config ←
    if ← Action.pathExists file then do
      let text ← Action.readText file.toText
      let doc ← Action.ofExcept .json (Json.read text)
      pure (appConfigIn doc)
    else pure (.obj [])
  let managed ← Action.ofExcept .misuse (Engine.asksForHermes config (platform.getD []))
  let inconsistent ← Engine.maybeInconsistent root (platform.getD []) managed
  let document := Json.render Json.indented
    (.obj [(Text.ofString "project_root", .str root.toText),
      (Text.ofString "platform", (platform.map Json.str).getD (.arr [])),
      (Text.ofString "hermes_managed", .bool managed),
      (Text.ofString "maybe_inconsistent", .bool inconsistent)])
  return (if inconsistent then 1 else 0, line document)

/-- Runs a command. -/
def perform (programs : Build.Programs) : Command → Action (Nat × Text)
  | .build bundle sourceMap project out mapOut optimize =>
      build programs bundle sourceMap project out mapOut optimize
  | .inspect paths out => inspect paths out
  | .checkEngine project platform appConfig => checkEngine project platform appConfig

/-- The weights that level names stand for. -/
def levelWeights : List (String × Nat) :=
  [("CRITICAL", 50), ("FATAL", 50), ("ERROR", 40), ("WARNING", 30), ("WARN", 30), ("INFO", 20),
   ("DEBUG", 10), ("NOTSET", 0)]

/-- The level from which on records are printed.  Names that mean nothing
    stand for warnings; those of two other settings of the log are
    refused. -/
def logThreshold (name : Text) : Except Failure Nat :=
  if name == "BASIC_FORMAT" then
    .error (.invalidValue "Unknown level: \x27%(levelname)s:%(name)s:%(message)s\x27")
  else if name == "_STYLES" then .error (.misuse .unsuitedKind)
  else
    .ok (((levelWeights.find? fun (n, _) => Text.ofString n == name).map (·.2)).getD
      LogLevel.warning.weight)

/-- The records that are printed. -/
def printedLog (threshold : Nat) (records : List LogRecord) : Text :=
  (records.filter fun r => threshold ≤ r.level.weight).flatMap fun r => line r.line

/-- Runs a command line. -/
def run (programs : Build.Programs) (arguments : List Text) : Action Ending := do
  let settings ← Settings.current
  let threshold ← Action.ofExcept id (logThreshold settings.logLevel)
  match readCommand arguments with
  | .error stop => return .stopped stop
  | .ok command => do
      let before := (← get).log.length
      let outcome ← Action.attempt (perform programs command)
      let logged := printedLog threshold ((← get).log.drop before)
      let complain := fun message : Text =>
        Ending.ran ⟨2, [], logged ++ line (Text.ofString "[-] " ++ message)⟩
      match outcome with
      | .ok (exit, out) => return .ran ⟨exit, out, logged⟩
      | .error (.build e) => return complain e.message
      | .error (.system e) => return complain e.message
      | .error f => throw f

end HermesBundle.CommandLine
