import HermesBundle.Build.Compiler
import HermesBundle.Build.Toolchain
import HermesBundle.Build.Workspace

/-! # The pipeline — from a bundle to bytecode and a composed map

    A build goes through stages: it finds its tools, acquires a
    workspace, stages its inputs, runs the compiler, reads the bytecode,
    composes the maps and releases the workspace.  `advance` takes one
    stage to the next, and a run is nothing but a row of such steps.
    From the acquisition on every path leads through the release. -/

namespace HermesBundle.Build

/-- Where this part of the program logs. -/
def pipelineOrigin : String := "hbckit.api.hermes.compile"

/-- The source of a bundle. -/
inductive Code where
  | text (t : Text)
  | bytes (b : Bytes)

/-- What is to be built. -/
structure Request where
  project : Path
  code : Code
  sourceMap : Text
  optimize : Bool

/-- What a build yields. -/
structure Result where
  bytecode : Bytes
  sourceMap : Text
deriving DecidableEq

/-- A build that has been asked for. -/
structure Job where
  request : Request
  /-- The toolchain; if none, the one of the project under the settings
      of the environment. -/
  toolchain : Option Toolchain
  /-- The parent directory of the workspace, if given. -/
  root : Option Path
  /-- The reading of the clock at which the build is given up. -/
  deadline : Option Nat

/-- How far a build has come. -/
inductive Stage where
  | begun
  | equipped (composer : Composer) (compiler : Path)
  | acquired (composer : Composer) (compiler : Path) (ws : Workspace)
  | staged (composer : Composer) (compiler : Path) (ws : Workspace)
  | compiled (composer : Composer) (ws : Workspace)
  /-- The bytecode has been read, or could not be. -/
  | read (composer : Composer) (ws : Workspace) (bytecode : Except Failure Bytes)
  | closing (ws : Workspace) (outcome : Except Failure Result)
  | ended (outcome : Except Failure Result)

/-- The toolchain of a job. -/
def Job.tools (job : Job) : Action Toolchain := do
  match job.toolchain with
  | some toolchain => return toolchain
  | none => do
      let settings ← Settings.current
      return .project settings

/-- Finds the composer and the compiler of a job. -/
def equip (job : Job) : Action (Composer × Path) := do
  let toolchain ← job.tools
  let composer ← toolchain.resolveComposer job.request.project
  let compiler ← toolchain.resolveCompiler job.request.project
  return (composer, compiler)

/-- The bytes of a bundle. -/
def codeBytes : Code → Action Bytes
  | .text t =>
      match Utf8.encode? t with
      | some bytes => pure bytes
      | none => throw .unencodable
  | .bytes b => pure b

/-- Writes bundle and source map into the workspace. -/
def stageInputs (ws : Workspace) (request : Request) : Action Unit := do
  let code ← codeBytes request.code
  Action.writeBytes ws.bundle.toText code
  Action.writeText ws.bundleMap.toText request.sourceMap

/-- The command line of the compiler in a workspace. -/
def compilerCommand (compiler : Path) (ws : Workspace) (optimize : Bool) : List Text :=
  compiler.toText :: compilerArguments ws.bytecode ws.bundle optimize

/-- Runs the compiler in a workspace, for some milliseconds at most. -/
def compileWithin (programs : Programs) (job : Job) (compiler : Path) (ws : Workspace)
    (allowed : Option Nat) : Action Unit := do
  Action.record .info pipelineOrigin
    (Text.ofString "compiling " ++ ws.bundle.toText ++ Text.ofString " (optimize="
      ++ Text.ofString (if job.request.optimize then "True" else "False") ++ Text.ofString ")")
  runCompiler programs (compilerCommand compiler ws job.request.optimize) (some ws.path) allowed

/-- Runs the compiler in a workspace until the deadline of the job. -/
def compile (programs : Programs) (job : Job) (compiler : Path) (ws : Workspace) :
    Action Unit := do
  let m ← get
  compileWithin programs job compiler ws (job.deadline.map fun time => time - m.clock)

/-- Reads the bytecode the compiler wrote. -/
def readBytecode (path : Path) : Action Bytes := do
  match ← Action.attempt (Action.readBytes path.toText) with
  | .ok bytes => return bytes
  | .error (.system e) =>
      if e.isNoEntry then throw (.build (.noBytecode path.toText)) else throw (.system e)
  | .error f => throw f

/-- The two documents a composed map is made of: the bundler's, and the
    one in the compiler's map file. -/
def readMaps (bundlerMap : Text) (file : Path) : Action (List Json) := do
  let bundler ← readMap .bundler bundlerMap
  match ← Action.attempt (Action.readText file.toText) with
  | .ok text => do
      let compiler ← readMap .compiler text
      return [bundler, compiler]
  | .error (.system e) =>
      if e.isNoEntry then throw (.build (.sourceMap (.notWritten file.toText)))
      else throw (.system e)
  | .error f => throw f

/-- The composed map as a text. -/
def composedMap (compose : List Json → Action Json) (bundlerMap : Text) (file : Path) :
    Action Text := do
  let maps ← readMaps bundlerMap file
  let composed ← compose maps
  Action.ofExcept Failure.ofWriteError (Json.dump Json.compact composed)

/-- The result of a build from what was read and what was composed; the
    failure to read the bytecode comes first. -/
def joinResults : Except Failure Bytes → Except Failure Text → Except Failure Result
  | .ok bytecode, .ok sourceMap => .ok ⟨bytecode, sourceMap⟩
  | .error f, _ => .error f
  | _, .error f => .error f

/-- Whether the deadline of a job has passed. -/
def isOverdue (job : Job) (m : Machine) : Bool :=
  match job.deadline with
  | none => false
  | some time => time < m.clock

/-- The stage that follows an action inside the workspace. -/
def stageAfter {α : Type} (ws : Workspace) (next : α → Stage) : Except Failure α → Stage
  | .ok a => next a
  | .error f => .closing ws (.error f)

/-- One step of a build. -/
def advance (programs : Programs) (job : Job) : Stage → Action Stage
  | .begun => do
      match ← Action.attempt (equip job) with
      | .ok (composer, compiler) => return .equipped composer compiler
      | .error f => return .ended (.error f)
  | .equipped composer compiler => do
      match ← Action.attempt (Workspace.acquire job.root) with
      | .ok ws => return .acquired composer compiler ws
      | .error f => return .ended (.error f)
  | .acquired composer compiler ws => do
      let outcome ← Action.attempt (stageInputs ws job.request)
      return stageAfter ws (fun _ => .staged composer compiler ws) outcome
  | .staged composer compiler ws => do
      let outcome ← Action.attempt (compile programs job compiler ws)
      return stageAfter ws (fun _ => .compiled composer ws) outcome
  | .compiled composer ws => do
      let bytecode ← Action.attempt (readBytecode ws.bytecode)
      return .read composer ws bytecode
  | .read composer ws bytecode => do
      let sourceMap ← Action.attempt
        (composedMap (composer programs) job.request.sourceMap ws.bytecodeMap)
      let m ← get
      -- Composition cannot be interrupted: a deadline passed meanwhile counts afterwards.
      if isOverdue job m then return .closing ws (.error .timedOut)
      else return .closing ws (joinResults bytecode sourceMap)
  | .closing ws outcome => do
      let closed ← Action.attempt (Workspace.close ws outcome)
      match closed with
      | .ok result => do
          Action.record .info pipelineOrigin
            (Text.ofString "built " ++ Text.ofNat result.bytecode.length
              ++ Text.ofString " bytes of bytecode")
          return .ended (.ok result)
      | .error f => return .ended (.error f)
  | .ended outcome => return .ended outcome

/-- Some steps of a build. -/
def steps (programs : Programs) (job : Job) : Nat → Stage → Action Stage
  | 0, stage => return stage
  | n + 1, stage => do
      let next ← advance programs job stage
      steps programs job n next

/-- How many steps lead from the beginning to the end. -/
def stepCount : Nat := 7

/-- The outcome of a stage; a build that has not ended has none. -/
def Stage.outcome? : Stage → Option (Except Failure Result)
  | .ended outcome => some outcome
  | _ => none

/-- Runs a build to its end. -/
def run (programs : Programs) (job : Job) : Action Result := do
  let stage ← steps programs job stepCount .begun
  match stage.outcome? with
  | some outcome => Action.ofExcept id outcome
  | none => throw .cancelled

/-- Runs a build that is given up after some milliseconds; with no time at
    all it does not begin. -/
def runWithin (programs : Programs) (job : Job) (milliseconds : Option Int) :
    Action Result := do
  match milliseconds with
  | none => run programs job
  | some time =>
      if time ≤ 0 then throw .timedOut
      else
        let m ← get
        run programs { job with deadline := some (m.clock + time.toNat) }

end HermesBundle.Build
