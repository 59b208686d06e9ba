import HermesBundle.Json.Reader
import HermesBundle.SourceMap.Fault
import HermesBundle.Storage.SystemError
import HermesBundle.Text.Blank

/-! # Build errors — everything a build can fail with

    Errors are grouped by what went wrong: the project lacks something,
    the compiler could not be run or failed, a source map or a bytecode
    file is malformed, or a workspace could not be made or removed. -/

namespace HermesBundle

/-- The documents whose text is read as JSON during a build. -/
inductive MapText where
  | bundler
  | compiler
  | composer
deriving DecidableEq

/-- What a reading failure of a document starts with. -/
def MapText.lead : MapText → String
  | .bundler => "bundler source map is not valid JSON: "
  | .compiler => "hermesc source map is not valid JSON: "
  | .composer => "metro composeSourceMaps returned invalid JSON: "

/-- Why a source map cannot be used. -/
inductive MapError where
  | malformed (fault : SourceMap.Fault)
  | notJson (which : MapText) (error : Json.ReadError)
  | notWritten (path : Text)

/-- What was being done to a workspace. -/
inductive WorkspaceError where
  | notCreated (error : SystemError)
  | notRemoved (path : Text) (error : SystemError)

/-- An error of the build pipeline. -/
inductive BuildError where
  /-- A module is not installed; the wording may be given. -/
  | missingDependency (module reason : Text) (wording : Option Text)
  | noProjectRoot (reason : Text)
  | unsupportedPlatform (system : Text)
  | compilerNotStarted (program : Text) (error : SystemError)
  | compilerFailed (argv : List Text) (status : Option Int) (out err : Text)
  | sourceMap (error : MapError)
  | notBytecode (path : Text)
  /-- A header is too short; the path is known if a file was read. -/
  | headerTooShort (path : Option Text) (found : Nat)
  | workspace (error : WorkspaceError)
  | noBytecode (path : Text)
  | nodeNotStarted (error : SystemError)
  | nodeFailed (status : Int) (output : Text)

/-- The number of bytes of a bytecode header. -/
def headerSize : Nat := 12

/-- The wording of a source map error. -/
def MapError.message : MapError → Text
  | .malformed fault => fault.message
  | .notJson which error => Text.ofString which.lead ++ error.message
  | .notWritten path => Text.ofString "hermesc did not write a source map at " ++ path

/-- The wording of a workspace error. -/
def WorkspaceError.message : WorkspaceError → Text
  | .notCreated error => Text.ofString "unable to create build workspace: " ++ error.message
  | .notRemoved path error =>
      Text.ofString "unable to remove build workspace " ++ path ++ Text.ofString ": "
        ++ error.message

namespace BuildError

/-- The advice given when a module is missing. -/
def missingAdvice (module reason : Text) : Text :=
  Text.ofString "Missing module \x22" ++ module
    ++ Text.ofString "\x22 in the project. This usually means " ++ reason
    ++ Text.ofString " is not installed. Please verify that dependencies in package.json "
    ++ Text.ofString "include \x22react-native\x22 and run `yarn` or `npm install`."

/-- How an exit status is shown. -/
def statusText : Option Int → Text
  | some status => Text.ofInt status
  | none => "None"

/-- What the compiler had to say, on one line: its error output, or else
    its output. -/
def compilerDetail (out err : Text) : Text :=
  let words := (if err.isEmpty then out else err).squeeze
  if words.isEmpty then [] else Text.ofString ": " ++ words

/-- The wording of an error. -/
def message : BuildError → Text
  | .missingDependency module reason wording => wording.getD (missingAdvice module reason)
  | .noProjectRoot reason =>
      reason ++ Text.ofString " (no package.json or .git found); pass --project-root"
  | .unsupportedPlatform system =>
      Text.ofString "Unsupported host platform for Hermes compiler: " ++ system
  | .compilerNotStarted program error =>
      Text.ofString "unable to start hermesc (" ++ program ++ Text.ofString "): "
        ++ error.message
  | .compilerFailed _ status out err =>
      Text.ofString "hermesc exited with status " ++ statusText status ++ compilerDetail out err
  | .sourceMap error => error.message
  | .notBytecode path => Text.ofString "Invalid hermes bundle file: " ++ path
  | .headerTooShort path found =>
      (match path with
        | some path => path ++ Text.ofString ": "
        | none => [])
        ++ Text.ofString "expected " ++ Text.ofNat headerSize
        ++ Text.ofString " header bytes, found " ++ Text.ofNat found
  | .workspace error => error.message
  | .noBytecode path =>
      Text.ofString "hermesc exited successfully but wrote no bytecode at " ++ path
  | .nodeNotStarted error =>
      Text.ofString "unable to run node for metro composeSourceMaps: " ++ error.message
  | .nodeFailed status output =>
      Text.ofString "metro composeSourceMaps failed (status " ++ Text.ofInt status
        ++ Text.ofString "): " ++ output.squeeze

end BuildError

/-- Any failure of an operation. -/
inductive Failure where
  | build (error : BuildError)
  | system (error : SystemError)
  | json (error : Json.ReadError)
  /-- A value that is not allowed. -/
  | invalidValue (message : Text)
  /-- A search that found nothing. -/
  | notFound (message : Text)
  /-- A use of a value that its kind does not allow. -/
  | misuse (misuse : SourceMap.Misuse)
  /-- Bytes that are no UTF-8. -/
  | undecodable
  /-- A text that has no UTF-8 form. -/
  | unencodable
  | cancelled
  /-- Work that was given up before its end, or that has none. -/
  | timedOut

namespace Failure

/-- The wording of a failure; some have none. -/
def message : Failure → Text
  | .build error => error.message
  | .system error => error.message
  | .json error => error.message
  | .invalidValue message => message
  | .notFound message => message
  | _ => []

/-- The failure of turning a value into a text. -/
def ofWriteError : Json.WriteError → Failure
  | .tooManyDigits => .invalidValue (Json.WriteError.message .tooManyDigits)
  | .tooDeep => .json .tooDeep

/-- The failure a source map fault is reported as.  Work that does not end
    can only be given up. -/
def ofFault : SourceMap.Fault → Failure
  | .misuse m => .misuse m
  | .tooManyDigits => ofWriteError .tooManyDigits
  | .tooDeep => ofWriteError .tooDeep
  | .endless => .timedOut
  | fault => .build (.sourceMap (.malformed fault))

end Failure

end HermesBundle
