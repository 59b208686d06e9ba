import HermesBundle.Build.Program
import HermesBundle.Json.Writer
import HermesBundle.Project.Modules
import HermesBundle.Settings
import HermesBundle.SourceMap.Composition

/-! # Toolchains — the compiler and the composer of a project

    A project brings its compiler and its composer as installed modules;
    settings can replace both.  The composer is either the one of this
    library or a module of the project, run by node. -/

namespace HermesBundle.Build

/-- Where this part of the program logs. -/
def toolchainOrigin : String := "hbckit.api.hermes.toolchain"

/-- The module that brings the compiler. -/
def engineModule : Text := Text.ofString "hermes-engine"

/-- The module that composes source maps. -/
def composerModule : Text := Text.ofString "metro-source-map/src/composeSourceMaps"

/-- Where the compiler lies inside its module, by platform. -/
def platformExecutables : Entries Text :=
  [(Text.ofString "darwin", Text.ofString "osx-bin/hermesc"),
   (Text.ofString "linux", Text.ofString "linux64-bin/hermesc"),
   (Text.ofString "win32", Text.ofString "win64-bin/hermesc.exe")]

/-- Where the compiler lies for a platform. -/
def platformExecutable (system : Text) : Except Failure Text :=
  match platformExecutables.find? system with
  | some path => .ok path
  | none => .error (.build (.unsupportedPlatform system))

/-- The platform that is asked for.  The host is meant if none is named. -/
def platformOrHost (host : Text) (asked : Option Text) : Text :=
  match asked with
  | some system => if system.isEmpty then host else system
  | none => host

/-- What composes the maps of a build: what it makes of a chain, given what
    programs do. -/
abbrev Composer := Programs → List Json → Action Json

/-- The composers that a project can have. -/
inductive ProjectComposer where
  /-- The one of this library. -/
  | builtin
  /-- A module of the project, run by node. -/
  | metro (module : Path) (node : Text)

/-- Where compiler and composer come from: what answers for both, given a
    project. -/
structure Toolchain where
  resolveComposer : Path → Action Composer
  resolveCompiler : Path → Action Path

/-- What the builtin composer makes of a chain. -/
def composeBuiltin (maps : List Json) : Action Json :=
  Action.ofExcept Failure.ofFault (SourceMap.compose maps)

/-- The script that node runs: it reads a chain of maps and writes the
    composed map. -/
def nodeScript : Text :=
  Text.ofString ("\nconst mod = require(process.argv[1]);\n"
    ++ "const compose = typeof mod === \x27function\x27 ? mod : mod.default;\n"
    ++ "let input = \x27\x27;\n"
    ++ "process.stdin.setEncoding(\x27utf8\x27);\n"
    ++ "process.stdin.on(\x27data\x27, (chunk) => \x7b input += chunk; \x7d);\n"
    ++ "process.stdin.on(\x27end\x27, () => \x7b\n"
    ++ "  process.stdout.write(JSON.stringify(compose(JSON.parse(input))));\n"
    ++ "\x7d);\n")

/-- The text a program wrote: strict UTF-8 with line ends brought to one
    form. -/
def outputText (bytes : Bytes) : Action Text :=
  match Utf8.decode? bytes with
  | some t => return t.unifyNewlines
  | none => throw .undecodable

/-- A text read as JSON; a text that is no JSON is reported as a source
    map error of some document. -/
def readMap (which : MapText) (text : Text) : Action Json :=
  match Json.read text with
  | .ok doc => return doc
  | .error (.syntaxFault fault text position) =>
      throw (.build (.sourceMap (.notJson which (.syntaxFault fault text position))))
  | .error e => throw (.json e)

/-- What node answers to some input. -/
def askNode (programs : Programs) (module : Path) (node : Text) (input : Bytes) :
    Action Json := do
  let argv := [node, Text.ofString "-e", nodeScript, module.toText]
  match ← runProgram programs argv none input none with
  | .notStarted errno => throw (.build (.nodeNotStarted (.about errno node)))
  | .notEntered errno => throw (.build (.nodeNotStarted (.about errno node)))
  | .killed => throw .timedOut
  | .ended status out err _ => do
      let out ← outputText out
      let err ← outputText err
      if status != 0 then throw (.build (.nodeFailed status (if err.isEmpty then out else err)))
      readMap .composer out

/-- What node makes of a chain, which is written for it first. -/
def composeByNode (programs : Programs) (module : Path) (node : Text) (maps : List Json) :
    Action Json := do
  let input ← Action.ofExcept Failure.ofWriteError (Json.dump Json.spaced (.arr maps))
  askNode programs module node input.bytes

/-- The composer of this library; it runs no program. -/
def builtinComposer : Composer := fun _ maps => composeBuiltin maps

/-- What a composer of a project makes of a chain. -/
def ProjectComposer.composer : ProjectComposer → Composer
  | .builtin => builtinComposer
  | .metro module node => fun programs maps => composeByNode programs module node maps

/-- The executable file of a name in the directories of a search path. -/
def findExecutable (name : Text) : List Text → Action (Option Text)
  | [] => return none
  | directory :: rest => do
      let path :=
        if directory.isEmpty then name
        else if directory.getLast? == some slash then directory ++ name
        else directory ++ [slash] ++ name
      let m ← get
      match m.files.status? m.here path with
      | .ok (.file _ true) => return some path
      | _ => findExecutable name rest

/-- The search path of the system, for where the environment has none. -/
def systemPath : Text := "/bin:/usr/bin"

/-- The node program on the search path.  A path that is empty is searched
    nowhere. -/
def nodeOnPath : Action (Option Text) := do
  let path := (← Action.environmentValue "PATH").getD systemPath
  if path.isEmpty then return none
  else findExecutable (Text.ofString "node") (path.splitOn ':')

/-- The compiler of a project. -/
def resolveProjectCompiler (settings : Settings) (project : Path) : Action Path := do
  match settings.compiler with
  | some path =>
      if ← Action.isFile path then return path
      else
        throw (.build (.missingDependency path.toText engineModule
          (some (Text.ofString "HBC_HERMESC points at " ++ path.toText
            ++ Text.ofString ", which does not exist."))))
  | none => do
      let m ← get
      let inside ← Action.ofExcept id (platformExecutable m.platform)
      let request := engineModule ++ [slash] ++ inside
      match ← Project.resolveModule project request with
      | none => throw (.build (.missingDependency request engineModule none))
      | some path => do
          Action.record .debug toolchainOrigin
            (Text.ofString "resolved hermesc at " ++ path.toText)
          return path

/-- The composer of a project. -/
def resolveProjectComposer (settings : Settings) (project : Path) :
    Action ProjectComposer := do
  match settings.composer with
  | .builtin => return .builtin
  | .metro =>
      match ← Project.resolveModule project composerModule with
      | none =>
          throw (.build (.missingDependency composerModule (Text.ofString "React Native") none))
      | some path => do
          let node ←
            match settings.node with
            | some node => pure (some node)
            | none => nodeOnPath
          match node with
          | none =>
              throw (.build (.missingDependency (Text.ofString "node") (Text.ofString "Node.js")
                (some (Text.ofString ("node not found (required to run metro-source-map); "
                  ++ "install Node.js or set HBC_COMPOSER=builtin.")))))
          | some node => do
              Action.record .debug toolchainOrigin
                (Text.ofString "resolved metro composer at " ++ path.toText
                  ++ Text.ofString " (node=" ++ node ++ Text.ofString ")")
              return .metro path node

namespace Toolchain

/-- A given compiler and a given composer, whatever the project. -/
def static (compiler : Path) (composer : Composer) : Toolchain where
  resolveComposer _ := return composer
  resolveCompiler _ := return compiler

/-- A given compiler, with the composer of this library. -/
def fixed (compiler : Path) : Toolchain := static compiler builtinComposer

/-- What a project brings, under given settings. -/
def project (settings : Settings) : Toolchain where
  resolveComposer project := do
    let found ← resolveProjectComposer settings project
    return found.composer
  resolveCompiler := resolveProjectCompiler settings

end Toolchain

end HermesBundle.Build
