import HermesBundle.CommandLine.Arguments
import HermesBundle.Storage.Path

/-! # Commands — what a command line asks for

    There are three commands: to build a bundle, to inspect bytecode files
    and to check the engine settings of a project. -/

namespace HermesBundle.CommandLine

/-- A command with its arguments.  A source map or a platform is lacking
    if its option was given without a value. -/
inductive Command where
  | build (bundle : Path) (sourceMap project out mapOut : Option Path) (optimize : Bool)
  | inspect (paths : List Path) (out : Option Path)
  | checkEngine (project : Option Path) (platform : Option Text) (appConfig : Option Path)

/-- The option that asks for help. -/
def helpRule : OptionRule := ⟨["-h", "--help"], .help, false⟩

/-- An option with a value. -/
def valueRule (names : List String) : OptionRule := ⟨names, .value, false⟩

/-- The rules for the choice of a command. -/
def mainRules : Rules := ⟨"hbckit", "command", .rest, [helpRule]⟩

/-- The rules of a build. -/
def buildRules : Rules :=
  ⟨"hbckit build", "bundle", .one,
    [helpRule, ⟨["--map"], .value, true⟩, valueRule ["--project-root"], valueRule ["--out"],
      valueRule ["--map-out"], ⟨["-O", "--optimize"], .flag, false⟩]⟩

/-- The rules of an inspection. -/
def inspectRules : Rules :=
  ⟨"hbckit inspect", "paths", .many, [helpRule, valueRule ["--out", "--json"]]⟩

/-- The rules of an engine check. -/
def checkEngineRules : Rules :=
  ⟨"hbckit check-engine", "", .none,
    [helpRule, valueRule ["--project-root"], valueRule ["--platform"], valueRule ["--app-json"]]⟩

/-- The names of the commands. -/
def commandNames : List String := ["build", "inspect", "check-engine"]

/-- The path an option was given. -/
def Values.path? (values : Values) (name : String) : Option Path :=
  (values.option? name).map Path.ofText

/-- Reads the arguments of a named command; what no rule knows is returned
    with it. -/
def readNamed (name : Text) (arguments : List Text) : Except Stop (Command × List Text) :=
  if name == "build" then do
    let values ← read buildRules arguments
    let bundle := Path.ofText (values.allOperands.head?.getD [])
    return (.build bundle (values.path? "--map") (values.path? "--project-root")
      (values.path? "--out") (values.path? "--map-out") (values.isGiven "-O"), values.unknown)
  else if name == "inspect" then do
    let values ← read inspectRules arguments
    return (.inspect (values.allOperands.map Path.ofText) (values.path? "--out"), values.unknown)
  else if name == "check-engine" then do
    let values ← read checkEngineRules arguments
    return (.checkEngine (values.path? "--project-root")
      ((values.given? "--platform").getD (some "android")) (values.path? "--app-json"),
      values.unknown)
  else
    .error (.refused mainRules.program
      (.unknownChoice mainRules.operand name commandNames))

/-- Reads a command line. -/
def readCommand (arguments : List Text) : Except Stop Command := do
  let values ← read mainRules arguments
  match values.allOperands with
  | [] => .error (.refused mainRules.program (.lacks [mainRules.operand]))
  | name :: rest => do
      let (command, unknown) ← readNamed name rest
      let unknown := values.unknown ++ unknown
      if unknown.isEmpty then return command
      else .error (.refused mainRules.program (.unrecognized unknown))

end HermesBundle.CommandLine
