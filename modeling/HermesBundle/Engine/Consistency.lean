import HermesBundle.Engine.Gradle
import HermesBundle.Machine

/-! # Engine consistency — app config against native project

    An app can ask for Hermes in its config while its native project was
    made for another engine.  The native files are read conservatively:
    only a clear contradiction is reported. -/

namespace HermesBundle.Engine

/-- The platform whose native project is checked. -/
def android : Text := Text.ofString "android"

/-- Where this part of the program logs. -/
def logOrigin : String := "hbckit.api.hermes.engine"

/-- Whether an app config asks for Hermes on a platform.  A config that is
    no object cannot be asked. -/
def asksForHermes (config : Json) (platform : Text) : Except SourceMap.Misuse Bool :=
  if platform != android then .ok false
  else
    match config with
    | .obj _ =>
        .ok (match (config.get? android).bind fun a => a.get? (Text.ofString "jsEngine") with
          | some (.str engine) => engine == Text.ofString "hermes"
          | _ => false)
    | _ => .error .noMembers

/-- The property that names the engine. -/
def engineProperty : Text := Text.ofString "expo.jsEngine"

/-- The truth values in log messages. -/
def truthText (b : Bool) : Text := if b then "True" else "False"

/-- The build script of the native project. -/
def buildScript (project : Path) : Path :=
  ((project.childNamed "android").childNamed "app").childNamed "build.gradle"

/-- The properties file of the native project. -/
def propertiesFile (project : Path) : Path :=
  (project.childNamed "android").childNamed "gradle.properties"

/-- Whether a build script contradicts the config. -/
def scriptContradicts (script : Text) (managed : Bool) : Bool :=
  !refersToProperties script && managed != enablesHermes script

/-- Whether properties contradict the config. -/
def propertiesContradict (properties : Entries Text) (managed : Bool) : Bool :=
  managed != (properties.find? engineProperty == some (Text.ofString "hermes"))

/-- Logs that a file disagrees with the config, with what the file says. -/
def reportDisagreement (file : Path) (what said : Text) : Action Unit :=
  Action.record .info logOrigin (file.toText
    ++ Text.ofString " disagrees with app config (" ++ what ++ Text.ofString "=" ++ said
    ++ Text.ofString ")")

/-- Whether the native project of a project may contradict its config. -/
def maybeInconsistent (project : Path) (platform : Text) (managed : Bool) : Action Bool := do
  if platform != android then return false
  let script := buildScript project
  if ← Action.pathExists script then
    let text ← Action.readText script.toText
    if scriptContradicts text managed then
      reportDisagreement script (Text.ofString "enableHermes") (truthText (enablesHermes text))
      return true
  let file := propertiesFile project
  if ← Action.pathExists file then
    let text ← Action.readText file.toText
    for line in skippedLines text do
      Action.record .debug logOrigin
        (Text.ofString "skipping gradle.properties line without \x27=\x27: " ++ line.quoted)
    let properties := parseProperties text
    if propertiesContradict properties managed then
      reportDisagreement file engineProperty
        ((properties.find? engineProperty).getD (Text.ofString "None"))
      return true
  return false

end HermesBundle.Engine
