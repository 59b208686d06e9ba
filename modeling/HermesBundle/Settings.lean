import HermesBundle.Machine
import HermesBundle.Text.Letters

/-! # Settings — what the environment asks for

    Environment variables choose the compiler, the composer, the parent
    directory of workspaces, the node program and the log level. -/

namespace HermesBundle

/-- Who composes source maps. -/
inductive ComposerChoice where
  /-- The project's own module, run by node. -/
  | metro
  | builtin
deriving DecidableEq

/-- The name of a choice. -/
def ComposerChoice.name : ComposerChoice → Text
  | .metro => "metro"
  | .builtin => "builtin"

/-- The settings of a run. -/
structure Settings where
  compiler : Option Path
  composer : ComposerChoice
  workspaceRoot : Option Path
  node : Option Text
  logLevel : Text

namespace Settings

/-- A home directory without the slashes at its end. -/
def bareHome (home : Text) : Text :=
  let bare := home.trimRightOf slash
  if bare.isEmpty then [slash] else bare

/-- The home directory that a leading component names: that of an account
    for a tilde with its name, and for a lone tilde the one that the
    environment gives the user, or else that of the user's account. -/
def homeOf (accounts : Accounts) (userHome : Option Text) (component : Text) :
    Except Failure (Option Text) :=
  let account := component.drop 1
  if account.isEmpty then .ok ((userHome.or accounts.own).map bareHome)
  else if (Utf8.encodeName? account).isNone then .error .unencodable
  else if account.any (·.val == 0) then .error (.invalidValue "embedded null byte")
  else .ok ((accounts.homes.find? account).map bareHome)

/-- A path with a leading tilde component replaced by the home directory it
    names, which must not begin with a tilde itself. -/
def expandHome (accounts : Accounts) (userHome : Option Text) (p : Path) :
    Except Failure Path :=
  match p.anchor, p.parts with
  | .here, first :: rest =>
      if first.head? == some (.ofChar '~') then do
        let home ← homeOf accounts userHome first
        match home.filter fun home => home.head? != some (.ofChar '~') with
        | some home =>
            let base := Path.ofText home
            return ⟨base.anchor, base.parts ++ rest⟩
        | none => .error (.notFound "Could not determine home directory.")
      else .ok p
  | _, _ => .ok p

/-- The path in a variable, if the variable holds any text. -/
def optionalPath (accounts : Accounts) (userHome value : Option Text) :
    Except Failure (Option Path) :=
  match value with
  | none => .ok none
  | some t =>
      if t.isEmpty then .ok none else (expandHome accounts userHome (Path.ofText t)).map some

/-- The choice that a text names, blanks and case aside. -/
def composerOf (t : Text) : Except Failure ComposerChoice :=
  let name := t.trim.toLower
  if name = ComposerChoice.metro.name then .ok .metro
  else if name = ComposerChoice.builtin.name then .ok .builtin
  else
    .error (.invalidValue (Text.ofString "HBC_COMPOSER must be one of metro, builtin (got "
      ++ name.quoted ++ Text.ofString ")"))

/-- The settings that variables ask for. -/
def load (userHome : Option Text) (bindings : Entries Text)
    (accounts : Accounts := .standard) : Except Failure Settings := do
  let value := fun name : String => bindings.find? (Text.ofString name)
  let composer ← composerOf ((value "HBC_COMPOSER").getD ComposerChoice.metro.name)
  let compiler ← optionalPath accounts userHome (value "HBC_HERMESC")
  let workspaceRoot ← optionalPath accounts userHome (value "HBC_WORKSPACE_ROOT")
  let node := (value "HBC_NODE").filter fun t => !t.isEmpty
  let logLevel := ((value "HBC_LOG_LEVEL").getD (Text.ofString "WARNING")).toUpper
  return ⟨compiler, composer, workspaceRoot, node, logLevel⟩

/-- The settings of a machine's environment. -/
def current : Action Settings := do
  let m ← get
  let home ← Action.environmentValue "HOME"
  Action.ofExcept id (load home m.environment m.accounts)

end Settings

end HermesBundle
