import HermesBundle.BuildError
import HermesBundle.Storage.Resolve
import HermesBundle.Text.Entries

/-! # Machines — the state that commands read and change

    A machine has files, a current directory, environment variables and a
    log, and remembers the project roots it has found.  An action reads
    and changes the machine and ends with a value or a failure; what it
    has changed before a failure stays changed. -/

namespace HermesBundle

/-- The weight of a log record. -/
inductive LogLevel where
  | debug
  | info
  | warning
deriving DecidableEq

/-- The number a weight is compared by. -/
def LogLevel.weight : LogLevel → Nat
  | .debug => 10
  | .info => 20
  | .warning => 30

/-- The name of a weight. -/
def LogLevel.name : LogLevel → String
  | .debug => "DEBUG"
  | .info => "INFO"
  | .warning => "WARNING"

/-- One log record: its weight, the part of the program that made it and
    its message. -/
structure LogRecord where
  level : LogLevel
  origin : String
  message : Text

/-- The line a record is written as. -/
def LogRecord.line (r : LogRecord) : Text :=
  Text.ofString r.level.name ++ Text.ofString ":" ++ Text.ofString r.origin
    ++ Text.ofString ":" ++ r.message

/-- Remembered project roots under the paths they were searched from,
    the one used last first. -/
abbrev RootCache := List (Path × Path)

/-- What a system knows about its accounts. -/
structure Accounts where
  /-- The home directory of the account that the program runs under. -/
  own : Option Text
  /-- The home directories of accounts, by their names. -/
  homes : Entries Text

/-- The accounts of a system that nobody has added any to. -/
def Accounts.standard : Accounts where
  own := some "/root"
  homes :=
    [("root", "/root"), ("daemon", "/usr/sbin"), ("bin", "/bin"), ("sys", "/dev"),
      ("sync", "/bin"), ("games", "/usr/games"), ("man", "/var/cache/man"),
      ("lp", "/var/spool/lpd"), ("mail", "/var/mail"), ("news", "/var/spool/news"),
      ("uucp", "/var/spool/uucp"), ("proxy", "/bin"), ("www-data", "/var/www"),
      ("backup", "/var/backups"), ("list", "/var/list"), ("irc", "/run/ircd"),
      ("_apt", "/nonexistent"), ("nobody", "/nonexistent")]

/-- The accounts that a password file lists, one on each line, with the
    number of the one that the program runs under. -/
def Accounts.ofPasswords (content user : Text) : Accounts :=
  let entries := (content.splitOn '\n').filterMap fun line =>
    match line.splitOn ':' with
    | name :: _ :: number :: _ :: _ :: home :: _ => some (name, number, home)
    | _ => none
  ⟨(entries.find? fun entry => entry.2.1 == user).map (·.2.2),
    entries.map fun entry => (entry.1, entry.2.2)⟩

/-- The state commands work on. -/
structure Machine where
  files : FileSystem
  here : Location
  environment : Entries Text
  platform : Text
  processId : Nat
  /-- The directory for temporary files, once it is known. -/
  temporary : Option Text
  roots : RootCache
  /-- How many names for workspaces have been drawn. -/
  tickets : Nat
  /-- Milliseconds that programs have taken so far. -/
  clock : Nat
  log : List LogRecord
  accounts : Accounts := .standard
  /-- The numbers that are drawn for the names of workspaces, one after
      another: any numbers, which may recur. -/
  draws : Nat → Nat := id

/-- An action on a machine. -/
abbrev Action (α : Type) := ExceptT Failure (StateM Machine) α

namespace Action

/-- Runs an action. -/
def perform {α : Type} (action : Action α) (m : Machine) : Except Failure α × Machine :=
  action.run m

/-- An action that fails. -/
def fail {α : Type} (f : Failure) : Action α := throw f

/-- Adds a record to the log. -/
def record (level : LogLevel) (origin : String) (message : Text) : Action Unit :=
  modify fun m => { m with log := m.log ++ [⟨level, origin, message⟩] }

/-- Takes over changed files, among which the current directory may be
    missing. -/
def settle (files : FileSystem) : Action Unit :=
  modify fun m => { m with files := files, here := files.settle m.here }

/-- An operation on the files that may fail. -/
def onFiles (operation : FileSystem → Location → Except SystemError FileSystem) : Action Unit := do
  let m ← get
  match operation m.files m.here with
  | .ok files => set { m with files := files }
  | .error e => throw (.system e)

/-- The result of a function that can fail. -/
def ofExcept {ε α : Type} (failure : ε → Failure) : Except ε α → Action α
  | .ok a => pure a
  | .error e => throw (failure e)

/-- The outcome of an action, which is not propagated. -/
def attempt {α : Type} (action : Action α) : Action (Except Failure α) := do
  let m ← get
  let (outcome, after) := action.perform m
  set after
  return outcome

/-- Checks that the text of a path can be handed to the system: that it has
    a form in bytes, none of which is zero. -/
def checkName (path : Text) : Action Unit :=
  if (Utf8.encodeName? path).isNone then throw .unencodable
  else if path.any (·.val == 0) then throw (.invalidValue "embedded null byte")
  else pure ()

/-- The content of a file. -/
def readBytes (path : Text) : Action Bytes := do
  checkName path
  let m ← get
  ofExcept .system (m.files.readFile m.here path)

/-- The first bytes of a file, as many as there are up to a number. -/
def readStart (path : Text) (count : Nat) : Action Bytes := do
  checkName path
  let m ← get
  ofExcept .system (m.files.readStart m.here path count)

/-- The text of a file: strict UTF-8 with line ends brought to one
    form. -/
def readText (path : Text) : Action Text := do
  let bytes ← readBytes path
  match Utf8.decode? bytes with
  | some t => return t.unifyNewlines
  | none => throw .undecodable

/-- Writes a file. -/
def writeBytes (path : Text) (content : Bytes) : Action Unit := do
  checkName path
  onFiles fun fs here => fs.writeFile here path content

/-- Writes a text file.  A text without a UTF-8 form leaves it empty. -/
def writeText (path : Text) (content : Text) : Action Unit := do
  match Utf8.encode? content with
  | some bytes => writeBytes path bytes
  | none =>
      writeBytes path []
      throw .unencodable

/-- Whether a path leads to an entry of some kind.  A path that leads
    nowhere does not; other failures to follow it are errors. -/
def leadsTo (kind : Entry → Bool) (path : Path) : Action Bool := do
  if !FileSystem.isUsable path.toText then return false
  let m ← get
  match m.files.status? m.here path.toText with
  | .ok e => return kind e
  | .error .nameTooLong => throw (.system (.about .nameTooLong path.toText))
  | .error _ => return false

/-- Whether a path leads to anything. -/
def pathExists (path : Path) : Action Bool := leadsTo (fun _ => true) path

/-- Whether a path leads to a regular file. -/
def isFile (path : Path) : Action Bool :=
  leadsTo
    (fun
      | .file _ _ => true
      | _ => false)
    path

/-- The location of the current directory. -/
def currentDirectory : Action Location := do
  let m ← get
  if FileSystem.isLost m.here then throw (.system (.bare .noEntry)) else return m.here

/-- The path that a path resolves to: absolute and without double dots. -/
def resolve (path : Path) : Action Path := do
  let m ← get
  let resolution := m.files.resolution m.here path
  match resolution.ending with
  | .unusable name => checkName name
  | _ => pure ()
  let base ← if resolution.path.isAbsolute then pure [] else currentDirectory
  let resolved := FileSystem.absoluteForm base resolution.path
  checkName resolved.toText
  if m.files.isLoop m.here resolved then
    throw (.notFound (Text.ofString "Symlink loop from " ++ resolved.toText.quoted))
  else return resolved

/-- Makes a directory and those above it unless they are there. -/
def ensureDirectory (path : Path) : Action Unit := do
  checkName path.toText
  let m ← get
  let (files, failure) := m.files.ensureDirectory m.here path
  set { m with files := files }
  match failure with
  | some e => throw (.system e)
  | none => pure ()

/-- The value of an environment variable. -/
def environmentValue (name : String) : Action (Option Text) := do
  let m ← get
  return m.environment.find? (Text.ofString name)

end Action

end HermesBundle
