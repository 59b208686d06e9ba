import HermesBundle.Shell.Runner

/-! # Sessions — processes from their start to their end

    A process starts as a program or as a copy of a shell.  A program knows
    nothing of what the shell that started it had, but for its variables,
    its directory, its descriptors and the signals that are ignored. -/

namespace HermesBundle.Shell

/-- How deep the commands of a script may be nested. -/
def nestingLimit : Nat := 50000

/-- Runs commands. -/
def runCommands : CommandsRunner := fun m body => runInTurn (execute nestingLimit) m body

/-- The actions that a new process keeps: signals that are ignored stay
    so. -/
def keptTraps (traps : List (Nat × String)) : List (Nat × String) :=
  traps.filter fun (signal, action) => action.isEmpty && signal != 0

/-- The process becomes a program with some variables. -/
def becomeProgram (image : Image) : Run Unit :=
  modify fun s => { s with
    bindings := image.environment.map fun (name, value) => (name, ⟨some value, true, false⟩)
    name := image.called, parameters := [], called := image.called
    functions := [], aliases := [], options := [], status := 0, background := none, jobs := []
    traps := [], deaf := (keptTraps s.traps).map (·.1) ++ s.deaf, pending := [], line := 0, nextLine := 0, running := none, loops := 0
    scopes := [], depth := 0, optionIndex := 1, optionOffset := 0, located := []
    statusBefore := none, outputStatus := 0, isTracing := false, documents := []
    unwritten := [], unwrittenSize := 0, lost := none, hasTaken := false, unread := [], isCopy := false }

/-- The variables that a shell has if it is not given others. -/
def presetVariables : Table String :=
  [("IFS", " \t\n"), ("OPTIND", "1"),
   ("PATH", "/usr/local/sbin:/usr/local/bin:/usr/sbin:/usr/bin:/sbin:/bin"), ("PS1", "# "),
   ("PS2", "> "), ("PS4", "+ ")]

/-- Sets what every shell has at its start. -/
def prepareShell : Run Unit := do
  let s ← get
  let given : Table Variable := s.bindings.filter fun (name, _) =>
    isName name && name != "IFS" && name != "OPTIND"
  let bindings : Table Variable := presetVariables.foldl
    (fun (t : Table Variable) (name, value) =>
      if (t.find? name).isSome then t else t.set name ⟨some value, false, false⟩)
    given
  let parent : Variable := ⟨some (toString s.parent), false, false⟩
  -- The directory keeps the name it was given, if that is a name of it.
  let givenName := ((bindings.find? "PWD").bind (·.value)).filter fun path =>
    path.toList.head? == some '/' &&
      match s.toWorld.spot s.here true path with
      | .ok (.found l _) => l == s.here
      | _ => false
  let path := pathOf s.here
  let directory := givenName.getD path
  set { s with
    bindings := Table.set (bindings.set "PPID" parent) "PWD" ⟨some directory, true, false⟩
    directory := directory, shell := s.process
    lookedUp := if givenName.isNone && !path.isEmpty then some path else none }
  if FileSystem.isLost s.here then
    Run.report "sh: 0: getcwd() failed: No such file or directory\n".toList

/-- Runs the shell with arguments. -/
def runShell (arguments : List String) : Run Nat := do
  prepareShell
  toTheEnd runCommands do
    let given ← takeShellOptions (arguments.length + 1) arguments
    Builtin.giveUpControl
    match given with
    | (true, []) => Run.fail "-c requires an argument"
    | (true, source :: rest) => do
        modify fun s => { s with
          name := rest.head?.getD s.name, parameters := rest.drop 1, line := 1 }
        runText runCommands ⟨false, true⟩ 1 source.toList
    | (false, operands) => do
        let s ← get
        if operands.isEmpty || s.isOn 's' then
          let options := if s.isOn 's' then s.options else 's' :: s.options
          set { s with parameters := operands, options := options, line := 1 }
          runScript runCommands (.descriptor 0) []
        else
          let file := operands.headD ""
          withScriptFile file fun feed t => do
            modify fun s => { s with name := file, parameters := operands.drop 1, line := 1 }
            runScript runCommands feed t

/-- Runs a program. -/
def runImage (image : Image) : Run Nat := do
  becomeProgram image
  if image.program == "sh" then runShell image.arguments
  else
    match tools.lookup image.program with
    | some tool => Tool.closing image.program tool image.arguments
    | none => return 127

/-- Runs a copy of the shell. -/
def runCopyOfShell (isTested isBackground : Bool) (body : List Command)
    (redirects : List Redirect) : Run Nat := do
  modify fun s =>
    { s with
      traps := keptTraps s.traps, deaf := if isBackground then 2 :: 3 :: s.deaf else s.deaf
      pending := [], jobs := [], isCopy := true, statusBefore := none }
  toTheEnd runCommands (runCopy nestingLimit isTested body redirects)

/-- Does what a new process is to do. -/
def runJob (job : Job) : Run Nat := do
  modify fun s => { s with used := 0 }
  match job with
  | .commands isTested isBackground body redirects =>
      runCopyOfShell isTested isBackground body redirects
  | .image image => runImage image

end HermesBundle.Shell
