import HermesBundle.Shell.Builtins.Condition
import HermesBundle.Shell.Builtins.Jobs
import HermesBundle.Shell.Builtins.Lines
import HermesBundle.Shell.Expansion
import HermesBundle.Shell.Lookup
import HermesBundle.Shell.Tools

/-! # The runner — what the commands of a script do

    Commands are run by recursion on how deep they are nested, which is
    bounded by a number that no reasonable script reaches.  Lists, loops
    and sources are gone through by functions of their own, which are
    given what to do at each step. -/

namespace HermesBundle.Shell

/-- How a command is run. -/
structure Manner where
  /-- Whether its failure is looked at. -/
  isTested : Bool
  /-- Whether its process has nothing to do after it. -/
  isLast : Bool

namespace Manner

/-- As a command among others. -/
def plain : Manner := ⟨false, false⟩

/-- As a condition. -/
def condition : Manner := ⟨true, false⟩

/-- As a part of a command that is run in some manner. -/
def inner (m : Manner) : Manner := ⟨m.isTested, false⟩

end Manner

/-- What runs commands in some manner. -/
abbrev CommandsRunner := Manner → List Command → Run Nat

/-- How many functions can be run inside each other. -/
def functionLimit : Nat := 1000

/-! ## Steps of running -/

/-- The status of a command, kept for those that ask for it. -/
def noted (status : Nat) : Run Nat := do
  modify fun s => { s with status := status }
  return status

/-- The status of a command.  A failure that nothing tests ends a script
    that asked for that. -/
def concluded (m : Manner) (status : Nat) : Run Nat := do
  modify fun s => { s with status := status }
  if status != 0 && !m.isTested && (← get).isOn 'e' then throw (.exited status)
  return status

/-- Runs commands one after another. -/
def runInTurn (run : Manner → Command → Run Nat) (m : Manner) : List Command → Run Nat
  | [] => return 0
  | [command] => run m command
  | command :: rest => do
      let _ ← run m.inner command
      runInTurn run m rest

/-- Repeats a round, which is told the status before it and returns the
    status after it and whether to go on. -/
def repeatRounds (round : Nat → Run (Nat × Bool)) : Nat → Nat → Run Nat
  | 0, _ => throw .stuck
  | n + 1, status => do
      let (status, goesOn) ← round status
      if goesOn then repeatRounds round n status else return status

/-- Runs a round of a loop, which tells whether the loop goes on, unless
    the round is left. -/
def loopRound (round : Run (Nat × Bool)) : Run (Nat × Bool) :=
  tryCatch round fun
    | .leaveLoops 1 => do
        let status ← noted 0
        return (status, false)
    | .leaveLoops n => throw (.leaveLoops (n - 1))
    | .nextRound 1 => do
        let status ← noted 0
        return (status, true)
    | .nextRound n => throw (.nextRound (n - 1))
    | stop => throw stop

/-- Runs a loop, which counts as one more around what it runs. -/
def asLoop (piece : Run Nat) : Run Nat := do
  let before := (← get).loops
  modify fun s => { s with loops := before + 1 }
  Run.ensuring piece (modify fun s => { s with loops := before })

/-- Runs a body for each of some values. -/
def forValues (body : String → Run (Nat × Bool)) : List String → Nat → Run Nat
  | [], status => return status
  | value :: rest, _ => do
      let (status, goesOn) ← body value
      if goesOn then forValues body rest status else return status

/-- Runs a piece whose complaints name a command. -/
def asCommand {α : Type} (name : String) (piece : Run α) : Run α := do
  let before := (← get).running
  modify fun s => { s with running := some name }
  Run.ensuring piece (modify fun s => { s with running := before })

/-- Runs a builtin.  Its misuse ends the script only if it is special. -/
def runBuiltin (isSpecial : Bool) (name : String) (piece : Run Nat) : Run Nat :=
  asCommand name <| tryCatch
    (do
      modify fun s => { s with lost := none }
      let status ← piece
      let _ ← Run.flush
      let s ← get
      if s.lost.isNone then return status
      else do
        set { s with lost := none }
        Run.complain (name ++ ": I/O error")
        return status ||| 1)
    fun stop => do
      modify fun s => { s with unwritten := [], unwrittenSize := 0 }
      match stop with
      | .failed status => if isSpecial then throw stop else return status
      | stop => throw stop

/-- Runs a piece with other parameters, outside all loops; a return ends
    only the piece. -/
def asFunction (parameters : List String) (piece : Run Nat) : Run Nat := do
  let before ← get
  if functionLimit ≤ before.depth then
    Run.fail ("Maximum function recursion depth (" ++ toString functionLimit ++ ") reached")
  set { before with
    parameters := parameters, optionIndex := 1, optionOffset := 0, loops := 0
    depth := before.depth + 1 }
  Run.ensuring
    (tryCatch piece fun
      | .returned status => return status
      | stop => throw stop)
    (modify fun s => { s with
      parameters := before.parameters, optionIndex := before.optionIndex
      optionOffset := before.optionOffset, loops := before.loops, depth := before.depth })

/-- Runs a piece with variables of its own, if that is wanted. -/
def inScope (opens : Bool) (piece : Run Nat) : Run Nat :=
  if opens then do
    Run.openScope
    Run.ensuring piece Run.closeScope
  else piece

/-! ## Processes -/

/-- The number of a new job: the lowest one that is free, or whose job has
    ended and been waited for. -/
def takeJobNumber : Run Nat := do
  let s ← get
  let isFree := fun n : Nat =>
    match s.jobs.find? fun job => job.number == n with
    | none => true
    | some job => job.isKnown && Builtin.hasEnded s.toWorld job
  let number := ((List.range (s.jobs.length + 1)).map (· + 1)).find? isFree
  let number := number.getD (s.jobs.length + 1)
  set { s with jobs := s.jobs.filter fun job => job.number != number }
  return number

/-- Processes go on in the background. -/
def keepJob (processes : List Nat) : Run Nat := do
  let number ← takeJobNumber
  modify fun s => { s with
    jobs := ⟨number, processes, false⟩ :: s.jobs
    background := processes.getLast? }
  return 0

/-- Waits for processes, of which the last one gives the status. -/
def waitForAll (processes : List Nat) : Run Nat := do
  let _ ← takeJobNumber
  for process in processes do
    Run.await [.ended process]
  Builtin.reportEndings processes
  Builtin.statusOf (processes.getLast?.getD 0)

/-- The image for a command that was looked up, or why there is none. -/
def imageForCommand (searchPath name : String) (arguments : List String) :
    Run (Except Errno Image) := do
  let s ← get
  let environment := s.toContext.environment
  let found :=
    if isPath name then s.toWorld.imageFor s.here true name name arguments
    else
      let paths := candidates searchPath name
      let rest :=
        match s.located.find? name with
        | some path => paths.dropWhile (· != path)
        | none => paths
      s.toWorld.firstImage s.here true name arguments .noEntry rest
  return found.bind fun image => { image with environment := environment }.fitting s.stack

/-- The status of a command that cannot be started. -/
def startFailure (name : String) (e : Errno) : Run Nat := do
  Run.complain (name ++ ": " ++ searchFailure e)
  return if [Errno.noEntry, .notDirectory, .tooManyLinks, .nameTooLong].contains e then 127 else 126

/-- Whether some signal, or the end, has an action. -/
def hasActions : Run Bool := do
  return (← get).traps.any fun (_, action) => !action.isEmpty

/-! ## Redirections -/

/-- A redirection after the expansion of its target. -/
inductive ReadyRedirect where
  | opened (descriptor : Nat) (kind : RedirectKind) (path : String)
  /-- The descriptor is copied, or closed if there is none. -/
  | copied (descriptor : Nat) (source : Option Nat)
  | given (descriptor : Nat) (content : Octets)

/-- What is said of a file that cannot be opened or created. -/
def openFailure {α : Type} (creates : Bool) (path : String) (e : Errno) : Run α :=
  let reason :=
    if e != .noEntry && e != .notDirectory then e.text
    else if creates then "Directory nonexistent"
    else "No such file"
  Run.fail ((if creates then "cannot create " else "cannot open ") ++ path ++ ": " ++ reason)

/-- A descriptor is refused as a fault of the script, where it is read. -/
def refuseDescriptor {α : Type} : Run α := do
  modify fun s => { s with line := s.nextLine }
  Run.fail "Syntax error: Bad fd number"

/-- Opens a file for a redirection. -/
def openTarget (kind : RedirectKind) (path : String) : Run Nat := do
  let attempt := fun (creates : Bool) (mode : OpenMode) => do
    match ← Run.openFile path mode with
    | .ok number => return number
    | .error e => openFailure creates path e
  match kind with
  | .read => attempt false .read
  | .readWrite => attempt true .readWrite
  | .append => attempt true .append
  | .write =>
      if (← get).isOn 'C' then
        match ← Run.status true path with
        | .ok f =>
            if f.kind = .regular then openFailure true path .occupied else attempt true .write
        | .error _ => attempt true .create
      else attempt true .write
  | _ => attempt true .write

/-- Applies a redirection. -/
def applyRedirect (r : ReadyRedirect) : Run Unit := do
  match r with
  | .opened descriptor kind path => do
      let number ← openTarget kind path
      Run.connect descriptor number
  | .copied descriptor none => Run.close descriptor
  | .copied descriptor (some source) => do
      match ← Run.openingNumber source with
      | some number => if source != descriptor then Run.connect descriptor number
      | none => Run.fail (toString source ++ ": " ++ Errno.badDescriptor.text)
  | .given descriptor content => do
      let pipe ← Run.makePipe content none
      let reader ← Run.makeOpening (.pipe pipe) true false false
      Run.connect descriptor reader

/-- The descriptor that a redirection changes. -/
def ReadyRedirect.descriptor : ReadyRedirect → Nat
  | .opened descriptor _ _ => descriptor
  | .copied descriptor _ => descriptor
  | .given descriptor _ => descriptor

/-- Applies redirections one by one.  The error output is laid aside before
    another descriptor is first copied to it, so that no one hears of a copy
    of what is closed. -/
def applyInOrder (laysAside : Bool) : List ReadyRedirect → Run Unit
  | [] => return ()
  | r :: rest => do
      match r with
      | .copied 2 (some source) => do
          let number ← Run.openingNumber source
          if laysAside && number.isNone then Run.close 2
      | _ => pure ()
      applyRedirect r
      applyInOrder (laysAside && r.descriptor != 2) rest

/-- Applies redirections in order; false if one of them fails. -/
def applyRedirects (redirects : List ReadyRedirect) : Run Bool :=
  tryCatch
    (do
      applyInOrder true redirects
      return true)
    fun
      | .failed _ => return false
      | stop => throw stop

/-! ## Commands that run apart -/

/-- How deep the expansions of a word may be nested. -/
def expansionLimit : Nat := 1000000

/-- What commands print; their status is kept. -/
def outputOf (body : List Command) : Run Octets := do
  let (reader, writer) ← Run.makeChannel
  modify fun s => { s with toWorld := s.toWorld.retain reader }
  let process ← Run.keepingDescriptors do
    Run.connect 1 writer
    Run.fork (.commands false false body [])
  let t ← Run.readOpening reader Run.blockLimit []
  modify fun s => { s with toWorld := s.toWorld.release reader }
  let status ← waitForAll [process]
  modify fun s => { s with outputStatus := status }
  return t

/-- Expands a redirection. -/
def redirectReady : Redirect → Run ReadyRedirect
  | .mk descriptor kind target => do
      match kind with
      | .document number => do
          let word := ((← get).documents.lookup number).getD []
          return .given descriptor (← expandDocument outputOf expansionLimit word)
      | .duplicate => do
          match (← expandString outputOf expansionLimit target).toList with
          | ['-'] => return .copied descriptor none
          | [c] =>
              if isDigit c then return .copied descriptor (some (digitValue c))
              else refuseDescriptor
          | _ => refuseDescriptor
      | kind => return .opened descriptor kind (← expandString outputOf expansionLimit target)

/-- Expands and sets the variables of a command, and returns what was
    set. -/
def assignAll (isLocal isExported : Bool) : List (String × Word) → Run (List String)
  | [] => return []
  | (name, word) :: rest => do
      let value ← expandValue outputOf expansionLimit word
      if isLocal then Run.makeLocal name
      Run.assign name value
      if isLocal || isExported then
        Run.changeVariable name fun v => { v with isExported := true }
      let others ← assignAll isLocal isExported rest
      return (name ++ "=" ++ value) :: others

/-- There is no input. -/
def connectNothing : Run Unit := do
  let nothing ← Run.makeOpening .nothing true false false
  Run.connect 0 nothing

/-- Starts a process in the background, without input. -/
def startBackground (job : Job) : Run Nat :=
  Run.keepingDescriptors do
    connectNothing
    Run.fork job

/-- Starts processes, the first of which reads from an opening. -/
def startStages (isTested isBackground : Bool) : Option Nat → List Command → Run (List Nat)
  | _, [] => return []
  | input, command :: rest => do
      let start := fun (output : Option Nat) => Run.keepingDescriptors do
        match input with
        | some number => Run.connect 0 number
        | none => if isBackground then connectNothing
        match output with
        | some number => Run.connect 1 number
        | none => pure ()
        Run.fork (.commands isTested isBackground [command] [])
      if rest.isEmpty then do
        let process ← start none
        return [process]
      else do
        let (reader, writer) ← Run.makeChannel
        let process ← start (some writer)
        let others ← startStages isTested isBackground (some reader) rest
        return process :: others

/-- A program that is about to be run in a copy of the shell is looked up in
    the shell itself. -/
def lookUpEarly (stage : Command) : Run Unit := do
  match stage with
  | .simple _ _ (word :: _) _ =>
      match Word.bare? word with
      | none => return ()
      | some name =>
          if isPath name || (builtinKind? name).isSome || ((← get).functions.find? name).isSome then
            return ()
          else do
            let _ ← Run.locate name
            return ()
  | _ => return ()

/-- Starts a process for each of some commands, so that each reads what the
    one before it writes. -/
def startPipes (isTested isBackground : Bool) (stages : List Command) : Run (List Nat) := do
  for stage in stages do
    lookUpEarly stage
  startStages isTested isBackground none stages

/-! ## Builtins that need no runner -/

/-- Leaves loops or starts their next round; outside loops there is nothing
    to do. -/
def leaveLoops (stop : Nat → Stop) : Builtin := fun arguments => do
  let n ← match arguments with
    | [] => pure 1
    | argument :: _ => do
        let n ← numberArgument argument
        if n = 0 then refuseNumber argument else pure n
  let s ← get
  if s.loops = 0 then return 0 else throw (stop (min n s.loops))

/-- Ends the script. -/
def exitScript : Builtin := fun arguments => do
  let s ← get
  match arguments with
  | [] => throw (.exited (s.statusBefore.getD s.status))
  | argument :: _ => throw (.exited (← numberArgument argument))

/-- Leaves a function or a file. -/
def leaveFunction : Builtin := fun arguments => do
  match arguments with
  | [] => throw (.returned (← get).status)
  | argument :: _ => throw (.returned (← numberArgument argument))

/-- The builtins that need no runner. -/
def plainBuiltins : List (String × Builtin) :=
  [(":", fun _ => return 0), ("[", Builtin.test true), ("alias", Builtin.setAliases),
   ("bg", Builtin.resume), ("break", leaveLoops .leaveLoops), ("cd", Builtin.cd),
   ("chdir", Builtin.cd), ("continue", leaveLoops .nextRound), ("command", Builtin.command),
   ("echo", Builtin.echo), ("exit", exitScript), ("export", Builtin.exportVariables),
   ("false", fun _ => return 1), ("fg", Builtin.resume), ("getopts", Builtin.getopts),
   ("hash", Builtin.hash), ("jobs", Builtin.showJobs), ("kill", Builtin.kill),
   ("local", Builtin.localVariables), ("printf", Builtin.printf), ("pwd", Builtin.pwd),
   ("read", Builtin.read), ("readonly", Builtin.freezeVariables), ("return", leaveFunction),
   ("set", Builtin.setOptions), ("shift", Builtin.shift), ("test", Builtin.test false),
   ("times", Builtin.times), ("trap", Builtin.trap), ("true", fun _ => return 0),
   ("type", Builtin.type), ("ulimit", Builtin.ulimit), ("umask", Builtin.umask),
   ("unalias", Builtin.removeAliases), ("unset", Builtin.unsetNames), ("wait", Builtin.wait)]

/-! ## Sources -/

/-- What reading brought along is kept: inputs that the script holds. -/
def keepDocuments (source : Source) : Run Unit :=
  modify fun s => { s with
    documents := source.documents ++ s.documents, nextDocument := source.nextDocument
    nextLine := source.line }

/-- The lines of a source up to some number of octets that are left. -/
def linesBefore (source : Source) (left : Nat) : Octets := source.rest.take (source.left - left)

/-- Where the text of a script goes on. -/
inductive Feed where
  | nowhere
  /-- What a descriptor leads to at the time. -/
  | descriptor (number : Nat)
  /-- An opening that no descriptor of a command leads to. -/
  | opening (number : Nat)

/-- How much of a script is read at once. -/
def feedSize : Nat := 8192

/-- How often a script is read from. -/
def feedLimit : Nat := 10000000

namespace Feed

/-- Whether there may be more. -/
def isOpen : Feed → Bool
  | .nowhere => false
  | _ => true

/-- The octets that come next; none at the end. -/
def block : Feed → Run (Except Errno Octets)
  | .nowhere => return .ok []
  | .descriptor d => Run.read d feedSize
  | .opening number => Run.readFrom number feedSize

end Feed

/-- A text without null octets, which no script has. -/
def withoutNulls (t : Octets) : Octets := t.filter fun c => c != '\x00'

/-- Runs the commands of a source line by line.  More is read when what is
    there does not settle what the next command is.  `shows` says that its
    lines are shown if that is asked for. -/
def runLines (run : CommandsRunner) (m : Manner) (shows : Bool) :
    Nat → Feed → Source → Nat → Run Nat
  | 0, _, _, status => return status
  | fuel + 1, feed, source, status => do
      let s ← get
      let source := { source with aliases := s.aliases, nextDocument := s.nextDocument }
      let showLines := fun (t : Octets) =>
        if shows && s.isOn 'v' then Run.report t else pure ()
      let reading := source.nextLine
      if feed.isOpen && !source.settles reading then
        match ← feed.block with
        | .ok (c :: t) =>
            runLines run m shows fuel feed (source.extended (withoutNulls (c :: t))) status
        | _ => runLines run m shows fuel .nowhere source status
      else
        match reading with
        | .refused refusal => do
            showLines (((linesOf source.rest).take (refusal.line + 1 - source.line)).flatMap
              fun line => line ++ ['\n'])
            modify fun s => { s with line := refusal.line }
            Run.fail refusal.reason
        | .finished rest => do
            showLines (linesBefore source rest.left)
            return status
        | .commands body rest isLast => do
            showLines (linesBefore source rest.left)
            keepDocuments rest
            let rest := { rest with documents := [] }
            if body.isEmpty || s.isOn 'n' then runLines run m shows fuel feed rest status
            else do
              let status ← run ⟨m.isTested, m.isLast && isLast⟩ body
              runLines run m shows fuel feed rest status

/-- Runs a text as a script whose first line has some number. -/
def runText (run : CommandsRunner) (m : Manner) (line : Nat) (t : Octets) : Run Nat := do
  let s ← get
  runLines run m false (t.length + 2) .nowhere (Source.ofOctets line s.aliases s.nextDocument t) 0

/-- Runs a script of which a first part has been read. -/
def runScript (run : CommandsRunner) (feed : Feed) (t : Octets) : Run Nat := do
  let s ← get
  runLines run .plain true feedLimit feed
    (Source.ofOctets 1 s.aliases s.nextDocument (withoutNulls t)) 0

/-- Opens a file and does something with the script in it.  The file is read
    from when it has been opened; one that cannot be read is at its end. -/
def withScriptFile (path : String) (use : Feed → Octets → Run Nat) : Run Nat := do
  match ← Run.openFile path .read with
  | .error e => openFailure false path e
  | .ok number => do
      modify fun s => { s with toWorld := s.toWorld.retain number }
      let release : Run Unit := modify fun s => { s with toWorld := s.toWorld.release number }
      let (feed, t) ←
        match ← Run.readFrom number feedSize with
        | .ok (c :: t) => pure (Feed.opening number, c :: t)
        | _ => pure (Feed.nowhere, [])
      let status ← tryCatch (use feed t) fun stop => do
        release
        throw stop
      release
      return status

/-- Runs the actions for the signals that have come, in the order of their
    numbers. -/
def answerSignals (run : CommandsRunner) : Run Unit := do
  let s ← get
  if s.pending.isEmpty then return ()
  else do
    set { s with pending := [] }
    let status := s.statusBefore.getD s.status
    for signal in List.range signalLimit do
      if s.pending.contains signal then
        match s.traps.lookup signal with
        | some action => do
            modify fun s => { s with statusBefore := some status }
            let _ ← runText run .plain 1 action.toList
            modify fun after => { after with status := status, statusBefore := s.statusBefore }
        | none => pure ()

/-- Runs a piece to its end, however that comes about, and then the action
    for the end. -/
def toTheEnd (run : CommandsRunner) (piece : Run Nat) : Run Nat := do
  let ended := fun (stop : Stop) =>
    match stop with
    | .exited status => return status
    | .failed status => return status
    | .returned status => return status
    | .leaveLoops _ => return 0
    | .nextRound _ => return 0
    | stop => throw stop
  let status ← tryCatch piece ended
  let s ← get
  match s.traps.lookup 0 with
  | none => return status
  | some action => do
      set { s with
        traps := s.traps.filter fun (n, _) => n != 0
        status := status, statusBefore := some status, running := none, loops := 0 }
      tryCatch
        (do
          let _ ← runText run .plain 1 action.toList
          return status)
        fun
          | .returned _ => return status
          | stop => ended stop

/-- What is shown before a command that is traced: the value of a variable
    in which expansions are replaced. -/
def traceLead : Run Octets := do
  let s ← get
  match s.valueOf "PS4" with
  | none => return []
  | some t =>
      if !t.toList.any fun c => c == '$' || c == '\x60' || c == '\\' then return t.toList
      else
        match (Source.ofOctets s.line [] s.nextDocument t.toList).wholeText with
        | .error _ => return t.toList
        | .ok word => expandDocument outputOf expansionLimit word

/-- Shows a command before it is run. -/
def traceCommand (target : Option Nat) (assignments words : List String) : Run Unit := do
  let s ← get
  if s.isOn 'x' && !s.isTracing then
    set { s with isTracing := true }
    let lead ← traceLead
    modify fun s => { s with isTracing := false }
    match target with
    | some number => do
        let line := lead ++ joinWith [' '] ((assignments ++ words).map String.toList) ++ ['\n']
        let _ ← Run.writeTo number line
        return ()
    | none => return ()

/-! ## Commands before they are run -/

/-- A command whose first words have been expanded. -/
structure Resolution where
  /-- The words that have been expanded, first the ones that only lead to
      the command. -/
  leading : List String
  words : List String
  rest : List Word
  /-- The builtin it is, if it is one. -/
  builtin : Option BuiltinKind
  /-- Whether its misuse ends the script. -/
  isSpecial : Bool
  /-- Whether it has a scope for variables. -/
  opensScope : Bool
  skipsFunctions : Bool
  usesStandardPath : Bool

/-- Expands words until there is a field. -/
def expandFirst (expand : Word → Run (List String)) : List Word →
    Run (List String × List Word)
  | [] => return ([], [])
  | word :: rest => do
      match ← expand word with
      | [] => expandFirst expand rest
      | fields => return (fields, rest)

/-- The words after the options of the builtin that runs a command, if
    there are any, and whether the standard search path is used; none if it
    is to say something of a name. -/
def commandOptions (expand : Word → Run (List String)) :
    Nat → Bool → List String → List String → List Word →
    Run (Option (Bool × List String × List String × List Word))
  | 0, _, _, _, _ => return none
  | fuel + 1, usesStandard, leading, words, rest => do
      let (words, rest) ← if words.isEmpty then expandFirst expand rest else pure (words, rest)
      match words with
      | [] => return none
      | word :: more =>
          match word.toList with
          | ['-'] => return some (usesStandard, leading, words, rest)
          | ['-', '-'] => do
              let (more, rest) ← if more.isEmpty then expandFirst expand rest else pure (more, rest)
              if more.isEmpty then return none
              else return some (usesStandard, leading ++ [word], more, rest)
          | '-' :: letters =>
              if letters.all (· == 'p') then
                commandOptions expand fuel true (leading ++ [word]) more rest
              else return none
          | _ => return some (usesStandard, leading, words, rest)

/-- Finds out what a command is, which may have to be run by another. -/
def resolve (expand : Word → Run (List String)) : Nat → Resolution → Run Resolution
  | 0, r => return r
  | fuel + 1, r => do
      match r.words with
      | [] => return r
      | name :: arguments => do
          let isFunction := !r.skipsFunctions && ((← get).functions.find? name).isSome
          match if isFunction then none else builtinKind? name with
          | none => return { r with builtin := none, opensScope := true }
          | some kind => do
              let isFirst := r.leading.isEmpty
              let r := { r with
                builtin := some kind
                isSpecial := if isFirst then kind.isSpecial else r.isSpecial
                opensScope := if isFirst then !kind.isSpecial else true }
              if name != "command" then return r
              else
                match ← commandOptions expand 100 r.usesStandardPath (r.leading ++ [name])
                    arguments r.rest with
                | none => return r
                | some (usesStandard, leading, words, rest) =>
                    resolve expand fuel { r with
                      leading := leading, words := words, rest := rest
                      skipsFunctions := true, usesStandardPath := usesStandard }

/-- Expands the words of a command that are left.  Arguments that are
    assignments are not divided if the builtin takes them so. -/
def expandRest (assigns : Bool) : List Word → Run (List String)
  | [] => return []
  | word :: rest => do
      let fields ←
        match if assigns then assignment? word else none with
        | some (name, value) => do
            let t ← expandValue outputOf expansionLimit value
            pure [name ++ "=" ++ t]
        | none => expandWord outputOf expansionLimit word
      let more ← expandRest assigns rest
      return fields ++ more

/-- Takes the options of a shell that is started, and returns whether its
    commands are given as an argument, and the other arguments. -/
def takeShellOptions : Nat → List String → Run (Bool × List String)
  | 0, arguments => return (false, arguments)
  | _, [] => return (false, [])
  | fuel + 1, argument :: rest => do
      let turn := fun (isOn : Bool) (letters : Octets) => do
        let rest ← Builtin.turnLetters isOn (letters.filter fun c => c != 'c' && c != 'l') rest
        let (other, operands) ← takeShellOptions fuel rest
        return (letters.contains 'c' || other, operands)
      match argument.toList with
      | ['-'] => return (false, rest)
      | ['-', '-'] => return (false, rest)
      | '-' :: letters => turn true letters
      | '+' :: letters => turn false letters
      | _ => return (false, argument :: rest)

mutual

/-- Runs a command. -/
def execute : Nat → Manner → Command → Run Nat
  | 0, _, _ => throw (.killed 11)
  | fuel + 1, m, command => do
      let runAll : CommandsRunner := fun m body => runInTurn (execute fuel) m body
      answerSignals runAll
      if (← get).isOn 'n' then
        Run.tick
        return (← get).status
      match command with
      | .simple line assignments words redirects => do
          modify fun s => { s with line := line }
          Run.tick
          let status ← executeSimple fuel m assignments words redirects
          modify fun s => { s with status := status }
          answerSignals runAll
          concluded m status
      | .pipeline stages => do
          let processes ← startPipes m.isTested false stages
          let status ← waitForAll processes
          modify fun s => { s with status := status }
          answerSignals runAll
          concluded m status
      | .negation command => do
          let status ← execute fuel .condition command
          noted (if status = 0 then 1 else 0)
      | .both first second => do
          let status ← execute fuel .condition first
          if status = 0 then execute fuel m second else return status
      | .either first second => do
          let status ← execute fuel .condition first
          if status = 0 then return status else execute fuel m second
      | .background (.pipeline stages) => do
          let processes ← startPipes false true stages
          let status ← keepJob processes
          noted status
      | .background command => do
          let process ← startBackground (.commands false true [command] [])
          let status ← keepJob [process]
          noted status
      | .sequence body => runAll m body
      | .subshell line body redirects => do
          modify fun s => { s with line := line }
          if m.isLast && !(← hasActions) then
            runCopy fuel m.isTested body redirects
          else do
            let process ← Run.fork (.commands m.isTested false body redirects)
            let status ← waitForAll [process]
            modify fun s => { s with status := status }
            answerSignals runAll
            concluded m status
      | .choice condition consequence alternative => do
          let status ← runAll .condition condition
          if status = 0 then runAll m consequence
          else if alternative.isEmpty then noted 0
          else runAll m alternative
      | .repeated untilTrue condition body => do
          let status ← asLoop <| repeatRounds
            (fun status => loopRound do
              let check ← runAll .condition condition
              if (check == 0) != untilTrue then return (← runAll m.inner body, true)
              else return (status, false))
            Run.tickLimit 0
          noted status
      | .forEach line name words body => do
          modify fun s => { s with line := line }
          let values ←
            match words with
            | some words => expandWords outputOf expansionLimit words
            | none => do pure (← get).parameters
          let status ← asLoop <| forValues
            (fun value => do
              Run.assign name value
              loopRound do return (← runAll m.inner body, true))
            values 0
          noted status
      | .select line subject branches => do
          modify fun s => { s with line := line }
          let t ← expandString outputOf expansionLimit subject
          selectBranch fuel m t.toList branches
      | .redirected line command redirects => do
          modify fun s => { s with line := line }
          let ready ← redirects.mapM redirectReady
          let status ← Run.keepingDescriptors do
            if ← applyRedirects ready then execute fuel m.inner command else return 2
          noted status
      | .define line name body => do
          modify fun s => { s with line := line, functions := s.functions.set name body }
          noted 0

/-- Runs the first branch with a pattern that matches. -/
def selectBranch : Nat → Manner → Octets → List (List Word × List Command) → Run Nat
  | 0, _, _, _ => throw (.killed 11)
  | _, _, _, [] => noted 0
  | fuel + 1, m, t, (patterns, body) :: rest => do
      let found ← patterns.anyM fun word => do
        let gs ← expandWhole outputOf expansionLimit word
        return isMatch (patternOf gs) t
      if !found then selectBranch fuel m t rest
      else if body.isEmpty then noted 0
      else runInTurn (execute fuel) m body

/-- Runs a simple command. -/
def executeSimple : Nat → Manner → List (String × Word) → List Word → List Redirect → Run Nat
  | 0, _, _, _, _ => throw (.killed 11)
  | fuel + 1, m, assignments, words, redirects => do
      modify fun s => { s with outputStatus := 0 }
      let (first, rest) ← expandFirst (expandWord outputOf expansionLimit) words
      let r ← resolve (expandWord outputOf expansionLimit) 100
        ⟨[], first, rest, none, false, false, false, false⟩
      let assigns := (r.builtin.map (·.assigns)).getD false
      let more ← expandRest assigns r.rest
      let all := r.words ++ more
      let traceTarget ← Run.openingNumber 2
      match all with
      | [] => do
          let ready ← redirects.mapM redirectReady
          Run.keepingDescriptors do
            if !(← applyRedirects ready) then return 2
            else do
              let set ← assignAll false false assignments
              traceCommand traceTarget set []
              return (← get).outputStatus
      | name :: arguments => do
          let isExec := r.builtin.isSome && name == "exec"
          let opens := r.opensScope && (r.builtin.isNone || !assignments.isEmpty)
          let body : Run Nat := inScope opens do
            let ready ← redirects.mapM redirectReady
            let piece : Run Nat := do
              if !(← applyRedirects ready) then
                if r.isSpecial then throw (.failed 2) else return 2
              else do
                let set ← assignAll r.opensScope (isExec && !arguments.isEmpty) assignments
                traceCommand traceTarget set (r.leading ++ all)
                runResolved fuel m r name arguments
            if isExec then piece
            else if redirects.isEmpty then piece
            else Run.keepingDescriptors piece
          body

/-- Runs a command that was found out to be something. -/
def runResolved : Nat → Manner → Resolution → String → List String → Run Nat
  | 0, _, _, _, _ => throw (.killed 11)
  | fuel + 1, m, r, name, arguments => do
      let runAll : CommandsRunner := fun m body => runInTurn (execute fuel) m body
      match r.builtin with
      | some _ =>
          match plainBuiltins.lookup name with
          | some builtin => runBuiltin r.isSpecial name (builtin arguments)
          | none =>
              if name == "eval" then
                runBuiltin r.isSpecial name
                  (if arguments.isEmpty then return 0
                  else runText runAll m.inner 1 (String.intercalate " " arguments).toList)
              else if name == "exec" then runBuiltin r.isSpecial name (runExec arguments)
              else runBuiltin r.isSpecial name (includeFile fuel arguments)
      | none => do
          let s ← get
          match if r.skipsFunctions then none else s.functions.find? name with
          | some body => asFunction arguments (execute fuel m.inner body)
          | none => do
              let path ← if r.usesStandardPath then pure standardPath else Run.searchPath
              let failure ←
                if isPath name then pure none
                else if r.usesStandardPath then
                  pure (match s.toWorld.firstFile s.here .noEntry (candidates path name) with
                    | .ok _ => none
                    | .error e => some e)
                else
                  match ← Run.locate name with
                  | .ok _ => pure none
                  | .error e => pure (some e)
              match failure with
              | some e => do
                  Run.complain (name ++ ": " ++ searchFailure e)
                  return 127
              | none =>
                  match ← imageForCommand path name arguments with
                  | .error e => startFailure name e
                  | .ok image =>
                      if m.isLast && !(← hasActions) then throw (.replaced image)
                      else do
                        let process ← Run.fork (.image image)
                        waitForAll [process]
where
  /-- Goes on as another program. -/
  runExec (arguments : List String) : Run Nat := do
    let a ← divideArguments "" arguments
    match a.operands with
    | [] => return 0
    | name :: rest => do
        match ← imageForCommand (← Run.searchPath) name rest with
        | .ok image => throw (.replaced image)
        | .error e => throw (.exited (← startFailure name e))

/-- Runs the commands of a file in the shell itself.  A name that is no
    path is searched for. -/
def includeFile : Nat → List String → Run Nat
  | 0, _ => throw (.killed 11)
  | fuel + 1, arguments => do
      let a ← divideArguments "" arguments
      match a.operands with
      | [] => return 0
      | file :: _ => do
          let s ← get
          let path ←
            if isPath file then pure file
            else
              match s.toWorld.firstFile s.here .noEntry (candidates (← Run.searchPath) file) with
              | .ok path => pure path
              | .error _ => Run.fail (file ++ ": not found")
          withScriptFile path fun feed t => do
            let runAll : CommandsRunner := fun m body => runInTurn (execute fuel) m body
            asCommand path <| tryCatch (runScript runAll feed t) fun
              | .returned status => return status
              | stop => throw stop

/-- Runs commands as a copy of the shell that has nothing else to do. -/
def runCopy : Nat → Bool → List Command → List Redirect → Run Nat
  | 0, _, _, _ => throw (.killed 11)
  | fuel + 1, isTested, body, redirects => do
      let ready ← redirects.mapM redirectReady
      for r in ready do
        applyRedirect r
      runInTurn (execute fuel) ⟨isTested, true⟩ body

end

end HermesBundle.Shell
