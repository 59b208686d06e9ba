import HermesBundle.Shell.Image
import HermesBundle.Shell.Signals
import HermesBundle.Shell.Tools.Quantity
import HermesBundle.Shell.Tools.Times

/-! # Starting — programs that start other programs

    They change what a program gets — its variables, its directory, the
    signals that it ignores, the time that it has — and then become that
    program, or watch over it.  Status 125 is their own failure, 126 and
    127 say that the program could not be started. -/

namespace HermesBundle.Shell.Tool

/-- The status of a failure before a program is started. -/
def notStarted : Nat := 125

/-- The status of a program that cannot be started. -/
def startStatus (e : Errno) : Nat := if e = .noEntry then 127 else 126

/-- The variables that a program was given, in their order. -/
def givenVariables : Run (Table String) := do
  return (← get).bindings.filterMap fun (name, v) => v.value.map fun t => (name, t)

/-- The image of a program with some variables, which say where it is looked
    for. -/
def imageWith (environment : Table String) (name : String) (arguments : List String) :
    Run (Except Errno Image) := do
  let s ← get
  let image := s.toWorld.findImage s.here (environment.find? "PATH") name arguments
  return image.bind fun image => { image with environment := environment }.fitting s.stack

/-- Becomes a program.  One that cannot be started is named in some way. -/
def become (shown : String) (environment : Table String) (name : String)
    (arguments : List String) : Run Nat := do
  match ← imageWith environment name arguments with
  | .ok image => throw (.replaced image)
  | .error e => do
      Run.objection (shown ++ ": " ++ e.text)
      return startStatus e

/-- The signal that an operand names. -/
def namedSignal (t : String) : Option Nat :=
  match signalOf 0 t with
  | some n => some n
  | none =>
      match t.toList.map raised with
      | 'S' :: 'I' :: 'G' :: rest => signalOf 0 (String.ofList rest)
      | _ => none

/-- The signal that an operand names; anything else ends the program. -/
def signalArgument (t : String) : Run Nat := do
  match namedSignal t with
  | some n => return n
  | none => Run.misuse notStarted ((← Run.inQuotes t) ++ ": invalid signal")

/-! ## Variables -/

/-- How far a text has been divided into arguments. -/
structure Division where
  /-- The finished arguments, the latest first. -/
  finished : List String
  /-- The argument in the making, in reverse, if one has begun. -/
  current : Option Octets
  inSingle : Bool
  inDouble : Bool

namespace Division

/-- An argument has begun. -/
def begin (d : Division) : Division := { d with current := some (d.current.getD []) }

/-- Adds octets to the argument in the making. -/
def add (d : Division) (t : Octets) : Division :=
  { d with current := some (t.reverse ++ d.current.getD []) }

/-- The argument in the making is finished. -/
def finish (d : Division) : Division :=
  match d.current with
  | none => d
  | some t => { d with finished := String.ofList t.reverse :: d.finished, current := none }

/-- All arguments. -/
def arguments (d : Division) : List String := d.finish.finished.reverse

end Division

/-- What the letter of an escape stands for. -/
def escapedLetter (c : Char) : Option Char :=
  match c with
  | 'f' => some '\x0c'
  | 'n' => some '\n'
  | 'r' => some '\r'
  | 't' => some '\t'
  | 'v' => some '\x0b'
  | c => if "\x22#$\x27\\".toList.contains c then some c else none

/-- The name in a reference to a variable, and what follows it. -/
def referredName (t : Octets) : Option (Octets × Octets) :=
  match t with
  | '\x7b' :: rest =>
      let name := leadingName rest
      match name, rest.drop name.length with
      | _ :: _, '\x7d' :: after => some (name, after)
      | _, _ => none
  | _ => none

/-- Divides a text into arguments as a shell would, with the values of
    variables.  `fuel` bounds the octets that are read. -/
def divideText (valueOf : String → Option String) :
    Nat → Octets → Division → Except String (List String)
  | 0, _, d => .ok d.arguments
  | _, [], d =>
      if d.inSingle || d.inDouble then .error "no terminating quote in -S string"
      else .ok d.arguments
  | fuel + 1, c :: rest, d =>
      let plain := fun (_ : Unit) => divideText valueOf fuel rest (d.add [c])
      match c with
      | '\x27' =>
          if d.inDouble then plain ()
          else divideText valueOf fuel rest { d.begin with inSingle := !d.inSingle }
      | '\x22' =>
          if d.inSingle then plain ()
          else divideText valueOf fuel rest { d.begin with inDouble := !d.inDouble }
      | '#' => if d.current.isNone then .ok d.arguments else plain ()
      | '\\' =>
          match rest with
          | [] =>
              if d.inSingle then plain () else .error "invalid backslash at end of string in -S"
          | e :: more =>
              if d.inSingle && e != '\\' && e != '\x27' then plain ()
              else
                match e, escapedLetter e with
                | '_', _ =>
                    if d.inDouble then divideText valueOf fuel more (d.add [' '])
                    else divideText valueOf fuel more d.finish
                | 'c', _ =>
                    if d.inDouble then .error "\x27\\c\x27 must not appear in double-quoted -S string"
                    else .ok d.arguments
                | _, some meant => divideText valueOf fuel more (d.add [meant])
                | _, none => .error ("invalid sequence \x27\\" ++ String.singleton e ++ "\x27 in -S")
      | '$' =>
          if d.inSingle then plain ()
          else
            match referredName rest with
            | none =>
                .error ("only $\x7bVARNAME\x7d expansion is supported, error at: "
                  ++ String.ofList (c :: rest))
            | some (name, after) =>
                match valueOf (String.ofList name) with
                | some value => divideText valueOf fuel after (d.add value.toList)
                | none => divideText valueOf fuel after d
      | c =>
          if isSpace c && !d.inSingle && !d.inDouble then divideText valueOf fuel rest d.finish
          else plain ()

/-- The options of the program that changes variables. -/
def environmentOptions : List OptionSpec :=
  [flag 'i' "ignore-environment", flag '0' "null", valued 'u' "unset", valued 'C' "chdir",
   ⟨none, "default-signal", .optional⟩, ⟨none, "ignore-signal", .optional⟩,
   ⟨none, "block-signal", .optional⟩, long "list-signal-handling" .none, flag 'v' "debug",
   valued 'S' "split-string"]

/-- The first of some letters that is no option. -/
def unknownLetter : Octets → Option Char
  | [] => none
  | c :: rest =>
      match environmentOptions.find? fun o => o.letter == some c with
      | none => some c
      | some o => if o.kind = .none then unknownLetter rest else none

/-- Takes the options of the program that changes variables up to its first
    operand.  A text that is to be divided takes its own place among the
    arguments. -/
def takeVariableOptions : Nat → List String → List (String × Option String) → Run Given
  | 0, rest, found => return ⟨found.reverse, rest⟩
  | _, [], found => return ⟨found.reverse, []⟩
  | fuel + 1, argument :: rest, found => do
      let go := fun (found : List (String × Option String)) (rest : List String) => do
        match found with
        | ("S", some text) :: found => do
            let valueOf := (← get).valueOf
            match divideText valueOf (text.length + 1) text.toList ⟨[], none, false, false⟩ with
            | .ok arguments => do
                if found.any fun (key, _) => key == "v" then
                  Run.remark ("split -S:  " ++ (← Run.inQuotes text))
                  for (t, n) in arguments.zipIdx do
                    Run.remark ((if n = 0 then " into:    " else "     &    ") ++ (← Run.inQuotes t))
                takeVariableOptions fuel (arguments ++ rest) found
            | .error e => Run.quit notStarted e
        | found => takeVariableOptions fuel rest found
      match argument.toList with
      | ['-', '-'] => return ⟨found.reverse, rest⟩
      | '-' :: '-' :: t => do
          let (o, rest) ← takeLong environmentOptions .plain notStarted (String.ofList t) rest
          go (o :: found) rest
      | '-' :: c :: t => do
          match unknownLetter (c :: t) with
          | some l =>
              if isSpace l then
                Run.objection ("invalid option -- \x27" ++ String.singleton l ++ "\x27")
                Run.misuse notStarted "use -[v]S to pass options in shebang lines"
          | none => pure ()
          let (found, rest) ← takeShort environmentOptions .plain notStarted (c :: t) rest found
          go found rest
      | _ => return ⟨found.reverse, argument :: rest⟩

/-- The name and the value in an assignment. -/
def assignmentOf (t : String) : Option (String × String) :=
  let cs := t.toList
  let name := cs.takeWhile (· != '=')
  if name.length < cs.length then
    some (String.ofList name, String.ofList (cs.drop (name.length + 1)))
  else none

/-- The signals that a list names; all of them if there is none. -/
def listedSignals (value : Option String) : Run (List Nat) := do
  match value with
  | none => return (List.range signalLimit).drop 1
  | some t => (splitOn ',' t.toList).mapM fun name => signalArgument (String.ofList name)

/-- Changes what is done when signals come. -/
def changeSignals (g : Given) : Run Unit := do
  for (key, value) in g.options do
    if key == "ignore-signal" || key == "default-signal" then do
      let signals ← listedSignals value
      modify fun s =>
        let others := s.deaf.filter fun n => !signals.contains n
        { s with deaf := if key == "ignore-signal" then signals ++ others else others }
    else if key == "block-signal" then do
      let _ ← listedSignals value

/-- Starts a program with other variables, or shows the variables. -/
def env : Tool := fun arguments => do
  let g ← takeVariableOptions (arguments.length * 8 + 1000) arguments []
  let debug := fun (t : String) => do if g.has "v" then Run.remark t
  let isBare := g.operands.head? == some "-"
  let operands := if isBare then g.operands.drop 1 else g.operands
  let mut environment ← givenVariables
  if isBare || g.has "i" then
    debug "cleaning environ"
    environment := []
  else
    for name in g.values "u" do
      debug ("unset:    " ++ name)
      if name.isEmpty || name.toList.contains '=' then
        Run.quit notStarted ("cannot unset " ++ (← Run.inQuotes name) ++ ": Invalid argument")
      environment := environment.erase name
  let assignments := operands.takeWhile fun t => t.toList.contains '='
  for t in assignments do
    debug ("setenv:   " ++ t)
    match assignmentOf t with
    | some (name, value) => environment := environment.set name value
    | none => pure ()
  match operands.drop assignments.length with
  | [] => do
      if g.has "C" then Run.misuse notStarted "must specify command with --chdir (-C)"
      let ending := if g.has "0" then '\x00' else '\n'
      for (name, value) in environment do
        Run.print (name.toList ++ '=' :: value.toList ++ [ending])
      return 0
  | name :: arguments => do
      if g.has "0" then Run.misuse notStarted "cannot specify --null (-0) with command"
      changeSignals g
      match g.value? "C" with
      | none => pure ()
      | some path => do
          debug ("chdir:    " ++ (← Run.quoted path))
          let s ← get
          match s.toWorld.spot s.here true path with
          | .ok (.found l .directory) => modify fun s => { s with here := l }
          | r => do
              let e := match r with
                | .error e => e
                | .ok (.free _) => Errno.noEntry
                | .ok (.found _ _) => Errno.notDirectory
              Run.quit notStarted
                ("cannot change directory to " ++ (← Run.quoted path) ++ ": " ++ e.text)
      debug ("executing: " ++ name)
      for (t, n) in (name :: arguments).zipIdx do
        debug ("   arg[" ++ toString n ++ "]= " ++ (← Run.inQuotes t))
      let status ← become (← Run.inQuotes name) environment name arguments
      if status = 127 && name.toList.any isSpace then
        Run.objection "use -[v]S to pass options in shebang lines"
      return status

/-- Shows variables. -/
def printenv : Tool := fun arguments => do
  let g ← givenBefore [flag '0' "null"] 2 arguments
  let ending := if g.has "0" then '\x00' else '\n'
  let environment ← givenVariables
  if g.operands.isEmpty then
    for (name, value) in environment do
      Run.print (name.toList ++ '=' :: value.toList ++ [ending])
    return 0
  let mut status := 0
  for name in g.operands do
    match if name.toList.contains '=' then none else environment.find? name with
    | some value => Run.print (value.toList ++ [ending])
    | none => status := 1
  return status

/-! ## Niceness and hangups -/

/-- The adjustment that is given at the start of arguments, and what follows
    it. -/
def takeAdjustment : Nat → List String → Option String → Run (Option String × List String)
  | 0, rest, found => return (found, rest)
  | _, [], found => return (found, [])
  | fuel + 1, argument :: rest, found => do
      let old := match argument.toList with
        | '-' :: '-' :: c :: _ => isDigit c
        | '-' :: '+' :: c :: _ => isDigit c
        | '-' :: c :: _ => isDigit c
        | _ => false
      let specs := [valued 'n' "adjustment"]
      match argument.toList, old with
      | _ :: t, true => takeAdjustment fuel rest (some (String.ofList t))
      | ['-', '-'], _ => return (found, rest)
      | '-' :: '-' :: t, _ => do
          let (o, rest) ← takeLong specs .plain notStarted (String.ofList t) rest
          takeAdjustment fuel rest o.2
      | '-' :: c :: t, _ => do
          let (os, rest) ← takeShort specs .plain notStarted (c :: t) rest []
          takeAdjustment fuel rest ((os.head?.bind (·.2)).or found)
      | _, _ => return (found, argument :: rest)

/-- Starts a program that gives way to others, or shows how much it does. -/
def nice : Tool := fun arguments => do
  let (given, command) ← takeAdjustment (arguments.length + 1) arguments none
  let adjustment ← match given with
    | none => pure (10 : Int)
    | some t =>
        match integer? (t.toList.dropWhile isSpace) with
        | some n => pure n
        | none => do Run.quit notStarted ("invalid adjustment " ++ (← Run.inQuotes t))
  match command with
  | [] => do
      if given.isSome then Run.misuse notStarted "a command must be given with an adjustment"
      Run.printLine (signedDecimal (← get).niceness)
      return 0
  | name :: arguments => do
      modify fun s => { s with niceness := max (-20) (min 19 (s.niceness + adjustment)) }
      become (← Run.inQuotes name) (← givenVariables) name arguments

/-- Starts a program that goes on after a hangup. -/
def nohup : Tool := fun arguments => do
  let g ← givenBefore [] notStarted arguments
  match g.operands with
  | [] => Run.missing notStarted "operand"
  | name :: arguments => do
      modify fun s => { s with deaf := 1 :: s.deaf }
      become ("failed to run command " ++ (← Run.quoted name)) (← givenVariables) name arguments

/-! ## Time limits -/

/-- The processes that stem from a process, itself not counted. -/
def descendants (w : World) (process : Nat) : List Nat :=
  w.accounts.foldl
    (fun found (n, a) => if a.parent = process || found.contains a.parent then found ++ [n] else found)
    []

/-- What a limit on the time of a program does. -/
structure TimeLimit where
  signal : Nat
  /-- After how long a program that goes on is killed. -/
  killAfter : Option Nat
  isForeground : Bool
  isVerbose : Bool
  /-- Whether the status of the program is kept. -/
  keepsStatus : Bool
  /-- The name of the program. -/
  command : String

/-- Sends a signal to a program whose time is up, and to all that stem from
    it. -/
def stopProgram (limit : TimeLimit) (process signal : Nat) : Run Unit := do
  if limit.isVerbose then
    Run.objection ("sending signal " ++ signalName signal ++ " to command "
      ++ (← Run.inQuotes limit.command))
  let s ← get
  let targets :=
    if limit.isForeground then [process] else descendants s.toWorld s.process
  for target in targets do
    let _ ← Run.sendSignal target signal
  if !limit.isForeground then
    if signal = 9 then throw (.killed 9)
    if signal != 18 then
      for target in targets do
        let _ ← Run.sendSignal target 18

/-- Waits for a program, which is stopped when its time is up. -/
def watch (limit : TimeLimit) (process : Nat) (time : Option Nat) : Run (Bool × Ending) := do
  let after := fun (time : Option Nat) => do
    match time with
    | none => Run.await [.ended process]
    | some t => Run.await [.ended process, .time ((← get).clock + t)]
    Run.endingOf process
  match ← after time with
  | some ending => return (false, ending)
  | none => do
      stopProgram limit process limit.signal
      match ← after limit.killAfter with
      | some ending => return (true, ending)
      | none => do
          stopProgram limit process 9
          return (true, ← Run.join process)

/-- The time of an operand; none if it has no end. -/
def timeArgument (t : String) : Run (Option Nat) := do
  match ← intervalArgument notStarted t with
  | some 0 => return none
  | interval => return interval

/-- Starts a program that has some time to end. -/
def timeout : Tool := fun arguments => do
  let g ← givenBefore
    [valued 'k' "kill-after", valued 's' "signal", flag 'v' "verbose", long "foreground" .none,
     long "preserve-status" .none] notStarted arguments
  let mut killAfter := none
  let mut signal := 15
  for (key, value) in g.options do
    if key == "k" then killAfter ← timeArgument (value.getD "")
    else if key == "s" then signal ← signalArgument (value.getD "")
  match g.operands with
  | time :: name :: arguments => do
      let time ← timeArgument time
      match ← imageWith (← givenVariables) name arguments with
      | .error e => do
          Run.objection ("failed to run command " ++ (← Run.inQuotes name) ++ ": " ++ e.text)
          return startStatus e
      | .ok image => do
          let limit : TimeLimit :=
            ⟨signal, killAfter, g.has "foreground", g.has "v", g.has "preserve-status", name⟩
          let process ← Run.fork (.image image)
          let (isLate, ending) ← watch limit process time
          match ending with
          | .killed n =>
              if !isLate then throw (.killed n)
              return if n = 9 || limit.keepsStatus then 128 + n else 124
          | .exited status => return if isLate && !limit.keepsStatus then 124 else status
  | _ => do
      Run.hint
      return notStarted

end HermesBundle.Shell.Tool
