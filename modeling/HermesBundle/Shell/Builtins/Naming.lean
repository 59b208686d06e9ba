import HermesBundle.Shell.Builtins.Arguments

/-! # Naming — variables, parameters, options and aliases

    These builtins change what names of a shell stand for.  Without
    operands most of them show what is set, in a form that can be read
    back. -/

namespace HermesBundle.Shell.Builtin

/-- Strings in the order of their octets. -/
def inOrder (names : List String) : List String :=
  names.mergeSort fun a b => !(precedes b.toList a.toList)

/-- Shows variables of some kind, each after a word. -/
def showVariables (lead : String) (isShown : Variable → Bool) : Run Unit := do
  let s ← get
  let chosen := s.bindings.filter fun (_, v) => isShown v
  let lines := (inOrder (chosen.map (·.1))).map fun name =>
    let value := (s.bindings.find? name).bind (·.value)
    lead ++ name ++ ((value.map fun t => "=" ++ inReadableQuotes t).getD "") ++ "\n"
  Run.printString (String.join lines)

/-- Sets or marks variables, or shows those that are marked. -/
def markVariables (command : String) (mark : Variable → Variable) (isMarked : Variable → Bool) :
    Builtin := fun arguments => do
  let a ← divideArguments "p" arguments
  if a.has 'p' || a.operands.isEmpty then showVariables (command ++ " ") isMarked
  else
    for argument in a.operands do
      let (name, value) := settingOf argument
      checkName name
      match value with
      | some t => Run.assign name t
      | none => pure ()
      Run.changeVariable name mark
  return 0

/-- Marks variables that programs are given. -/
def exportVariables : Builtin :=
  markVariables "export" (fun v => { v with isExported := true }) (·.isExported)

/-- Sets variables for good. -/
def freezeVariables : Builtin :=
  markVariables "readonly" (fun v => { v with isConstant := true }) (·.isConstant)

/-- Makes variables that a function has for itself. -/
def localVariables : Builtin := fun arguments => do
  if (← get).scopes.isEmpty then Run.fail "not in a function"
  else
    let a ← divideArguments "" arguments
    for argument in a.operands do
      if argument != "-" then
        let (name, value) := settingOf argument
        checkName name
        Run.makeLocal name
        match value with
        | some t => Run.assign name t
        | none => pure ()
    return 0

/-- Removes variables or functions. -/
def unsetNames : Builtin := fun arguments => do
  let a ← divideArguments "vf" arguments
  let takesFunctions := (a.options.getLast?.map (·.1)) == some 'f'
  for name in a.operands do
    if takesFunctions then
      modify fun s => { s with functions := s.functions.erase name }
    else do
      checkName name
      Run.unassign name
  return 0

/-- Turns an option on or off that is given by its letter. -/
def turnLetter (isOn : Bool) (letter : Char) : Run Unit := do
  if optionNames.any fun (l, _) => l == letter then
    modify fun s => { s with
      options :=
        let others := s.options.filter (· != letter)
        if isOn then letter :: others else others }
  else Run.fail ("Illegal option -" ++ String.singleton letter)

/-- Options that have a name only. -/
def namelessOptions : List String := ["nolog", "debug"]

/-- Turns an option on or off that is given by its name. -/
def turnNamed (isOn : Bool) (name : String) : Run Unit := do
  match optionNames.find? fun (_, n) => n == name with
  | some (letter, _) => turnLetter isOn letter
  | none =>
      if namelessOptions.contains name then return ()
      else Run.fail ("Illegal option -o " ++ name)

/-- Shows the options, for a reader or in a form that can be read back. -/
def showOptions (forReader : Bool) : Run Unit := do
  let s ← get
  let all := (optionNames.map fun (letter, name) => (name, s.isOn letter))
    ++ namelessOptions.map fun name => (name, false)
  if forReader then Run.printString "Current option settings\n"
  for (name, isOn) in all do
    if forReader then
      Run.printLine (padRight ' ' 16 name.toList ++ (if isOn then "on" else "off").toList)
    else Run.printString ("set " ++ (if isOn then "-o " else "+o ") ++ name ++ "\n")

/-- Turns the options of one argument on or off.  The letter `o` takes its
    name from the arguments that follow, which are returned. -/
def turnLetters (isOn : Bool) : Octets → List String → Run (List String)
  | [], following => return following
  | 'o' :: letters, following => do
      match following with
      | [] => do
          showOptions isOn
          turnLetters isOn letters []
      | name :: rest => do
          turnNamed isOn name
          turnLetters isOn letters rest
  | letter :: letters, following => do
      turnLetter isOn letter
      turnLetters isOn letters following

/-- Takes the options at the start of arguments, and returns the new
    parameters after them, if there are any or a mark says so. -/
def takeSettings : Nat → List String → Run (Option (List String))
  | 0, _ => return none
  | _, [] => return none
  | fuel + 1, argument :: rest => do
      match argument.toList with
      | ['-'] => do
          modify fun s => { s with options := s.options.filter fun c => c != 'x' && c != 'v' }
          return if rest.isEmpty then none else some rest
      | ['-', '-'] => return some rest
      | '-' :: letters => do takeSettings fuel (← turnLetters true letters rest)
      | '+' :: letters => do takeSettings fuel (← turnLetters false letters rest)
      | _ => return some (argument :: rest)

/-- Gives up the control of jobs, for which a shell needs a terminal.  One that
    is meant for a user tries to have it. -/
def giveUpControl : Run Unit := do
  let s ← get
  if (s.isOn 'm' || s.running.isNone && s.isOn 'i') && !s.isCopy then
    set { s with options := s.options.filter (· != 'm') }
    Run.complain "can\x27t access tty; job control turned off"

/-- Sets options and parameters, or shows all variables. -/
def setOptions : Builtin := fun arguments => do
  if arguments.isEmpty then showVariables "" fun v => v.value.isSome
  else
    let parameters ← takeSettings (arguments.length + 1) arguments
    giveUpControl
    match parameters with
    | some parameters =>
        modify fun s => { s with parameters := parameters, optionIndex := 1, optionOffset := 0 }
    | none => pure ()
  return 0

/-- Drops the first parameters. -/
def shift : Builtin := fun arguments => do
  let n ← match arguments with
    | [] => pure 1
    | argument :: _ => numberArgument argument
  let s ← get
  if s.parameters.length < n then Run.fail "can\x27t shift that many"
  else do
    set { s with parameters := s.parameters.drop n, optionIndex := 1, optionOffset := 0 }
    return 0

/-! ## Options of scripts -/

/-- Sets the variable that holds the value of an option. -/
def setOptionValue (value : Option String) : Run Unit := do
  match value with
  | some t => Run.assign "OPTARG" t
  | none => Run.unassign "OPTARG"

/-- What reading one option yields: the letter, the number of the argument
    that is read next, and what is left of the current one. -/
structure OptionStep where
  letter : Char
  index : Nat
  left : Option Octets
  isDone : Bool

/-- Reads an option from what is left of an argument; `index` is the number
    of the argument after it. -/
def readOption (known : Octets) (arguments : List String) (index : Nat) (t : Octets) :
    Run OptionStep := do
  match t with
  | [] => return ⟨'?', index, none, true⟩
  | c :: rest => do
      let isQuiet := known.head? == some ':'
      let complain := fun (text : String) (letter : Char) => do
        if isQuiet then setOptionValue (some (String.singleton c))
        else do
          Run.report (text ++ "\n").toList
          setOptionValue none
        return (if isQuiet then letter else '?')
      match optionKind (if isQuiet then known.drop 1 else known) c with
      | none => do
          let _ ← complain ("Illegal option -" ++ String.singleton c) '?'
          return ⟨'?', index, some rest, false⟩
      | some false => do
          setOptionValue (some "")
          return ⟨c, index, some rest, false⟩
      | some true =>
          match rest, arguments[index - 1]? with
          | [], none => do
              let letter ← complain ("No arg for -" ++ String.singleton c ++ " option") ':'
              return ⟨letter, index, some rest, false⟩
          | [], some value => do
              setOptionValue (some value)
              return ⟨c, index + 1, none, false⟩
          | rest, _ => do
              setOptionValue (some (String.ofList rest))
              return ⟨c, index, none, false⟩

/-- Reads the next option of parameters or other arguments into a
    variable. -/
def getopts : Builtin := fun arguments => do
  let a ← divideArguments "" arguments
  match a.operands with
  | known :: name :: others => do
      let s ← get
      let words := if others.isEmpty then s.parameters else others
      let (index, offset) :=
        if words.length + 1 < s.optionIndex then (1, 0) else (s.optionIndex, s.optionOffset)
      -- What is left of the argument before, if it is long enough.
      let left : Octets :=
        if index ≤ 1 || offset = 0 then []
        else ((words[index - 2]?.map String.toList).getD []).drop offset
      let step ←
        if !left.isEmpty then readOption known.toList words index left
        else
          match words[index - 1]?.map String.toList with
          | some ['-'] => pure ⟨'?', index, none, true⟩
          | some ['-', '-'] => pure ⟨'?', index + 1, none, true⟩
          | some ('-' :: t) => readOption known.toList words (index + 1) t
          | _ => pure ⟨'?', index, none, true⟩
      Run.assign "OPTIND" (toString step.index)
      Run.assign name (String.singleton step.letter)
      let length := (words[step.index - 2]?.map String.length).getD 0
      modify fun s => { s with
        optionIndex := step.index
        optionOffset := (step.left.map fun t => length - t.length).getD 0 }
      return if step.isDone then 1 else 0
  | _ => Run.fail "Usage: getopts optstring var [arg...]"

/-! ## Aliases -/

/-- The line that shows an alias. -/
def aliasLine (name text : String) : String := name ++ "=" ++ inReadableQuotes text ++ "\n"

/-- The entries of a table in the order of the buckets of a shell. -/
def inBuckets {β : Type} (t : Table β) (count : Nat) : Table β :=
  (List.range count).flatMap fun n => t.filter fun (name, _) => Context.bucketIn count name == n

/-- Sets or shows aliases. -/
def setAliases : Builtin := fun arguments => do
  if arguments.isEmpty then
    for (name, text) in inBuckets (← get).aliases Context.bucketCount do
      Run.printString (aliasLine name text)
    return 0
  let mut status := 0
  for argument in arguments do
    let t := argument.toList
    -- The first character belongs to the name whatever it is.
    let name := t.take 1 ++ (t.drop 1).takeWhile (· != '=')
    if name.length < t.length then
      modify fun s => { s with
        aliases := s.aliases.set (String.ofList name) (String.ofList (t.drop (name.length + 1))) }
    else
      match (← get).aliases.find? argument with
      | some text => Run.printString (aliasLine argument text)
      | none => do
          Run.report ("alias: " ++ argument ++ " not found\n").toList
          status := 1
  return status

/-- Removes aliases. -/
def removeAliases : Builtin := fun arguments => do
  let a ← divideArguments "a" arguments
  if a.has 'a' then
    modify fun s => { s with aliases := [] }
    return 0
  let mut status := 0
  for name in a.operands do
    if ((← get).aliases.find? name).isSome then
      modify fun s => { s with aliases := s.aliases.erase name }
    else do
      Run.report ("unalias: " ++ name ++ " not found\n").toList
      status := 1
  return status

end HermesBundle.Shell.Builtin
