import HermesBundle.Shell.Editor.Reader
import HermesBundle.Shell.Tools.Transfer

/-! # Editing — lines that go through a script

    Each line of the input is put into the pattern space, the commands of
    the script work on it, and what is left is written.  A second space
    holds what is kept from one line to the next.  What is to be written
    behind a line waits until the line is done. -/

namespace HermesBundle.Shell.Tool

open Editor

/-! ## Substitutions -/

/-- Octets in the case that is asked for; the first character can have a
    case of its own. -/
def inCase (all first : Option CaseChange) (t : Octets) : Octets :=
  let change := fun (c : Option CaseChange) (t : Octets) =>
    match c with
    | some .upper => t.map raised
    | some .upperFirst => t.map raised
    | some .lower => t.map lowered
    | some .lowerFirst => t.map lowered
    | _ => t
  match first with
  | some _ => change first (t.take 1) ++ change all (t.drop 1)
  | none => change all t

/-- What replaces a match. -/
def replacementText (s : Subject) (f : Found) :
    List Editor.Piece → Option CaseChange → Option CaseChange → List Octets → Octets
  | [], _, _, out => out.reverse.flatten
  | .changes c :: rest, all, first, out =>
      match c with
      | .upper => replacementText s f rest (some .upper) first out
      | .lower => replacementText s f rest (some .lower) first out
      | .finish => replacementText s f rest none none out
      | c => replacementText s f rest all (some c) out
  | piece :: rest, all, first, out =>
      let t := match piece with
        | .text t => t
        | .group 0 => s.slice f.start f.finish
        | .group n =>
            match f.groups.lookup n with
            | some (i, j) => s.slice i j
            | none => []
        | .changes _ => []
      if t.isEmpty then replacementText s f rest all first out
      else replacementText s f rest all none (inCase all first t :: out)

/-- The text with matches replaced, and whether there was one.  `count` is
    the number of matches so far, `last` the end of the last one. -/
def substituted (sub : Substitution) (search : Search) (s : Subject) :
    Nat → Nat → Option Nat → Nat → List Octets → Bool → Octets × Bool
  | 0, _, _, _, out, changed => (out.reverse.flatten, changed)
  | fuel + 1, start, last, count, out, changed =>
      let rest := fun (i : Nat) (out : List Octets) => (s.slice i s.size :: out).reverse.flatten
      match search.find? s start with
      | none => (rest start out, changed)
      | some f =>
          let out := s.slice start f.start :: out
          let after := min s.size (f.finish + 1)
          if f.start = f.finish && last == some f.start then
            -- An empty match right behind another one does not count.
            if s.size ≤ f.finish then (out.reverse.flatten, changed)
            else substituted sub search s fuel after none count (s.slice f.finish after :: out) changed
          else
            let count := count + 1
            let replaces := sub.number ≤ count
            let out :=
              (if replaces then replacementText s f sub.replacement none none []
                else s.slice f.start f.finish) :: out
            let changed := changed || replaces
            if replaces && !sub.isGlobal then (rest f.finish out, changed)
            else if f.start = f.finish then
              if s.size ≤ f.finish then (out.reverse.flatten, changed)
              else
                substituted sub search s fuel after none count (s.slice f.finish after :: out) changed
            else substituted sub search s fuel f.finish (some f.finish) count out changed

/-- Characters exchanged for others. -/
def transliteratedText (isUtf8 : Bool) (table : List (Octets × Octets)) (t : Octets) : Octets :=
  let units := if isUtf8 then characters t else t.map fun c => [c]
  units.flatMap fun c => (table.lookup c).getD c

/-- A text in which everything can be seen, in pieces of some width. -/
def escapedText (width : Nat) (ending : Char) (t : Octets) : Octets :=
  let shown := t.map fun c =>
    if c == '\\' then "\\\\".toList
    else if isPrintable c then [c]
    else '\\' :: escapeOf c
  let (out, _) := shown.foldl
    (fun ((out, column) : List Octets × Nat) piece =>
      if 0 < width && width - 1 < column + piece.length then (piece :: ['\\', ending] :: out, piece.length)
      else (piece :: out, column + piece.length))
    ([], 0)
  out.reverse.flatten ++ ['$', ending]

/-! ## The state of an editor -/

/-- Something that is written behind a line. -/
inductive Appended where
  | text (t : Octets)
  | file (name : String)

/-- Whether a range of lines is open. -/
inductive RangeState where
  | closed
  /-- It was open before. -/
  | isOver
  | isOpen (finish : Option Nat)

/-- How the editor was called. -/
structure EditStyle where
  isQuiet : Bool
  separates : Bool
  /-- The suffix under which files are kept that are edited in place. -/
  inPlace : Option String
  ending : Char
  width : Nat
  isUtf8 : Bool

/-- How far the editing has come. -/
structure EditState where
  space : Octets
  /-- Whether the line has an end. -/
  isEnded : Bool
  hold : Octets
  holdIsEnded : Bool
  number : Nat
  hasReplaced : Bool
  /-- What is written behind the line, the latest first. -/
  appended : List Appended
  ranges : Array RangeState
  lastSearch : Option Search
  /-- Whether that search is from an address. -/
  lastIsAddress : Bool
  /-- The name of the file that the line is from. -/
  name : String
  /-- The files still to be read. -/
  inputs : List String
  input : Option Input
  /-- The line after this one. -/
  following : Option Octets
  /-- The descriptors of the files that are written, and those that are
      read line by line. -/
  outputs : List (String × Nat)
  readers : List (String × Option Nat)
  /-- The outputs whose last line has no end yet. -/
  unended : List Nat
  /-- What has been written for a file that is edited in place, the latest
      first. -/
  edited : List Octets
  hasMissed : Bool

/-- What comes after a command. -/
inductive EditStep where
  | goOn (place : Nat)
  /-- The line is done; it is shown unless nothing is. -/
  | finish
  /-- The line is done and not shown. -/
  | drop
  /-- The script starts again without another line. -/
  | again
  | quit (status : Nat) (shows : Bool)

/-! ## Output -/

/-- Writes to a descriptor; the first one is the output. -/
def editWrite (e : EditStyle) (s : EditState) (descriptor : Nat) (t : Octets) : Run EditState := do
  if descriptor = 1 then
    if e.inPlace.isSome && s.input.isSome then return { s with edited := t :: s.edited }
    else do
      Run.print t
      return s
  else do
    let _ ← Run.flush
    let _ ← Run.write descriptor t
    return s

/-- Ends a line that has no end yet, before more is written. -/
def endLine (e : EditStyle) (s : EditState) (descriptor : Nat) : Run EditState := do
  if s.unended.contains descriptor then
    editWrite e { s with unended := s.unended.filter (· != descriptor) } descriptor [e.ending]
  else return s

/-- Writes a text. -/
def writeText (e : EditStyle) (s : EditState) (descriptor : Nat) (t : Octets) : Run EditState := do
  editWrite e (← endLine e s descriptor) descriptor t

/-- Writes a line, which has an end if the line of the input has one. -/
def writeLine (e : EditStyle) (s : EditState) (descriptor : Nat) (t : Octets) : Run EditState := do
  let s ← endLine e s descriptor
  if s.isEnded then editWrite e s descriptor (t ++ [e.ending])
  else do
    let s ← editWrite e s descriptor t
    return { s with unended := descriptor :: s.unended }

/-- The descriptor of a file that is written. -/
def outputFor (s : EditState) (name : String) : Nat :=
  if name == "/dev/stdout" then 1 else if name == "/dev/stderr" then 2 else (s.outputs.lookup name).getD 1

/-- Writes what waits behind a line. -/
def writeAppended (e : EditStyle) (s : EditState) : Run EditState := do
  let mut state := { s with appended := [] }
  for a in s.appended.reverse do
    match a with
    | .text t => state ← writeText e state 1 t
    | .file name =>
        state ← endLine e state 1
        let content ← if name == "/dev/stdin" then Run.readAll 0 else Run.readFile name
        match content with
        | .ok t => if !t.isEmpty then state ← writeText e state 1 t
        | .error _ => pure ()
  return state

/-! ## Input -/

/-- The name under which a file is kept. -/
def keptName (suffix name : String) : String :=
  let cs := name.toList
  let base := lastComponent cs
  let directory := cs.take (cs.length - base.length)
  let kept :=
    if suffix.toList.contains '*' then
      suffix.toList.flatMap fun c => if c == '*' then base else [c]
    else base ++ suffix.toList
  if kept.contains '/' then String.ofList kept else String.ofList (directory ++ kept)

/-- Stores what a file has become. -/
def storeEdited (e : EditStyle) (s : EditState) (name : String) : Run Unit := do
  match e.inPlace with
  | none => return ()
  | some suffix => do
      let text := s.edited.reverse.flatten
      match ← Run.status true name with
      | .error _ => return ()
      | .ok f => do
          if !suffix.isEmpty then
            match ← Run.spot false name, ← Run.spot false (keptName suffix name) with
            | .ok (.found source _), .ok (.found target _) =>
                Run.changeWorld fun w => w.move source target
            | .ok (.found source _), .ok (.free target) =>
                Run.changeWorld fun w => w.move source target
            | _, _ => pure ()
          else
            match ← Run.spot false name with
            | .ok (.found l _) => Run.changeWorld fun w => w.remove l
            | _ => pure ()
          match ← Run.openFile name .write with
          | .error _ => return ()
          | .ok opening => do
              let _ ← fillOpening opening text
              match ← Run.spot true name with
              | .ok (.found l entry) =>
                  Run.changeWorld fun w => w.change l entry fun node => { node with mode := f.mode }
              | _ => pure ()

/-- Ends a file of the input. -/
def closeEdited (e : EditStyle) (s : EditState) : Run EditState := do
  match s.input with
  | none => return s
  | some i => do
      closeInput i
      if e.inPlace.isSome then storeEdited e s i.name
      return { s with input := none, edited := [], unended := if e.inPlace.isSome then [] else s.unended }

/-- Opens the next file of the input that can be read. -/
def openEdited (e : EditStyle) : Nat → EditState → Run EditState
  | 0, s => return s
  | fuel + 1, s => do
      match s.inputs with
      | [] => return s
      | name :: rest => do
          let s := { s with inputs := rest }
          let isRegular ← match e.inPlace with
            | none => pure true
            | some _ =>
                match ← Run.status true name with
                | .ok f => pure (f.kind == .regular)
                | .error _ => pure true
          if !isRegular then
            Run.quit 4 ("couldn\x27t edit " ++ name ++ ": not a regular file")
          else
            match ← openInput name with
            | .error cause => do
                Run.objection ("can\x27t read " ++ name ++ ": " ++ cause.text)
                openEdited e fuel { s with hasMissed := true }
            | .ok i => return { s with input := some i, name := name }

/-- Reads a line of the file that is open; none at its end. -/
def readEdited (e : EditStyle) (i : Input) : Run (Option Octets) := do
  match ← Run.readRecord i.descriptor e.ending with
  | .ok [] => return none
  | .ok t => return some t
  | .error cause => Run.quit 4 ("read error on " ++ (if i.name == "-" then "stdin" else i.name) ++ ": " ++ cause.text)

/-- Looks for the line after this one; `crosses` says that it may be in
    another file. -/
def lookAhead (e : EditStyle) (crosses : Bool) : Nat → EditState → Run EditState
  | 0, s => return s
  | fuel + 1, s => do
      if s.following.isSome then return s
      else
        match s.input with
        | some i => do
            match ← readEdited e i with
            | some t => return { s with following := some t }
            | none =>
                if crosses then
                  let s ← closeEdited e s
                  lookAhead e crosses fuel s
                else return s
        | none => do
            if s.inputs.isEmpty || !crosses then return s
            else
              let s ← openEdited e (s.inputs.length + 1) s
              if s.input.isNone then return s else lookAhead e crosses fuel s

/-- How many files can be passed over in search of a line. -/
def lookLimit (s : EditState) : Nat := 2 * s.inputs.length + 4

/-- Whether there is no line after this one. -/
def isLastLine (e : EditStyle) (s : EditState) : Run (Bool × EditState) := do
  let s ← lookAhead e (!e.separates) (lookLimit s) s
  return (s.following.isNone, s)

/-- Puts the next line into the pattern space, or behind what is there.
    The result tells whether there is one. -/
def nextLine (e : EditStyle) (script : Script) (adds : Bool) (s : EditState) : Run (Bool × EditState) := do
  let s ← writeAppended e s
  let s := { s with hasReplaced := false }
  let before := s.inputs.length + if s.input.isSome then 1 else 0
  let s ← lookAhead e true (lookLimit s) s
  match s.following with
  | none => return (false, s)
  | some t => do
      let isEnded := t.getLast? == some e.ending
      let line := if isEnded then t.dropLast else t
      let isOther := e.separates && s.inputs.length + 1 < before
      let s := if isOther || (e.separates && s.number = 0) then
          { s with number := 0, ranges := startRanges script, hold := [], readers := [] }
        else s
      return (true, { s with
        following := none, isEnded := isEnded, number := s.number + 1
        space := if adds then s.space ++ line else line })
where
  /-- The ranges before the first line; one that starts before it is
      open. -/
  startRanges (script : Script) : Array RangeState :=
    script.commands.map fun c =>
      match c.selection.first with
      | some (.line 0) => .isOpen none
      | _ => .closed

/-! ## Commands -/

/-- The search that is meant, and the state in which it is the latest
    one. -/
def searchFor (s : EditState) (search : Option Search) (isAddress : Bool) : Run (Search × EditState) := do
  match search.or s.lastSearch with
  | some r =>
      let isAddress := if search.isSome then isAddress else s.lastIsAddress && isAddress
      return (r, { s with lastSearch := some r, lastIsAddress := isAddress })
  | none => Run.quit 1 "-e expression #1, char 0: no previous regular expression"

/-- Whether an address selects the line. -/
def isAt (e : EditStyle) (s : EditState) (a : Address) : Run (Bool × EditState) := do
  match a with
  | .line n => return (s.number == n, s)
  | .step first size => return (first ≤ s.number && (s.number - first) % size = 0, s)
  | .last => isLastLine e s
  | .matching search => do
      let (r, s) ← searchFor s search true
      return (r.isIn (Subject.ofOctets e.isUtf8 s.space), s)

/-- Whether a command is for the line. -/
def isSelected (e : EditStyle) (s : EditState) (place : Nat) (c : Selection) : Run (Bool × EditState) := do
  match c.first with
  | none => return (!c.isNegated, s)
  | some first =>
      let close := fun (s : EditState) => { s with ranges := s.ranges.setIfInBounds place .isOver }
      let isFirst := fun (a : Address) (number : Nat) => match a with
        | .line n => n == number
        | _ => true
      let (found, s) ← match c.last with
        | none => isAt e s first
        | some last =>
            let state := s.ranges[place]?.getD .closed
            match state with
            | .isOpen finish =>
                match finish, last with
                -- A range that is counted holds one line behind it if its end is passed over.
                | some n, .at (.line _) => pure (s.number ≤ n, if n ≤ s.number then close s else s)
                | some n, _ => pure (true, if n ≤ s.number then close s else s)
                | none, .at a => do
                    let (ends, s) ← isAt e s a
                    pure (true, if ends then close s else s)
                | none, _ => pure (true, s)
            | state => do
                -- A range from some line on starts once, at that line or behind it.
                let (starts, s) ← match first, state with
                  | .line _, .isOver => pure (false, s)
                  | .line n, _ => pure (n ≤ s.number, s)
                  | first, _ => isAt e s first
                if !starts then pure (false, s)
                else
                  let isOpenUntil := fun (finish : Nat) =>
                    if finish ≤ s.number then close s
                    else { s with ranges := s.ranges.setIfInBounds place (.isOpen (some finish)) }
                  match last with
                  | .at (.line n) => pure (s.number ≤ n || isFirst first s.number, isOpenUntil n)
                  | .after n => pure (true, isOpenUntil (s.number + n))
                  | .multiple n =>
                      pure (true, isOpenUntil (if n = 0 then 0 else s.number / n * n + n))
                  | .at _ =>
                      pure (true, { s with ranges := s.ranges.setIfInBounds place (.isOpen none) })
      return (found != c.isNegated, s)

/-- Whether the range of a command goes on after the line. -/
def rangeGoesOn (s : EditState) (place : Nat) : Bool :=
  match s.ranges[place]?.getD .closed with
  | .isOpen _ => true
  | _ => false

/-- Reads a line of a file for a command. -/
def readLineOf (e : EditStyle) (s : EditState) (name : String) : Run (Option Octets × EditState) := do
  let (descriptor, s) ← match s.readers.lookup name with
    | some d => pure (d, s)
    | none => do
        let d ← if name == "/dev/stdin" then pure (some 0) else
          match ← Run.openAs name .read with
          | .ok d => pure (some d)
          | .error _ => pure none
        pure (d, { s with readers := (name, d) :: s.readers })
  match descriptor with
  | none => return (none, s)
  | some d => do
      match ← Run.readRecord d e.ending with
      | .ok [] => return (none, s)
      | .ok t => return (some t, s)
      | .error _ => return (none, s)

/-- Does what a command says for a selected line. -/
def act (e : EditStyle) (script : Script) (place : Nat) (c : Editor.Command) (s : EditState) :
    Run (EditStep × EditState) := do
  let on := EditStep.goOn (place + 1)
  let firstLine := s.space.takeWhile (· != e.ending)
  let endedText := fun (t : Octets) => if t.isEmpty then [] else t.dropLast ++ [e.ending]
  match c.action with
  | .block _ => return (on, s)
  | .nothing => return (on, s)
  | .append t => return (on, { s with appended := .text t :: s.appended })
  | .insert t => return (on, ← writeText e s 1 (endedText t))
  | .change t => do
      let s ← if c.selection.last.isSome && rangeGoesOn s place then pure s
        else writeText e s 1 (endedText t)
      return (.drop, s)
  | .jump condition label =>
      let taken := match condition with
        | .always => true
        | .replaced => s.hasReplaced
        | .unchanged => !s.hasReplaced
      let s := if condition = .always then s else { s with hasReplaced := false }
      if !taken then return (on, s)
      else if label.isEmpty then return (.finish, s)
      else return (.goOn ((script.labels.lookup label).getD script.commands.size), s)
  | .delete => return (.drop, s)
  | .deleteFirst =>
      if firstLine.length < s.space.length then
        return (.again, { s with space := s.space.drop (firstLine.length + 1) })
      else return (.drop, s)
  | .showName => return (on, ← writeText e s 1 (s.name.toList ++ [e.ending]))
  | .takeHold => return (on, { s with space := s.hold, isEnded := s.holdIsEnded })
  | .addHold => return (on, { s with space := s.space ++ e.ending :: s.hold, isEnded := s.holdIsEnded })
  | .keep => return (on, { s with hold := s.space, holdIsEnded := s.isEnded })
  | .addToHold => return (on, { s with hold := s.hold ++ e.ending :: s.space, holdIsEnded := s.isEnded })
  | .exchange =>
      return (on, { s with
        space := s.hold, hold := s.space, isEnded := s.holdIsEnded, holdIsEnded := s.isEnded })
  | .showEscaped width => return (on, ← writeText e s 1 (escapedText (width.getD e.width) e.ending s.space))
  | .next => do
      let (isLast, s) ← isLastLine e s
      if isLast then return (.finish, s)
      else do
        let s ← if e.isQuiet then pure s else writeLine e s 1 s.space
        let (_, s) ← nextLine e script false s
        return (on, s)
  | .addNext => do
      let (isLast, s) ← isLastLine e s
      if isLast then return (.finish, s)
      else do
        let (_, s) ← nextLine e script true { s with space := s.space ++ [e.ending] }
        return (on, s)
  | .print => return (on, ← writeLine e s 1 s.space)
  | .printFirst =>
      if firstLine.length < s.space.length then
        return (on, ← writeText e s 1 (firstLine ++ [e.ending]))
      else return (on, ← writeLine e s 1 s.space)
  | .quit status => return (.quit status true, s)
  | .quitSilently status => return (.quit status false, s)
  | .readFile name => return (on, { s with appended := .file name :: s.appended })
  | .readLine name => do
      match ← readLineOf e s name with
      | (some t, s) => return (on, { s with appended := .text t :: s.appended })
      | (none, s) => return (on, s)
  | .substitute sub => do
      let isFromAddress := sub.search.isNone && s.lastIsAddress
      let (search, s) ← searchFor s sub.search false
      if isFromAddress && search.groups < highestGroup sub.replacement then
        Run.quit 1 ("-e expression #1, char 0: invalid reference \\"
          ++ toString (highestGroup sub.replacement) ++ " on \x60s\x27 command\x27s RHS")
      let subject := Subject.ofOctets e.isUtf8 s.space
      let (t, changed) := substituted sub search subject (2 * subject.size + 4) 0 none 0 [] false
      if !changed then return (on, s)
      else do
        let s := { s with space := t, hasReplaced := true }
        let s ← if sub.prints then writeLine e s 1 t else pure s
        match sub.file with
        | some name => return (on, ← writeLine e s (outputFor s name) t)
        | none => return (on, s)
  | .write name => return (on, ← writeLine e s (outputFor s name) s.space)
  | .writeFirst name => return (on, ← writeText e s (outputFor s name) (firstLine ++ [e.ending]))
  | .transliterate source target =>
      return (on, { s with space := transliteratedText e.isUtf8 (source.zip target) s.space })
  | .clear => return (on, { s with space := [] })
  | .showNumber => return (on, ← writeText e s 1 (decimal s.number ++ [e.ending]))

/-- Runs the commands from a place on. -/
def runCommands (e : EditStyle) (script : Script) : Nat → Nat → EditState → Run (EditStep × EditState)
  | 0, _, _ => throw .stuck
  | fuel + 1, place, s => do
      match script.commands[place]? with
      | none => return (.finish, s)
      | some c => do
          let (isIn, s) ← isSelected e s place c.selection
          if !isIn then
            match c.action with
            | .block finish => runCommands e script fuel finish s
            | _ => runCommands e script fuel (place + 1) s
          else
            match ← act e script place c s with
            | (.goOn next, s) => runCommands e script fuel next s
            | r => return r

/-- Edits line after line; the result is the status that was asked for. -/
def editLines (e : EditStyle) (script : Script) : Nat → Bool → EditState → Run (Nat × EditState)
  | 0, _, _ => throw .stuck
  | fuel + 1, keeps, s => do
      let (found, s) ← if keeps then pure (true, s) else nextLine e script false s
      if !found then return (0, s)
      else
        let (step, s) ← runCommands e script 2000000 0 s
        match step with
        | .drop => editLines e script fuel false s
        | .again => do
            let s ← writeAppended e s
            editLines e script fuel true s
        | .quit status shows => do
            let s ← if shows && !e.isQuiet then writeLine e s 1 s.space else pure s
            let s ← if shows then writeAppended e (← endLine e s 1) else pure s
            return (status, s)
        | _ => do
            let s ← if e.isQuiet then pure s else writeLine e s 1 s.space
            editLines e script fuel false s

/-! ## The program -/

/-- The pieces of the script, each with the file it is from if there is
    one. -/
def scriptPieces (g : Given) : Run (List (Option String × Octets) × List String) := do
  let mut found : List (Option String × Octets) := []
  for (key, value) in g.options do
    if key == "e" then found := found ++ [(none, (value.getD "").toList)]
    else if key == "f" then
      let name := value.getD ""
      match ← inputContent name with
      | .ok t =>
          let t := if t.getLast? == some '\n' then t.dropLast else t
          found := found ++ [(some name, t)]
      | .error e => Run.quit 1 ("couldn\x27t open file " ++ name ++ ": " ++ e.text)
  if g.has "e" || g.has "f" then return (found, g.operands)
  else
    match g.operands with
    | [] => do
        Run.remark ("Usage: " ++ (← Run.called)
          ++ " [OPTION]... \x7bscript-only-if-no-other-script\x7d [input-file]...")
        throw (.exited 1)
    | t :: rest => return ([(none, t.toList)], rest)

/-- Opens the files that a script writes. -/
def openOutputs : List String → Run (List (String × Nat))
  | [] => return []
  | name :: rest => do
      if name == "/dev/stdout" || name == "/dev/stderr" then openOutputs rest
      else
        match ← Run.openAs name .write with
        | .ok d => return (name, d) :: (← openOutputs rest)
        | .error e => Run.quit 4 ("couldn\x27t open file " ++ name ++ ": " ++ e.text)

/-- A fault in a script, which ends the program.  Files are opened as they
    are found. -/
def refuseScript {α : Type} (pieces : List (Option String × Octets)) (f : Fault) : Run α := do
  let _ ← openOutputs f.files
  if f.text == RegexFault.bareKind.text then Run.quit 4 f.text
  else match (pieces[f.piece - 1]?).bind (·.1) with
  | some name => Run.quit 1 ("file " ++ name ++ " line " ++ toString f.line ++ ": " ++ f.text)
  | none =>
      let expression := ((pieces.take f.piece).filter fun p => p.1.isNone).length
      Run.quit 1 ("-e expression #" ++ toString expression ++ ", char " ++ toString f.position ++ ": "
        ++ f.text)

/-- The script that pieces make; a fault ends the program. -/
def readScript (pieces : List (Option String × Octets)) (isExtended isUtf8 : Bool) : Run Script := do
  let mut reading := startReading isExtended isUtf8
  for (_, t) in pieces do
    match readPiece t reading with
    | .ok r => reading := r
    | .error f => refuseScript pieces f
  match finishScript reading with
  | .error f => refuseScript pieces f
  | .ok script => do
      match script.missingLabel with
      | some label => do
          let _ ← openOutputs script.files
          Run.quit 4 ("can\x27t find label for jump to \x60" ++ label ++ "\x27")
      | none => return script

/-- Edits lines by a script. -/
def sed : Tool := fun arguments => do
  let g ← given
    (flags "nrsuz" ++ [flag 'E' "regexp-extended", valued 'e' "expression", valued 'f' "file",
      ⟨some 'i', "in-place", .optional⟩, valued 'l' "line-length", long "quiet" .none, long "silent" .none,
      long "separate" .none, long "unbuffered" .none, long "null-data" .none,
      long "zero-terminated" .none, long "posix" .none, long "debug" .none, long "sandbox" .none,
      long "follow-symlinks" .none]) 1 arguments
  let any := fun (keys : List String) => keys.any g.has
  let isUtf8 ← Run.isUtf8
  let (pieces, operands) ← scriptPieces g
  let script ← readScript pieces (any ["E", "r"]) isUtf8
  let width ← match g.value? "l" with
    | none => pure 70
    | some t =>
        match decimal? t.toList with
        | some n => pure n
        | none => Run.quit 1 ("invalid line length: " ++ t)
  let inPlace := if g.has "i" then some ((g.value? "i").getD "") else none
  let e : EditStyle :=
    { isQuiet := any ["n", "quiet", "silent"] || script.isQuiet
      separates := any ["s", "separate"] || inPlace.isSome, inPlace := inPlace
      ending := if any ["z", "null-data", "zero-terminated"] then '\x00' else '\n', width := width
      isUtf8 := isUtf8 }
  let outputs ← openOutputs script.files
  let start : EditState :=
    { space := [], isEnded := true, hold := [], holdIsEnded := true, number := 0, hasReplaced := false, appended := []
      ranges := nextLine.startRanges script, lastSearch := none, lastIsAddress := false, name := "-"
      inputs := if operands.isEmpty then ["-"] else operands, input := none, following := none
      outputs := outputs, readers := [], unended := [], edited := [], hasMissed := false }
  let (status, s) ← editLines e script 10000000 false start
  -- What was read ahead is left for others.
  match s.input with
  | some i =>
      if i.descriptor = 0 then do
        let unread ← Run.unreadFrom 0
        Run.keepUnread 0 (s.following.getD [] ++ unread)
        Run.giveBack 0
      else do
        let s ← if e.inPlace.isNone then pure s else finishFile e s i
        let _ ← closeEdited e s
  | none => pure ()
  return if s.hasMissed then 2 else status
where
  /-- Passes on the rest of a file that is edited in place. -/
  finishFile (e : EditStyle) (s : EditState) (i : Input) : Run EditState := do
    let rest ← match ← Run.readAll i.descriptor with
      | .ok t => pure t
      | .error _ => pure []
    let unread ← Run.unreadFrom i.descriptor
    let t := s.following.getD [] ++ unread ++ rest
    let s := { s with following := none }
    if t.isEmpty then return s else writeText e s 1 t

end HermesBundle.Shell.Tool
