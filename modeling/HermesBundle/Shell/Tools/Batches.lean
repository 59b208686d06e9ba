import HermesBundle.Shell.Tools.Starting

/-! # Batches — commands with arguments from the input

    Words are read from the input and collected.  When a batch is full it
    is put after the first words of a command, which is then run; or each
    line of the input takes the place of a mark in the command. -/

namespace HermesBundle.Shell.Tool

/-- When batches are full, and what is done with them. -/
structure BatchPlan where
  /-- The mark that a line of the input takes the place of. -/
  mark : Option String
  /-- What items end with, if they are not words. -/
  ending : Option Char
  /-- The word that ends the input. -/
  lastWord : Option String
  wordLimit : Option Nat
  lineLimit : Option Nat
  /-- How long a command may be. -/
  sizeLimit : Nat
  /-- Whether a command that gets too long ends the program. -/
  endsIfTooLong : Bool
  /-- Whether the command is run without any words. -/
  runsEmpty : Bool
  isVerbose : Bool
  /-- How many commands may run at the same time; zero is no limit. -/
  processLimit : Nat
  /-- The variable that numbers the commands that run at the same time. -/
  slotVariable : Option String
  /-- The name of the file that is read, if it is not the standard input. -/
  source : Option String
  /-- The command and its first words. -/
  command : List String

/-- A batch in the making, and the commands that run. -/
structure Batch where
  /-- The words, the latest first. -/
  words : List String
  count : Nat
  size : Nat
  lines : Nat
  hasRun : Bool
  /-- The commands that run: their slot and process. -/
  running : List (Nat × Nat)
  /-- Whether a command has failed. -/
  hasFailed : Bool
  /-- Whether the input could not be read. -/
  isBroken : Bool

/-- How long a word is in a command. -/
def wordSize (t : String) : Nat := t.length + 1

/-- The length of the first words of the command. -/
def BatchPlan.leadSize (p : BatchPlan) : Nat := totalSize (p.command.map wordSize)

/-! ## Commands -/

/-- Takes note of commands that have ended; a grave end ends the program. -/
def reap (p : BatchPlan) (b : Batch) : Run Batch := do
  let name := p.command.headD "echo"
  let mut b := b
  for (slot, process) in b.running do
    match ← Run.endingOf process with
    | none => pure ()
    | some ending => do
        b := { b with running := b.running.filter fun (n, _) => n != slot }
        match ending with
        | .killed signal => Run.quit 125 (name ++ ": terminated by signal " ++ toString signal)
        | .exited 255 => Run.quit 124 (name ++ ": exited with status 255; aborting")
        | .exited 0 => pure ()
        | .exited _ => b := { b with hasFailed := true }
  return b

/-- Waits until fewer commands run than some number. -/
def reapBelow (p : BatchPlan) (limit : Nat) : Nat → Batch → Run Batch
  | 0, b => return b
  | fuel + 1, b => do
      let b ← reap p b
      if b.running.length < limit then return b
      else
        Run.await (b.running.map fun (_, process) => .ended process)
        reapBelow p limit fuel b

/-- Starts a command, which reads nothing unless a file is read for its
    words. -/
def launch (p : BatchPlan) (b : Batch) (words : List String) : Run Batch := do
  let b ← if p.processLimit = 0 then reap p b else reapBelow p p.processLimit (b.running.length + 1) b
  if p.isVerbose then
    let shown ← words.mapM Run.shownName
    Run.remark (String.intercalate " " shown)
  let slot := ((List.range (b.running.length + 1)).find? fun n => (b.running.lookup n).isNone).getD 0
  let environment ← givenVariables
  let environment := match p.slotVariable with
    | some name => environment.set name (toString slot)
    | none => environment
  let name := words.headD "echo"
  match ← imageWith environment name (words.drop 1) with
  | .error e => do
      Run.objection (name ++ ": " ++ e.text)
      throw (.exited (startStatus e))
  | .ok image => do
      let process ← Run.keepingDescriptors do
        if p.source.isNone then
          match ← Run.openFile "/dev/null" .read with
          | .ok number => Run.connect 0 number
          | .error _ => pure ()
        Run.fork (.image image)
      return { b with running := b.running ++ [(slot, process)], hasRun := true }

/-- Runs the command with the words of a batch. -/
def runBatch (p : BatchPlan) (b : Batch) : Run Batch := do
  let b ← launch p b (p.command ++ b.words.reverse)
  return { b with words := [], count := 0, size := 0 }

/-- Puts a word into a batch, and runs the command if that fills it. -/
def addWord (p : BatchPlan) (b : Batch) (word : String) : Run Batch := do
  let isFull := fun (b : Batch) => p.wordLimit.any fun n => n ≤ b.count
  let b ←
    if p.sizeLimit < p.leadSize + b.size + wordSize word then do
      if b.count = 0 then Run.quit 1 "argument line too long"
      if p.endsIfTooLong && (p.wordLimit.isSome || p.lineLimit.isSome) then
        Run.quit 1 "argument list too long"
      runBatch p b
    else pure b
  let b := { b with words := word :: b.words, count := b.count + 1, size := b.size + wordSize word }
  if isFull b then runBatch p b else return b

/-- A text with every mark in it replaced.  `fuel` bounds the octets that are
    read; the result so far is in reverse. -/
def withReplaced (mark value : Octets) : Nat → Octets → Octets → Octets
  | 0, _, found => found.reverse
  | _, [], found => found.reverse
  | fuel + 1, c :: rest, found =>
      if !mark.isEmpty && mark.isPrefixOf (c :: rest) then
        withReplaced mark value fuel ((c :: rest).drop mark.length) (value.reverse ++ found)
      else withReplaced mark value fuel rest (c :: found)

/-- Runs the command with a line in the place of each mark. -/
def runReplaced (p : BatchPlan) (b : Batch) (mark : String) (line : Octets) : Run Batch := do
  let words := (p.command.drop 1).map fun t =>
    String.ofList (withReplaced mark.toList line (t.length + 1) t.toList [])
  let words := p.command.take 1 ++ words
  if p.sizeLimit < totalSize (words.map wordSize) then Run.quit 1 "argument list too long"
  launch p b words

/-! ## Words -/

/-- Where the reading of words is. -/
inductive WordPlace where
  /-- Between words. -/
  | between
  | inside
  | quoted (quote : Char)
  | escaped

/-- How far words have been read. -/
structure WordReading where
  place : WordPlace
  /-- The word in the making, in reverse. -/
  word : Octets
  /-- Whether something of a word has been seen on the line. -/
  hasBegun : Bool
  /-- Whether no word of the line is complete. -/
  isFirst : Bool
  /-- The octet before. -/
  before : Char

/-- At the start of a line. -/
def WordReading.atStart : WordReading := ⟨.between, [], false, true, 'x'⟩

/-- What comes of an octet. -/
inductive WordEvent where
  | nothing
  | word (t : Octets)
  /-- A word that ends the line; whether the line counts. -/
  | line (t : Octets) (counts : Bool)
  /-- A quote is not closed. -/
  | unmatched (quote : Char)

/-- An octet inside a line.  Blanks do not end words if lines are wanted. -/
def readInside (wantsLines : Bool) (r : WordReading) (c : Char) : WordReading × WordEvent :=
  if c == '\n' then
    if r.word.isEmpty && !r.hasBegun then ({ r with place := .between }, .nothing)
    else (.atStart, .line r.word.reverse (!isBlank r.before))
  else
    let r := { r with hasBegun := true }
    if !wantsLines && isBlank c then
      ({ r with place := .between, word := [], isFirst := false }, .word r.word.reverse)
    else if c == '\\' then ({ r with place := .escaped }, .nothing)
    else if c == '\x27' || c == '\x22' then ({ r with place := .quoted c }, .nothing)
    else ({ r with word := c :: r.word }, .nothing)

/-- What comes of the next octet. -/
def readWordOctet (wantsLines : Bool) (r : WordReading) (c : Char) : WordReading × WordEvent :=
  let (next, event) : WordReading × WordEvent :=
    match r.place with
    | .between => if isSpace c then (r, .nothing) else readInside wantsLines { r with place := .inside } c
    | .inside => readInside wantsLines r c
    | .quoted quote =>
        if c == '\n' then (r, .unmatched quote)
        else if c == quote then ({ r with place := .inside, hasBegun := true }, .nothing)
        else ({ r with word := c :: r.word }, .nothing)
    | .escaped => ({ r with place := .inside, word := c :: r.word }, .nothing)
  ({ next with before := c }, event)

/-- Whether a word ends the input. -/
def BatchPlan.isLast (p : BatchPlan) (t : Octets) : Bool :=
  p.lastWord.any fun last => !last.isEmpty && last.toList == t

/-- What is done at the end of a line: the command is run if there are enough
    lines. -/
def endInputLine (p : BatchPlan) (b : Batch) : Run Batch := do
  if p.lineLimit.any fun n => n ≤ b.lines then
    let b ← runBatch p b
    return { b with lines := 0 }
  else return b

/-- A complaint ends the program, but commands that run are waited for. -/
def endBatches {α : Type} (p : BatchPlan) (b : Batch) (t : String) : Run α := do
  Run.objection t
  let b ← reapBelow p 1 (b.running.length + 1) b
  throw (.exited (if b.hasFailed then 123 else 1))

/-- A complaint about a quote that is not closed, after the words so far were
    used. -/
def refuseQuote {α : Type} (p : BatchPlan) (b : Batch) (quote : Char) : Run α := do
  let b ← if p.mark.isNone && !p.endsIfTooLong && b.count != 0 then runBatch p b else pure b
  endBatches p b ("unmatched " ++ (if quote == '\x22' then "double" else "single")
    ++ " quote; by default quotes are special to xargs unless you use the -0 option")

/-- Uses a piece of the input.  The reading is none if a word ended the
    input. -/
def usePiece (p : BatchPlan) : Octets → WordReading → Batch → Run (Option WordReading × Batch)
  | [], r, b => return (some r, b)
  | c :: rest, r, b => do
      let (next, event) := readWordOctet p.mark.isSome r c
      let useWord := fun (t : Octets) (b : Batch) =>
        match p.mark with
        | some mark => runReplaced p b mark t
        | none => addWord p b (String.ofList (t.takeWhile (· != '\x00')))
      match event with
      | .nothing => usePiece p rest next b
      | .word t =>
          if p.isLast t then return (none, b)
          else usePiece p rest next (← useWord t b)
      | .line t counts => do
          let b := if counts then { b with lines := b.lines + 1 } else b
          if p.isLast t then return (none, b)
          else
            let b ← useWord t b
            usePiece p rest next (← endInputLine p b)
      | .unmatched quote => refuseQuote p b quote

/-- Reads the input up to its end. -/
def readBatches (p : BatchPlan) (descriptor : Nat) : Nat → WordReading → Batch → Run Batch
  | 0, _, b => return b
  | fuel + 1, r, b => do
      let ending := p.ending.getD '\n'
      match ← Run.readRecord descriptor ending with
      | .error _ => return { b with isBroken := true }
      | .ok [] =>
          -- The end of the input ends a word as well.
          if p.ending.isSome || r.word.isEmpty then return b
          else
            let t := r.word.reverse
            match r.place with
            | .quoted quote => refuseQuote p b quote
            | _ =>
                if r.isFirst && p.isLast t then return b
                else
                  match p.mark with
                  | some mark => runReplaced p b mark t
                  | none => addWord p b (String.ofList t)
      | .ok record =>
          if p.ending.isSome then
            let isWhole := record.getLast? == some ending
            let t := if isWhole then record.dropLast else record
            let b := if isWhole then { b with lines := b.lines + 1 } else b
            let b ← match p.mark with
              | some mark => runReplaced p b mark t
              | none => addWord p b (String.ofList (t.takeWhile (· != '\x00')))
            let b ← endInputLine p b
            readBatches p descriptor fuel r b
          else
            match ← usePiece p record r b with
            | (none, b) => return b
            | (some r, b) => readBatches p descriptor fuel r b

/-! ## The program -/

/-- The number of an option that has to be at least some number. -/
def batchNumber (letter : String) (low : Nat) (t : String) : Run Nat := do
  match integer? (t.toList.dropWhile isSpace) with
  | none => Run.misuse 1 ("invalid number \x22" ++ t ++ "\x22 for -" ++ letter ++ " option")
  | some n =>
      if n < low then
        Run.misuse 1 ("value " ++ String.ofList (signedDecimal n) ++ " for -" ++ letter
          ++ " option should be >= " ++ toString low)
      else return n.toNat

/-- The octet that a text for the end of items stands for. -/
def itemEnding (t : String) : Run Char := do
  let refuse := fun (_ : Unit) => Run.quit 1
    ("Invalid input delimiter specification " ++ t
      ++ ": the delimiter must be either a single character or an escape sequence starting with \\.")
  match t.toList with
  | [c] => return c
  | '\\' :: c :: rest =>
      match "abfnrtv\\".toList.zip "\x07\x08\x0c\n\r\t\x0b\\".toList |>.lookup c with
      | some d => if rest.isEmpty then return d else refuse ()
      | none =>
          if c == 'x' && rest.all isHexadecimal then return Char.ofNat (valueOfDigits 16 rest % 256)
          else if c == '0' && rest.all isOctal then return Char.ofNat (valueOfDigits 8 rest % 256)
          else
            Run.quit 1 ("Invalid escape sequence " ++ t ++ " in input delimiter specification.")
  | _ => refuse ()

/-- A warning that an option takes back another one. -/
def warnExclusive (earlier label later : String) : Run Unit :=
  Run.objection ("warning: options --" ++ earlier ++ " and " ++ label
    ++ " are mutually exclusive, ignoring previous --" ++ later ++ " value")

/-- Changes the plan as an option says. -/
def applyBatchOption (p : BatchPlan) (key : String) (value : Option String) : Run BatchPlan := do
  let t := value.getD ""
  let byLines := fun (label : String) (n : Nat) => do
    if p.wordLimit.isSome then warnExclusive "max-args" label "max-args"
    else if p.mark.isSome then warnExclusive "replace" label "replace"
    return { p with lineLimit := some n, wordLimit := none, mark := none, endsIfTooLong := true }
  match key with
  | "0" => return { p with ending := some '\x00' }
  | "d" => return { p with ending := some (← itemEnding t) }
  | "a" => return { p with source := some t }
  | "E" => return { p with lastWord := some t }
  | "e" => return { p with lastWord := value }
  | "L" => byLines "-L" (← batchNumber "L" 1 t)
  | "l" => byLines "--max-lines/-l" (← batchNumber "l" 1 (value.getD "1"))
  | "n" => do
      let n ← batchNumber "n" 1 t
      if n = 1 && p.mark.isSome then return p
      if p.lineLimit.isSome then warnExclusive "max-lines" "--max-args/-n" "max-lines"
      else if p.mark.isSome then warnExclusive "replace" "--max-args/-n" "replace"
      return { p with wordLimit := some n, lineLimit := none, mark := none }
  | "P" => return { p with processLimit := ← batchNumber "P" 0 t }
  | "r" => return { p with runsEmpty := false }
  | "s" => return { p with sizeLimit := min 131072 (← batchNumber "s" 1 t) }
  | "t" => return { p with isVerbose := true }
  | "x" => return { p with endsIfTooLong := true }
  | "process-slot-var" => do
      if t.toList.contains '=' then
        Run.quit 1 "option --process-slot-var may not be set to a value which includes \x60=\x27"
      return { p with slotVariable := some t }
  | "I" => do
      let label := "--replace/-I/-i"
      if p.wordLimit.isSome then warnExclusive "max-args" label "max-args"
      else if p.lineLimit.isSome then warnExclusive "max-lines" label "max-lines"
      return { p with mark := some (value.getD "\x7b\x7d"), wordLimit := none, lineLimit := none }
  | _ => return p

/-- Runs a command with words of the input. -/
def xargs : Tool := fun arguments => do
  let g ← givenBefore
    [flag '0' "null", valued 'a' "arg-file", valued 'd' "delimiter", valued 'E' "",
     ⟨some 'e', "eof", .optional⟩, valued 'I' "", ⟨some 'i', "replace", .optional⟩,
     valued 'L' "", ⟨some 'l', "max-lines", .optional⟩, valued 'n' "max-args",
     flag 'r' "no-run-if-empty", valued 's' "max-chars", flag 't' "verbose", flag 'x' "exit",
     valued 'P' "max-procs", long "process-slot-var" .required, flag 'o' "open-tty"] 1 arguments
  let mut p : BatchPlan :=
    { mark := none, ending := none, lastWord := none, wordLimit := none, lineLimit := none
      sizeLimit := 131072, endsIfTooLong := false, runsEmpty := true, isVerbose := false
      processLimit := 1, slotVariable := none, source := none
      command := if g.operands.isEmpty then ["echo"] else g.operands }
  for (key, value) in g.options do
    p ← applyBatchOption p (if key == "i" then "I" else key) value
  if p.ending.isSome && p.lastWord.isSome then
    Run.objection "warning: the -E option has no effect if -0 or -d is used.\n"
  let descriptor ← match p.source with
    | none => pure 0
    | some path => do
        match ← Run.openAs path .read with
        | .ok d => pure d
        | .error e =>
            Run.quit 1 ("Cannot open input file " ++ (← Run.inQuotes path) ++ ": " ++ e.text)
  if p.mark.isNone && p.sizeLimit < p.leadSize then
    Run.quit 1 "cannot fit single argument within argument list size limit"
  let b : Batch := ⟨[], 0, 0, 0, false, [], false, false⟩
  let b ← readBatches p descriptor 10000000 .atStart b
  let b ←
    if p.mark.isNone && (b.count != 0 || (p.runsEmpty && !b.hasRun)) then runBatch p b else pure b
  let b ← reapBelow p 1 (b.running.length + 1) b
  if b.isBroken && p.source.isNone then
    let cause := if (← Run.opening 0).isNone then ": " ++ Errno.badDescriptor.text else ""
    Run.quit 1 ("error closing file" ++ cause)
  return if b.hasFailed then 123 else 0

end HermesBundle.Shell.Tool
