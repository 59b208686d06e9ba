import HermesBundle.Shell.Disk
import HermesBundle.Shell.Records.Lookup
import HermesBundle.Shell.Records.Reader
import HermesBundle.Shell.Tools.Starting
import Std.Data.HashMap

/-! # Machines — what a program for records has at hand

    There are the variables of the program and of the function that is
    being run, the record with its fields, and the files and commands that
    are read from and written to.  A record is divided into fields when
    one is asked for, but as the separator was when the record was read.
    What is written is kept until there is enough of it. -/

namespace HermesBundle.Shell.Records

/-- What a parameter of a function holds. -/
inductive Slot where
  | datum (d : Datum)
  | lookup (number : Nat)

/-- What records are read from. -/
structure Supply where
  descriptor : Nat
  /-- All that is left, if it had to be read at once. -/
  whole : Option Octets
  /-- Whether nothing has been read. -/
  isFresh : Bool

/-- What can be read from a descriptor. -/
def Supply.at_ (descriptor : Nat) : Supply := ⟨descriptor, none, true⟩

/-- What a file or a command is used for. -/
inductive Use where
  | input
  | output
  | commandInput
  | commandOutput
deriving DecidableEq

/-- A file or a command in use. -/
structure Channel where
  name : Octets
  use : Use
  supply : Supply
  process : Option Nat
  /-- What is to be written, the latest first. -/
  waiting : List Octets
  size : Nat
  /-- How much is kept before it is written. -/
  limit : Nat
  /-- Why something that was waiting could not be written. -/
  fault : Option Errno

/-- Why a piece of work is left. -/
inductive Jump where
  | next
  | nextFile
  | leave
  | again
  | return_ (d : Datum)
  | exit
  /-- Something is wrong, which has been told. -/
  | fail

/-- The state of a program that is run. -/
structure Machine where
  routines : Std.HashMap String Routine
  shared : Std.HashMap String Datum
  /-- The numbers of the lookups of the program. -/
  sharedLookups : Std.HashMap String Nat
  lookups : Array Lookup
  frame : Array Slot
  record : Octets
  fields : Array Datum
  /-- What the number of fields was set to, as it was given. -/
  givenCount : Option Datum
  isDivided : Bool
  /-- The ranges that have begun. -/
  ranges : List Nat
  /-- The input that is being read, and which argument is next. -/
  input : Option Supply
  nextArgument : Nat
  hadFile : Bool
  isOver : Bool
  channels : List Channel
  matchers : Std.HashMap String Matcher
  seed : Datum
  random : Nat
  status : Nat

/-- A piece of work of a program. -/
abbrev Work := ExceptT Jump (StateT Machine Run)

namespace Work

/-- What a piece of work ends with, as a value. -/
def attempt {α : Type} (w : Work α) : Work (Except Jump α) :=
  ExceptT.mk do
    let r ← w.run
    return .ok r

/-- Says something besides the output. -/
def tell (t : String) : Work Unit := do
  let called ← (Run.called : Run String)
  (Run.report (called ++ ": " ++ t ++ "\n").toList : Run Unit)

/-- Tells what is wrong and ends the program. -/
def fail {α : Type} (t : String) : Work α := do
  tell t
  modify fun m => { m with status := 2 }
  throw .fail

/-! ## Variables -/

/-- The datum of a variable of the program. -/
def sharedDatum (name : String) : Work Datum := do
  return (← get).shared.getD name .unset

/-- Sets a variable of the program and nothing else. -/
def setShared (name : String) (d : Datum) : Work Unit :=
  modify fun m => { m with shared := m.shared.insert name d }

/-- How numbers become texts. -/
def conversion : Work NumberFormat := do
  match ← sharedDatum "CONVFMT" with
  | .text t => return t
  | d => return d.toText "%.6g".toList

/-- A datum as a text. -/
def textOf (d : Datum) : Work Octets := do
  match d with
  | .number x => return writeNumber (← conversion) x
  | d => return d.toText []

/-- A variable of the program as a text. -/
def sharedText (name : String) : Work Octets := do
  textOf (← sharedDatum name)

/-- Tells what is wrong with what the program does, and where in the input,
    and ends the program. -/
def failHere {α : Type} (t : String) : Work α := do
  let file ← sharedText "FILENAME"
  let fnr ← sharedText "FNR"
  let nr ← sharedText "NR"
  fail ("run time error: " ++ t ++ "\n\tFILENAME=\x22" ++ String.ofList file ++ "\x22 FNR="
    ++ String.ofList fnr ++ " NR=" ++ String.ofList nr)

/-- The search that a text stands for. -/
def matcher (t : Octets) : Work Matcher := do
  let key := String.ofList t
  match (← get).matchers[key]? with
  | some m => return m
  | none =>
      match Reader.matcherOf t with
      | .ok m => do
          modify fun s => { s with matchers := s.matchers.insert key m }
          return m
      | .error e => failHere (Reader.matcherFault e t)

/-! ## Dividing -/

/-- What stands between pieces of a text. -/
inductive Separator where
  | blanks
  /-- Nothing stands between the octets. -/
  | nothing
  | octet (c : Char)
  | matcher (m : Matcher)

/-- The separator that a text stands for. -/
def separatorOf (t : Octets) : Work Separator := do
  match t with
  | [] => return .nothing
  | [' '] => return .blanks
  | [c] => return .octet c
  | t => return .matcher (← matcher t)

/-- The pieces between blanks, gathered in reverse. -/
def blankPieces : Nat → Octets → List Octets → List Octets
  | 0, _, found => found.reverse
  | fuel + 1, t, found =>
      let isBetween := fun (c : Char) => isGap c || c == '\n'
      let rest := t.dropWhile isBetween
      if rest.isEmpty then found.reverse
      else
        let piece := rest.takeWhile fun c => !isBetween c
        blankPieces fuel (rest.drop piece.length) (piece :: found)

/-- The pieces between the matches of an expression that are not empty,
    gathered in reverse. -/
def matchPieces (r : Search) (s : Subject) : Nat → Nat → Nat → List Octets → List Octets
  | 0, start, _, found => (s.slice start s.size :: found).reverse
  | fuel + 1, start, place, found =>
      match r.find? s place with
      | none => (s.slice start s.size :: found).reverse
      | some f =>
          if f.finish = f.start then
            if s.size ≤ f.start then (s.slice start s.size :: found).reverse
            else matchPieces r s fuel start (f.start + 1) found
          else matchPieces r s fuel f.finish f.finish (s.slice start f.start :: found)

/-- The pieces of a text. -/
def pieces (separator : Separator) (t : Octets) : List Octets :=
  if t.isEmpty then []
  else
    match separator with
    | .blanks => blankPieces (t.length + 1) t []
    | .nothing => t.map fun c => [c]
    | .octet c => splitOn c t
    | .matcher m => matchPieces m.search (Subject.ofOctets false t) (t.length + 1) 0 0 []

/-! ## The record -/

/-- Divides the record into fields. -/
def divide : Work Unit := do
  let m ← get
  if m.isDivided then return ()
  else do
    let separator ← separatorOf (← sharedText "FS")
    modify fun m => { m with
      fields := ((pieces separator m.record).map Datum.input).toArray, isDivided := true }

/-- Sets the record. -/
def setRecord (t : Octets) : Work Unit :=
  modify fun m => { m with record := t, fields := #[], givenCount := none, isDivided := false }

/-- Makes the record out of its fields. -/
def rejoin : Work Unit := do
  let separator ← sharedText "OFS"
  let format ← conversion
  modify fun m => { m with
    record := joinWith separator (m.fields.toList.map (Datum.toText format)) }

/-- The greatest number of a field. -/
def fieldLimit : Nat := 1000000

/-- The number of a field. -/
def fieldNumber (d : Datum) : Work Nat := do
  let x := d.toNumber
  let i := wordOf x
  if x < 0 || i < 0 then
    failHere ("negative field index $" ++ String.ofList (shownNumber [] 0 none 'g' [] x))
  else if (fieldLimit : Int) < i then failHere ("maximum field index exceeded")
  else return i.toNat

/-- The datum of a field. -/
def field (n : Nat) : Work Datum := do
  if n = 0 then return .input (← get).record
  else do
    divide
    return ((← get).fields[n - 1]?).getD (.text [])

/-- Fields with as many as some number says. -/
def resized (fields : Array Datum) (n : Nat) : Array Datum :=
  if n ≤ fields.size then fields.extract 0 n
  else fields ++ Array.replicate (n - fields.size) (Datum.text [])

/-- Sets a field. -/
def setField (n : Nat) (d : Datum) : Work Unit := do
  if n = 0 then setRecord (← textOf d)
  else do
    divide
    modify fun m => { m with
      givenCount := if m.fields.size < n then none else m.givenCount
      fields := (resized m.fields (max n m.fields.size)).modify (n - 1) fun _ => d }
    rejoin

/-- Sets the number of fields. -/
def setFieldCount (d : Datum) : Work Unit := do
  divide
  let i := signedBits 32 (wordOf d.toNumber)
  if i < 0 then failHere "negative value assigned to NF"
  else do
    modify fun m => { m with fields := resized m.fields (min i.toNat fieldLimit), givenCount := some d }
    rejoin

/-- The datum of a variable of the program, which may be counted first. -/
def readShared (name : String) : Work Datum := do
  if name == "NF" then do
    divide
    let m ← get
    return m.givenCount.getD (.ofNat m.fields.size)
  else sharedDatum name

/-- Sets a variable of the program with all that follows from it. -/
def assignShared (name : String) (d : Datum) : Work Unit := do
  if name == "NF" then setFieldCount d
  else do
    if name == "FS" then
      divide
      let _ ← separatorOf (← textOf d)
    if name == "RS" then
      let _ ← separatorOf (← textOf d)
    if name == "CONVFMT" || name == "OFMT" then
      let t ← textOf d
      if !isNumberFormat t then
        failHere ("illegal format assigned to " ++ name ++ ": " ++ String.ofList t)
    setShared name d

/-- Counts a record of the input. -/
def countRecord (inFile : Bool) : Work Unit := do
  let up := fun (name : String) => do
    setShared name (.number ((← sharedDatum name).toNumber + 1))
  up "NR"
  if inFile then up "FNR"

/-! ## Lookups -/

/-- The number of the lookup of a name. -/
def lookupNumber (n : Name) : Work Nat := do
  let m ← get
  match n with
  | .shared name =>
      match m.sharedLookups[name]? with
      | some k => return k
      | none => do
          let k := m.lookups.size
          set { m with lookups := m.lookups.push .empty, sharedLookups := m.sharedLookups.insert name k }
          return k
  | .parameter i =>
      match m.frame[i]? with
      | some (.lookup k) => return k
      | _ => do
          let k := m.lookups.size
          set { m with lookups := m.lookups.push .empty, frame := m.frame.modify i fun _ => .lookup k }
          return k

/-- Does something with a lookup, which is out of its place meanwhile. -/
def withLookup {α : Type} (k : Nat) (f : Lookup → α × Lookup) : Work α :=
  modifyGet fun m =>
    let l := m.lookups[k]?.getD .empty
    let m := { m with lookups := m.lookups.modify k fun _ => .empty }
    let (a, l) := f l
    (a, { m with lookups := m.lookups.modify k fun _ => l })

/-- Changes a lookup. -/
def changeLookup (k : Nat) (f : Lookup → Lookup) : Work Unit := withLookup k fun l => ((), f l)

/-- The index that a datum stands for. -/
def indexOf (d : Datum) : Work Index := do
  match d with
  | .number x =>
      match truncated x with
      | some i =>
          if floatOf i == x && i.natAbs < Nat.pow 2 53 then return .integer i
          else return .text (← textOf d)
      | none => return .text (← textOf d)
  | d => return .text (← textOf d)

/-! ## Output -/

/-- Writes what is waiting in a channel; the cause is returned if that
    fails. -/
def flushChannel (c : Channel) : Work (Channel × Option Errno) := do
  if c.waiting.isEmpty then return (c, none)
  else do
    let e ← (Run.write c.supply.descriptor c.waiting.reverse.flatten : Run (Option Errno))
    return ({ c with waiting := [], size := 0, fault := e <|> c.fault }, e)

/-- Whether a channel is one that is written to. -/
def isWritten (c : Channel) : Bool := c.use = .output || c.use = .commandOutput

/-- Puts a channel first. -/
def keepFirst (c : Channel) : Work Unit :=
  modify fun m => { m with
    channels := c :: m.channels.filter fun d => !(d.name == c.name && d.use = c.use) }

/-- Changes a channel where it is. -/
def keepChannel (c : Channel) : Work Unit :=
  modify fun m => { m with
    channels := m.channels.map fun d => if d.name == c.name && d.use = c.use then c else d }

/-- What is said of output that could not be written. -/
def writeFault (e : Errno) : String := "write failure (" ++ e.text ++ ")"

/-- Writes to a channel, which is then the first one.  Who goes on writing
    where something could not be written fails. -/
def writeChannel (c : Channel) (t : Octets) : Work Unit := do
  let c := { c with waiting := t :: c.waiting, size := c.size + t.length }
  match c.fault with
  | some e => do
      keepFirst c
      fail (writeFault e)
  | none =>
      if c.limit ≤ c.size then do
        let (c, e) ← flushChannel c
        keepFirst c
        match e with
        | none => return ()
        | some e => do
            -- What could not be written is told of again at the end.
            keepFirst { c with waiting := [t] }
            fail (writeFault e)
      else keepFirst c

/-- Writes what is waiting in some channels; whether that could be done is
    returned.  What cannot be written is lost, which can be told. -/
def flushSome (tells : Bool) (isChosen : Channel → Bool) : Work Bool := do
  let mut isWell := true
  for c in (← get).channels do
    if isWritten c && isChosen c then
      let (c, e) ← flushChannel c
      keepChannel c
      match e with
      | none => pure ()
      | some e => do
          isWell := false
          if tells then tell ("unexpected write error (" ++ e.text ++ ")")
  return isWell

/-- Writes what is waiting in all channels. -/
def flushAll : Work Bool := flushSome true fun _ => true

/-- The channel of the output. -/
def outputName : Octets := "/dev/stdout".toList

/-- Writes what is waiting for the output. -/
def flushOutput : Work Bool := flushSome false fun c => c.name == outputName

/-! ## Commands -/

/-- What a shell that runs a command by itself is called. -/
def shellName : String := "sh"

/-- Starts a command with some of its descriptors leading elsewhere, in a
    shell that is called by some name. -/
def startCommand (called : String) (command : Octets) (changes : List (Nat × Nat)) : Run Nat := do
  let kept := (← get).descriptors
  let own := kept.filter fun (d, _) => d < 3 && (changes.lookup d).isNone
  match ← Tool.imageWith (← Tool.givenVariables) shellPath ["-c", String.ofList command] with
  | .error _ => return 0
  | .ok image => do
      modify fun s => { s with descriptors := changes ++ own }
      let process ← Run.fork (.image { image with called := called })
      modify fun s => { s with descriptors := kept }
      return process

/-- The number that tells how a command ended. -/
def endingNumber : Ending → Nat
  | .exited status => status
  | .killed signal => 256 + signal

/-- Runs a command up to its end. -/
def runCommand (command : Octets) : Work Nat := do
  let _ ← flushAll
  let process ← (startCommand shellName command [] : Run Nat)
  return endingNumber (← (Run.join process : Run Ending))

/-- The channel of a name and a use. -/
def channel? (name : Octets) (use : Use) : Work (Option Channel) := do
  return (← get).channels.find? fun c => c.name == name && c.use = use

/-- How much is kept before it is written. -/
def channelLimit : Nat := 4096

/-- The channel of a command. -/
def openCommand (command : Octets) (writes : Bool) : Work Channel := do
  let _ ← flushOutput
  let (reader, writer) ← (Run.makeChannel : Run (Nat × Nat))
  let process ← (startCommand shellPath command [if writes then (0, reader) else (1, writer)] : Run Nat)
  let descriptor ← (Run.freeDescriptor 3 : Run Nat)
  (Run.connect descriptor (if writes then writer else reader) : Run Unit)
  let c : Channel :=
    ⟨command, if writes then .commandOutput else .commandInput, (.at_ descriptor), some process, [], 0,
      channelLimit, none⟩
  keepFirst c
  return c

/-- The channel of a file that is written to. -/
def openOutput (name : Octets) (atEnd : Bool) : Work Channel := do
  let path := String.ofList name
  match ← (Run.openAs path (if atEnd then .append else .write) : Run (Except Errno Nat)) with
  | .ok descriptor => do
      let c : Channel := ⟨name, .output, (.at_ descriptor), none, [], 0, channelLimit, none⟩
      keepFirst c
      return c
  | .error e => fail ("cannot open \x22" ++ path ++ "\x22 for output (" ++ e.text ++ ")")

/-- What is said of a file that could not be closed. -/
def closeFault (name : Octets) (e : Errno) : String :=
  "close failed on file \x22" ++ String.ofList name ++ "\x22 (" ++ e.text ++ ")"

/-- Closes a channel; how its command ended is returned. -/
def closeChannel (c : Channel) : Work (Nat × Option Errno) := do
  let (c, e) ← if isWritten c then flushChannel c else pure (c, none)
  let number ← (Run.openingNumber c.supply.descriptor : Run (Option Nat))
  let e := if number.isNone then some Errno.badDescriptor else e
  modify fun m => { m with
    channels := m.channels.filter fun d => !(d.name == c.name && d.use = c.use) }
  (Run.keepUnread c.supply.descriptor [] : Run Unit)
  (Run.close c.supply.descriptor : Run Unit)
  match c.process with
  | none => return (0, e)
  | some process => do
      let ending ← (Run.join process : Run Ending)
      return (endingNumber ending, e)

/-- Closes all channels of a name; the number that tells of the last one is
    returned, or minus one. -/
def closeNamed (name : Octets) : Work Int := do
  let mut result : Int := -1
  for c in (← get).channels.filter fun c => c.name == name do
    let (n, e) ← closeChannel c
    match e with
    | some e => fail (closeFault c.name e)
    | none => result := n
  return result

/-! ## Input -/

/-- What is said of a file that could not be opened. -/
def openFault (path : String) (e : Errno) : String :=
  "cannot open \x22" ++ path ++ "\x22 (" ++ e.text ++ ")"

/-- What is said of input that could not be read. -/
def readFault (e : Errno) : String := "read error (" ++ e.text ++ ")"

/-- All that is left of a supply. -/
def wholeOf (s : Supply) : Work Octets := do
  match s.whole with
  | some t => return t
  | none => do
      let before ← (Run.unreadFrom s.descriptor : Run Octets)
      (Run.keepUnread s.descriptor [] : Run Unit)
      match ← (Run.readAll s.descriptor : Run (Except Errno Octets)) with
      | .ok t => return before ++ t
      | .error e => fail (readFault e)

/-- The place of two ends of lines in a row, and what is before it. -/
def paragraph : Octets → Octets → Octets × Octets
  | [], done => (done.reverse, [])
  | '\n' :: '\n' :: rest, done => (done.reverse, rest.dropWhile (· == '\n'))
  | ['\n'], done => (done.reverse, [])
  | c :: rest, done => paragraph rest (c :: done)

/-- The next record of a supply. -/
def takeRecord (given : Supply) : Work (Option Octets × Supply) := do
  let s := { given with isFresh := false }
  let separator ← sharedText "RS"
  match separator, s.whole with
  | [c], none => do
      match ← (Run.readRecord s.descriptor c : Run (Except Errno Octets)) with
      | .error e => fail (readFault e)
      | .ok [] => return (none, s)
      | .ok t => return (some (if t.getLast? == some c then t.dropLast else t), s)
  | _, _ => do
      let t ← wholeOf s
      let keep := fun (rest : Octets) => { s with whole := some rest }
      match separator with
      | [c] =>
          if t.isEmpty then return (none, keep [])
          else
            let record := t.takeWhile (· != c)
            return (some record, keep (t.drop (record.length + 1)))
      | [] =>
          let t := if given.isFresh then t.dropWhile (· == '\n') else t
          if t.isEmpty then return (none, keep [])
          else
            let (record, rest) := paragraph t []
            return (some record, keep rest)
      | separator =>
          if t.isEmpty then return (none, keep [])
          else do
            let m ← matcher separator
            let subject := Subject.ofOctets false t
            match firstMatch m.search subject (t.length + 1) 0 with
            | some f => return (some (t.take f.start), keep (t.drop f.finish))
            | none => return (some t, keep [])
where
  /-- The first match that is not empty. -/
  firstMatch (r : Search) (s : Subject) : Nat → Nat → Option Found
    | 0, _ => none
    | fuel + 1, i =>
        match r.find? s i with
        | none => none
        | some f =>
            if f.start < f.finish then some f
            else if s.size ≤ f.start then none
            else firstMatch r s fuel (f.start + 1)

/-- The name and the value of an argument that assigns one. -/
def assignmentOf (t : Octets) : Option (String × Octets) :=
  let name := leadingName t
  match name, t.drop name.length with
  | _ :: _, '=' :: value => some (String.ofList name, value)
  | _, _ => none

/-- Assigns as an argument says. -/
def assignArgument (name : String) (value : Octets) : Work Unit :=
  assignShared name (.input (withoutEscapes value))

/-- Opens a file that is read. -/
def openSupply (path : Octets) : Work (Except Errno Supply) := do
  let name := String.ofList path
  if name == "-" || name == "/dev/stdin" then return .ok (.at_ 0)
  else
    match ← (Run.openAs name .read : Run (Except Errno Nat)) with
    | .ok d => return .ok (.at_ d)
    | .error e => return .error e

/-- Opens the next file of the input; there may be none. -/
def nextInput : Nat → Work (Option Supply)
  | 0 => return none
  | fuel + 1 => do
      let m ← get
      if m.isOver then return none
      else do
        let arguments ← lookupNumber (.shared "ARGV")
        let count := clampedInteger (← sharedDatum "ARGC").toNumber 0 largestWord
        let i := m.nextArgument
        if count ≤ i then do
          if m.hadFile then
            modify fun m => { m with isOver := true }
            return none
          else do
            modify fun m => { m with hadFile := true }
            begin_ "-".toList (.at_ 0)
        else do
          modify fun m => { m with nextArgument := i + 1 }
          let isThere ← withLookup arguments fun l => l.contains (.integer i)
          if !isThere then nextInput fuel
          else do
            let t ← textOf (← withLookup arguments fun l => l.get (.integer i))
            if t.isEmpty then nextInput fuel
            else
              match assignmentOf t with
              | some (name, value) => do
                  assignArgument name value
                  nextInput fuel
              | none => do
                  modify fun m => { m with hadFile := true }
                  match ← openSupply t with
                  | .ok s => begin_ t s
                  | .error e => fail (openFault (String.ofList t) e)
where
  /-- Begins with a file. -/
  begin_ (name : Octets) (s : Supply) : Work (Option Supply) := do
    setShared "FILENAME" (.text name)
    setShared "FNR" (.number 0)
    modify fun m => { m with input := some s }
    return some s

/-- Leaves the file that is being read. -/
def leaveInput : Work Unit := do
  match (← get).input with
  | none => return ()
  | some s => do
      modify fun m => { m with input := none }
      (Run.keepUnread s.descriptor [] : Run Unit)
      if s.descriptor != 0 then
        (Run.close s.descriptor : Run Unit)

/-- The next record of the input. -/
def nextRecord : Nat → Work (Option Octets)
  | 0 => return none
  | fuel + 1 => do
      let m ← get
      let supply ← match m.input with
        | some s => pure (some s)
        | none => nextInput (m.nextArgument + 1000000)
      match supply with
      | none => return none
      | some s => do
          let (t, s) ← takeRecord s
          match t with
          | some t => do
              modify fun m => { m with input := some s }
              return some t
          | none => do
              leaveInput
              nextRecord fuel

/-- The channel that records are read from. -/
def inputChannel (name : Octets) (isCommand : Bool) : Work (Option Channel) := do
  let use : Use := if isCommand then .commandInput else .input
  match ← channel? name use with
  | some c => return some c
  | none =>
      if isCommand then some <$> openCommand name false
      else
        match ← openSupply name with
        | .error _ => return none
        | .ok s => do
            let c : Channel := ⟨name, .input, s, none, [], 0, 0, none⟩
            keepFirst c
            return some c

/-- The channel that output goes to. -/
def outputChannel (name : Octets) (isCommand atEnd : Bool) : Work Channel := do
  let use : Use := if isCommand then .commandOutput else .output
  match ← channel? name use with
  | some c => return c
  | none => if isCommand then openCommand name true else openOutput name atEnd

/-- The channels that are there from the start. -/
def firstChannels : List Channel :=
  [⟨outputName, .output, (.at_ 1), none, [], 0, channelLimit, none⟩,
   ⟨"/dev/stderr".toList, .output, (.at_ 2), none, [], 0, 0, none⟩]

/-- Closes what is still open at the end: first the commands that are
    written to, then the files.  The output and the error output come last. -/
def closeAll : Work Unit := do
  for c in (← get).channels.filter fun c => c.use = .commandOutput do
    let _ ← closeChannel c
  let files := (← get).channels.filter fun c => c.use = .output
  let (own, others) := files.partition fun c => c.supply.descriptor < 3
  let (output, errors) := own.partition fun c => c.name == outputName
  for c in others ++ output ++ errors do
    let (_, e) ← closeChannel c
    match e with
    | none => pure ()
    | some e => do
        tell (closeFault c.name e)
        modify fun m => { m with status := 2 }

end Work

end HermesBundle.Shell.Records
