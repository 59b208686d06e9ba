import HermesBundle.Shell.Process

/-! # Streams — reading and writing through descriptors

    A descriptor leads to an opening, and an opening to a file, a pipe or
    a device.  Reading from an empty pipe waits for someone to write, and
    writing to a full one waits for someone to read.  Who writes to a pipe
    that no one can read is killed, unless that signal is ignored. -/

namespace HermesBundle.Shell

/-- The signal for a pipe that no one reads. -/
def pipeSignal : Nat := 13

/-- How many octets a pipe holds. -/
def pipeLimit : Nat := 65536

/-- How many octets a program reads or writes at a time. -/
def blockSize : Nat := 4096

namespace Run

/-- The number of the opening that a descriptor leads to. -/
def openingNumber (descriptor : Nat) : Run (Option Nat) := do
  let s ← get
  return s.descriptors.lookup descriptor

/-- The opening that a descriptor leads to. -/
def opening (descriptor : Nat) : Run (Option (Nat × Opening)) := do
  let s ← get
  return do
    let number ← s.descriptors.lookup descriptor
    let o ← s.openings.lookup number
    return (number, o)

/-- Closes a descriptor. -/
def close (descriptor : Nat) : Run Unit := do
  let s ← get
  match s.descriptors.lookup descriptor with
  | none => return ()
  | some number =>
      set { s with
        toWorld := s.toWorld.release number
        descriptors := s.descriptors.filter fun (d, _) => d != descriptor }

/-- Lets a descriptor lead to an opening. -/
def connect (descriptor number : Nat) : Run Unit := do
  modify fun s => { s with toWorld := s.toWorld.retain number }
  close descriptor
  modify fun s => { s with descriptors := (descriptor, number) :: s.descriptors }

/-- Makes an opening, which is held by no descriptor yet. -/
def makeOpening (stream : Stream) (reads writes appends : Bool) : Run Nat := do
  let number ← fresh
  modify fun s => { s with
    openings := (number, ⟨stream, 0, reads, writes, appends, 0⟩) :: s.openings }
  return number

/-- Makes a pipe. -/
def makePipe (content : Octets) (limit : Option Nat) : Run Nat := do
  let number ← fresh
  modify fun s => { s with
    pipes := (number, ⟨content, [], content.length, limit⟩) :: s.pipes }
  return number

/-- Makes a pipe with an opening for each of its ends: the one to read from
    and the one to write to. -/
def makeChannel : Run (Nat × Nat) := do
  let pipe ← makePipe [] (some pipeLimit)
  let reader ← makeOpening (.pipe pipe) true false false
  let writer ← makeOpening (.pipe pipe) false true false
  return (reader, writer)

/-- Runs a piece and lets the descriptors lead where they led before, unless
    it ends in another program. -/
def keepingDescriptors {α : Type} (piece : Run α) : Run α := do
  let before := (← get).descriptors
  modify fun s => { s with toWorld := s.toWorld.retainAll before }
  let restore : Run Unit := modify fun s =>
    { s with toWorld := s.toWorld.releaseAll s.descriptors, descriptors := before }
  let a ← tryCatch piece fun stop => do
    match stop with
    | .replaced _ => modify fun s => { s with toWorld := s.toWorld.releaseAll before }
    | _ => restore
    throw stop
  restore
  return a

/-- Reads from an opening; nothing is left at the end. -/
def readFrom (number count : Nat) : Run (Except Errno Octets) := do
  let s ← get
  match s.openings.lookup number with
  | none => return .error .badDescriptor
  | some o =>
      if !o.reads then return .error .badDescriptor
      else
        match o.stream with
        | .node n => do
            let content := ((s.nodes.lookup n).map (·.content)).getD ByteArray.empty
            let stop := min content.size (o.offset + count)
            let taken := content.extract o.offset stop
            set { s with
              openings := changeAt s.openings number fun o =>
                { o with offset := o.offset + taken.size } }
            return .ok (Octets.ofArray taken)
        | .directory _ => return .error .isDirectory
        | .nothing => return .ok []
        | .zeros => return .ok (List.replicate count '\x00')
        | .full => return .ok (List.replicate count '\x00')
        | .pipe p => do
            await [.input p]
            let s ← get
            match s.pipes.lookup p with
            | none => return .ok []
            | some pipe => do
                let (taken, rest) := pipe.take count
                set { s with pipes := changeAt s.pipes p fun _ => rest }
                return .ok taken

/-- Content written over a part of another, or beyond its end. -/
def overwritten (content : ByteArray) (offset : Nat) (t : Octets) : ByteArray :=
  if offset = content.size then Octets.appendTo content t
  else
    let gap := List.replicate (offset - content.size) '\x00'
    let head := Octets.appendTo (content.extract 0 (min offset content.size)) gap
    let middle := Octets.appendTo head t
    middle.append (content.extract (offset + t.length) content.size)

/-- What comes of writing if that sends a signal.  It fails for a process that
    survives the signal. -/
def failBy (signal : Nat) (e : Errno) : Run (Option Errno) := do
  let s ← get
  match if s.deaf.contains signal then some "" else s.traps.lookup signal with
  | some "" => return some e
  | some _ => do
      set { s with pending := s.pending ++ [signal] }
      return some e
  | none => throw (.killed signal)

/-- What comes of writing to a pipe that no one reads. -/
def breakPipe : Run (Option Errno) := failBy pipeSignal .brokenPipe

/-- The signal that is sent to a process whose files grow too large. -/
def sizeSignal : Nat := 25

/-- Writes to the content of a file through an opening, from some place on. -/
def writeNode (number node offset : Nat) (t : Octets) : Run Unit :=
  modify fun s => { s with
    nodes := changeAt s.nodes node fun node =>
      { node with content := overwritten node.content offset t, modified := s.toWorld.now }
    openings := changeAt s.openings number fun o => { o with offset := offset + t.length } }

/-- Writes to a pipe as it has room. -/
def writePipe (p : Nat) : Nat → Octets → Run (Option Errno)
  | 0, _ => return none
  | _, [] => return none
  | fuel + 1, t => do
      let s ← get
      if !s.toWorld.hasEnd p false then breakPipe
      else
        match s.pipes.lookup p with
        | none => return none
        | some pipe =>
            let room := match pipe.limit with
              | some limit => limit - pipe.size
              | none => t.length
            if room = 0 then do
              await [.room p]
              writePipe p fuel t
            else do
              set { s with pipes := changeAt s.pipes p fun pipe => pipe.push (t.take room) }
              writePipe p fuel (t.drop room)

/-- Writes to an opening; the cause is returned if that fails. -/
def writeTo (number : Nat) (t : Octets) : Run (Option Errno) := do
  let s ← get
  match s.openings.lookup number with
  | none => return some .badDescriptor
  | some o =>
      if !o.writes then return some .badDescriptor
      else
        match o.stream with
        | .node n => do
            if t.isEmpty then return none
            let size := ((s.nodes.lookup n).map (·.content.size)).getD 0
            let offset := if o.appends then size else o.offset
            match (s.limits.lookup 'f').bind Limit.soft with
            | none => do
                writeNode number n offset t
                return none
            | some limit => do
                -- What fits is written before the rest is refused.
                let room := limit - offset
                if room != 0 then writeNode number n offset (t.take room)
                if t.length ≤ room then return none else failBy sizeSignal .fileTooLarge
        | .directory _ => return some .isDirectory
        | .nothing => return none
        | .zeros => return none
        | .full => return if t.isEmpty then none else some .noSpace
        | .pipe p => writePipe p (2 * t.length + 2) t

/-- Reads from a descriptor; nothing is left at the end. -/
def read (descriptor count : Nat) : Run (Except Errno Octets) := do
  match ← openingNumber descriptor with
  | none => return .error .badDescriptor
  | some number => readFrom number count

/-- Writes to a descriptor; the cause is returned if that fails. -/
def write (descriptor : Nat) (t : Octets) : Run (Option Errno) := do
  match ← openingNumber descriptor with
  | none => return some .badDescriptor
  | some number => writeTo number t

/-- Reads all that is left behind a descriptor, in reverse order of the
    blocks. -/
def readBlocks (descriptor : Nat) : Nat → List Octets → Run (Except Errno Octets)
  | 0, blocks => return .ok blocks.reverse.flatten
  | fuel + 1, blocks => do
      match ← read descriptor pipeLimit with
      | .error e => return .error e
      | .ok [] => return .ok blocks.reverse.flatten
      | .ok block => readBlocks descriptor fuel (block :: blocks)

/-- How many blocks are read at most. -/
def blockLimit : Nat := 10000

/-- Reads all that is left behind a descriptor. -/
def readAll (descriptor : Nat) : Run (Except Errno Octets) := readBlocks descriptor blockLimit []

/-- Reads all that is left behind an opening, after the blocks that are
    given in reverse. -/
def readOpening (number : Nat) : Nat → List Octets → Run Octets
  | 0, blocks => return blocks.reverse.flatten
  | fuel + 1, blocks => do
      match ← readFrom number pipeLimit with
      | .ok (c :: rest) => readOpening number fuel ((c :: rest) :: blocks)
      | _ => return blocks.reverse.flatten

/-- Writes to the error output. -/
def report (t : Octets) : Run Unit := do
  let _ ← write 2 t

/-! ## Input and output of programs -/

/-- Writes what a program has not yet written to its output.  What cannot be
    written is lost. -/
def flush : Run (Option Errno) := do
  let s ← get
  if s.unwrittenSize = 0 then return none
  else do
    set { s with unwritten := [], unwrittenSize := 0 }
    let failure ← write 1 s.unwritten.reverse.flatten
    if failure.isSome then modify fun s => { s with lost := failure }
    return failure

/-- Prints octets, which are written when there are enough of them.  A program
    that cannot write them ends; a builtin goes on. -/
def print (t : Octets) : Run Unit := do
  let s ← get
  let size := s.unwrittenSize + t.length
  set { s with unwritten := t :: s.unwritten, unwrittenSize := size }
  if blockSize ≤ size then
    let failure ← flush
    if failure.isSome && (← get).running.isNone then do
      -- There is something left, so that it is told of at the end.
      modify fun s => { s with unwritten := [t], unwrittenSize := t.length }
      throw (.exited 1)

/-- Prints a string. -/
def printString (t : String) : Run Unit := print t.toList

/-- Prints a line. -/
def printLine (t : Octets) : Run Unit := print (t ++ ['\n'])

/-- What a program has read from a descriptor and not yet used. -/
def unreadFrom (descriptor : Nat) : Run Octets := do
  let s ← get
  return (s.unread.lookup descriptor).getD []

/-- Keeps what a program has read from a descriptor and not yet used. -/
def keepUnread (descriptor : Nat) (t : Octets) : Run Unit :=
  modify fun s => { s with
    unread :=
      let others := s.unread.filter fun (d, _) => d != descriptor
      if t.isEmpty then others else (descriptor, t) :: others }

/-- Reads a record that ends in some character, with the end if it has
    one.  The pieces read so far are in reverse. -/
def readRecordLoop (descriptor : Nat) (ending : Char) :
    Nat → List Octets → Run (Except Errno Octets)
  | 0, pieces => return .ok pieces.reverse.flatten
  | fuel + 1, pieces => do
      let block ← match ← unreadFrom descriptor with
        | [] => read descriptor blockSize
        | t => pure (.ok t)
      match block with
      | .error e => return .error e
      | .ok [] => return .ok pieces.reverse.flatten
      | .ok t => do
          let line := t.takeWhile (· != ending)
          match t.drop line.length with
          | [] => do
              keepUnread descriptor []
              readRecordLoop descriptor ending fuel (t :: pieces)
          | c :: rest => do
              keepUnread descriptor rest
              return .ok ((line ++ [c]) :: pieces).reverse.flatten

/-- Reads a record that ends in some character, with the end if it has one;
    nothing is left at the end of the input. -/
def readRecord (descriptor : Nat) (ending : Char) : Run (Except Errno Octets) :=
  readRecordLoop descriptor ending blockLimit []

/-- Gives back what a program has read and not used, if what it reads from
    can be read again. -/
def giveBack (descriptor : Nat) : Run Unit := do
  let t ← unreadFrom descriptor
  keepUnread descriptor []
  match ← opening descriptor with
  | some (number, o) =>
      match o.stream with
      | .node _ =>
          modify fun s => { s with
            openings := changeAt s.openings number fun o =>
              { o with offset := o.offset - t.length } }
      | _ => return ()
  | none => return ()

end Run

end HermesBundle.Shell
