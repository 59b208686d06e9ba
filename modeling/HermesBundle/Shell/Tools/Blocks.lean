import HermesBundle.Shell.Tools.Numbers

/-! # Blocks — copies in blocks of some size

    What is read in blocks of one size is written in blocks of another, or
    as it was read if both sizes are given as one.  On the way letters can
    be raised or lowered, neighbours exchanged, and lines made into records
    of a fixed length or the other way round. -/

namespace HermesBundle.Shell.Tool

/-- What a copy in blocks does. -/
structure BlockPlan where
  input : Option String
  output : Option String
  /-- How much is read and written at a time. -/
  readSize : Nat
  writeSize : Nat
  /-- Whether every block is written as it was read. -/
  isDirect : Bool
  /-- The length of the records that lines are made into. -/
  recordSize : Nat
  /-- How many blocks and how many octets are read. -/
  count : Option (Nat × Bool)
  skip : Nat × Bool
  seek : Nat × Bool
  conversions : List String
  inputFlags : List String
  outputFlags : List String
  level : String

namespace BlockPlan

/-- The plan when nothing is said. -/
def basic : BlockPlan :=
  ⟨none, none, 512, 512, false, 0, none, (0, false), (0, false), [], [], [], "default"⟩

/-- Whether a conversion is asked for. -/
def converts (p : BlockPlan) (name : String) : Bool := p.conversions.contains name

end BlockPlan

/-- What can be asked for as a conversion. -/
def conversionNames : List String :=
  ["ascii", "ebcdic", "ibm", "block", "unblock", "lcase", "ucase", "sparse", "swab", "noerror",
   "nocreat", "excl", "notrunc", "sync", "fdatasync", "fsync"]

/-- What can be asked for as a flag. -/
def blockFlags : List String :=
  ["append", "direct", "directory", "dsync", "noatime", "nocache", "noctty", "nofollow",
   "nolinks", "nonblock", "sync", "text", "binary", "fullblock", "count_bytes", "skip_bytes",
   "seek_bytes"]

/-! ## Arguments -/

/-- The factors of a count, and whether it ends in the unit of octets. -/
def blockFactors : Nat → Octets → Except QuantityFault (Nat × Bool × Bool)
  | 0, _ => .error .invalid
  | fuel + 1, t =>
      let digits := t.takeWhile isDigit
      let after := t.drop digits.length
      let unit := after.takeWhile (· != 'x')
      let rest := after.drop unit.length
      if digits.isEmpty && unit.isEmpty then .error .invalid
      else
        let inOctets := unit.getLast? == some 'B' && (unit.length < 2 || unit.dropLast.getLast? != some 'B')
        let factor : Option (Nat × Bool) :=
          match unitFactor "bcEGkKMPQRTwYZ" unit with
          | some n => some (n, false)
          | none =>
              if inOctets then (unitFactor "bcEGkKMPQRTwYZ" unit.dropLast).map fun n => (n, true)
              else none
        match factor with
        | none => .error .invalid
        | some (factor, isOctets) =>
            let n := (if digits.isEmpty then 1 else valueOfDigits 10 digits) * factor
            match rest with
            | [] => if Nat.pow 2 63 ≤ n then .error .tooLarge else .ok (n, isOctets, false)
            | _ :: rest =>
                if isOctets then .error .invalid
                else
                  match blockFactors fuel rest with
                  | .error e => .error e
                  | .ok (m, isOctets, isZero) =>
                      if Nat.pow 2 63 ≤ n * m then .error .tooLarge
                      else .ok (n * m, isOctets, isZero || (digits == ['0'] && unit.isEmpty))

/-- The count of an argument, and whether it is one of octets. -/
def blockCount (lowest : Nat) (t : String) : Run (Nat × Bool) := do
  match blockFactors (t.length + 1) t.toList with
  | .error e => Run.quit 1 ("invalid number: " ++ (← Run.quoted t) ++ faultText e)
  | .ok (n, isOctets, isZero) => do
      if isZero then
        Run.objection ("warning: " ++ (← Run.inQuotes "0x") ++ " is a zero multiplier; use "
          ++ (← Run.inQuotes "00x") ++ " if that is intended")
      if n < lowest then Run.quit 1 ("invalid number: " ++ (← Run.quoted t))
      return (n, isOctets)

/-- The names in a list of them; each has to be among the known ones. -/
def blockNames (known : List String) (what t : String) : Run (List String) := do
  let names := (splitOn ',' t.toList).map fun name => String.ofList name
  match names.find? fun name => !known.contains name with
  | some name => Run.misuse 1 ("invalid " ++ what ++ ": " ++ (← Run.inQuotes name))
  | none => return names

/-- The plan after an argument. -/
def blockArgument (p : BlockPlan) (argument : String) : Run BlockPlan := do
  let t := argument.toList
  let name := String.ofList (t.takeWhile (· != '='))
  let value := String.ofList (t.drop (name.length + 1))
  let unknown : Run BlockPlan := do Run.misuse 1 ("unrecognized operand " ++ (← Run.quoted argument))
  if !t.contains '=' then unknown
  else
    match name with
    | "if" => return { p with input := some value }
    | "of" => return { p with output := some value }
    | "conv" => do
        return { p with conversions := p.conversions ++ (← blockNames conversionNames "conversion" value) }
    | "iflag" => do
        return { p with inputFlags := p.inputFlags ++ (← blockNames blockFlags "input flag" value) }
    | "oflag" => do
        return { p with outputFlags := p.outputFlags ++ (← blockNames blockFlags "output flag" value) }
    | "status" =>
        if ["none", "noxfer", "progress"].contains value then return { p with level := value }
        else do Run.misuse 1 ("invalid status level: " ++ (← Run.inQuotes value))
    | "ibs" => do return { p with readSize := (← blockCount 1 value).1 }
    | "obs" => do return { p with writeSize := (← blockCount 1 value).1 }
    | "bs" => do
        let n := (← blockCount 1 value).1
        return { p with readSize := n, writeSize := n, isDirect := true }
    | "cbs" => do return { p with recordSize := (← blockCount 1 value).1 }
    | "skip" => do return { p with skip := ← blockCount 0 value }
    | "iseek" => do return { p with skip := ← blockCount 0 value }
    | "seek" => do return { p with seek := ← blockCount 0 value }
    | "oseek" => do return { p with seek := ← blockCount 0 value }
    | "count" => do return { p with count := some (← blockCount 0 value) }
    | _ => unknown

/-- The plan of arguments. -/
def blockPlan : List String → BlockPlan → Run BlockPlan
  | [], p => return p
  | argument :: rest, p => do blockPlan rest (← blockArgument p argument)

/-- The last size for both directions counts more than one for each of
    them, wherever it stands. -/
def directSize (p : BlockPlan) (arguments : List String) : Run BlockPlan := do
  match (arguments.reverse.find? fun a => "bs=".toList.isPrefixOf a.toList) with
  | some a => do
      match blockFactors (a.length + 1) (a.toList.drop 3) with
      | .ok (n, _) => return { p with readSize := n, writeSize := n }
      | .error _ => return p
  | none => return p

/-- Refuses what cannot be asked for together. -/
def refuseTogether (p : BlockPlan) : Run Unit := do
  for (names, what) in
      [(["ascii", "ebcdic", "ibm"], "any two of \x7bascii,ebcdic,ibm\x7d"),
       (["block", "unblock"], "block and unblock"), (["lcase", "ucase"], "lcase and ucase"),
       (["excl", "nocreat"], "excl and nocreat")] do
    if 1 < (names.filter p.converts).length then Run.quit 1 ("cannot combine " ++ what)

/-! ## Conversions -/

/-- What is carried from one block to the next. -/
structure Carried where
  /-- The octet that waits for its neighbour. -/
  odd : Option Char
  column : Nat
  spaces : Nat
  /-- How many lines were too long for their records. -/
  cut : Nat

/-- Neighbours exchanged; the result is gathered in reverse. -/
def swapPairs : Option Char → Octets → Octets → Octets × Option Char
  | odd, [], done => (done.reverse, odd)
  | none, c :: rest, done => swapPairs (some c) rest done
  | some b, c :: rest, done => swapPairs none rest (b :: c :: done)

/-- Lines made into records; the result is gathered in reverse. -/
def intoRecords (size : Nat) : Octets → Carried → Octets → Octets × Carried
  | [], k, done => (done.reverse, k)
  | '\n' :: rest, k, done =>
      intoRecords size rest { k with column := 0 } (List.replicate (size - k.column) ' ' ++ done)
  | c :: rest, k, done =>
      if k.column < size then intoRecords size rest { k with column := k.column + 1 } (c :: done)
      else
        intoRecords size rest
          { k with column := k.column + 1, cut := if k.column = size then k.cut + 1 else k.cut } done

/-- Records made into lines without the spaces at their ends; the result is
    gathered in reverse. -/
def intoLines (size : Nat) : Octets → Carried → Octets → Octets × Carried
  | [], k, done => (done.reverse, k)
  | c :: rest, k, done =>
      let (k, done) :=
        if size ≤ k.column then ({ k with column := 0, spaces := 0 }, '\n' :: done) else (k, done)
      let k := { k with column := k.column + 1 }
      if c == ' ' then intoLines size rest { k with spaces := k.spaces + 1 } done
      else
        intoLines size rest { k with spaces := 0 } (c :: (List.replicate k.spaces ' ' ++ done))

/-- A block converted. -/
def convertBlock (p : BlockPlan) (t : Octets) (k : Carried) : Octets × Carried :=
  let t :=
    if p.converts "ucase" then t.map raised else if p.converts "lcase" then t.map lowered else t
  let (t, k) :=
    if p.converts "swab" then
      let (t, odd) := swapPairs k.odd t []
      (t, { k with odd := odd })
    else (t, k)
  if p.converts "block" then intoRecords p.recordSize t k []
  else if p.converts "unblock" then intoLines p.recordSize t k []
  else (t, k)

/-- What comes after the last block. -/
def convertEnd (p : BlockPlan) (k : Carried) : Octets × Carried :=
  let (t, k) := match k.odd with
    | none => ([], k)
    | some c =>
        if p.converts "block" then intoRecords p.recordSize [c] k []
        else if p.converts "unblock" then intoLines p.recordSize [c] k []
        else ([c], k)
  if p.converts "block" && 0 < k.column then
    (t ++ List.replicate (p.recordSize - k.column) ' ', k)
  else if p.converts "unblock" && 0 < k.column then (t ++ ['\n'], k)
  else (t, k)

/-! ## Copies -/

/-- How far a copy has come. -/
structure BlockState where
  fullIn : Nat
  partIn : Nat
  fullOut : Nat
  partOut : Nat
  written : Nat
  /-- What has not been written, the latest first, and how much it is. -/
  waiting : List Octets
  size : Nat
  carried : Carried
  /-- How much was read last, if a read that is too short is to be remarked
      on. -/
  lastRead : Option Nat

namespace BlockState

/-- Nothing is copied yet. -/
def begin : BlockState := ⟨0, 0, 0, 0, 0, [], 0, ⟨none, 0, 0, 0⟩, none⟩

end BlockState

/-- Reads a block; if it has to be full, as often as it takes. -/
def readBlock (isWhole : Bool) (descriptor : Nat) : Nat → Nat → List Octets → Run (Except Errno Octets)
  | 0, _, parts => return .ok parts.reverse.flatten
  | _, 0, parts => return .ok parts.reverse.flatten
  | fuel + 1, n, parts => do
      match ← Run.read descriptor n with
      | .error e => return .error e
      | .ok [] => return .ok parts.reverse.flatten
      | .ok t =>
          if isWhole then readBlock isWhole descriptor fuel (n - t.length) (t :: parts)
          else return .ok t

/-- The name by which a file is called in complaints. -/
def blockInput (p : BlockPlan) : String := p.input.getD "standard input"

/-- The name of the output in complaints. -/
def blockOutput (p : BlockPlan) : String := p.output.getD "standard output"

/-- Writes a block; whether that could be done is returned as well. -/
def writeBlock (p : BlockPlan) (descriptor : Nat) (isFull : Bool) (t : Octets) (s : BlockState) :
    Run (BlockState × Bool) := do
  match ← Run.write descriptor t with
  | none =>
      let s := { s with written := s.written + t.length }
      return (if isFull then { s with fullOut := s.fullOut + 1 }
        else { s with partOut := s.partOut + 1 }, true)
  | some e => do
      Run.objection ("error writing " ++ (← Run.quoted (blockOutput p)) ++ ": " ++ e.text)
      return (s, false)

/-- Remarks on a read before this one that was too short. -/
def remarkShort (p : BlockPlan) (n size : Nat) (s : BlockState) : Run BlockState := do
  match s.lastRead with
  | none => return s
  | some before =>
      if 0 < before && before < size then do
        if p.level != "none" then
          Run.objection ("warning: partial read (" ++ toString before ++ " byte"
            ++ (if before = 1 then "" else "s") ++ "); suggest iflag=fullblock")
        return { s with lastRead := none }
      else return { s with lastRead := some n }

/-- Writes the blocks that are full. -/
def writeFull (p : BlockPlan) (descriptor : Nat) : Nat → Octets → BlockState →
    Run (BlockState × Bool)
  | 0, t, s => return ({ s with waiting := [t], size := t.length }, true)
  | fuel + 1, t, s => do
      if t.length < p.writeSize then return ({ s with waiting := [t], size := t.length }, true)
      else do
        let (s, isWritten) ← writeBlock p descriptor true (t.take p.writeSize) s
        if isWritten then writeFull p descriptor fuel (t.drop p.writeSize) s else return (s, false)

/-- Writes what is left at the end. -/
def writeRest (p : BlockPlan) (descriptor : Nat) (s : BlockState) : Run (BlockState × Bool) := do
  if p.isDirect then return (s, true)
  else do
    let (t, k) := convertEnd p s.carried
    let all := (t :: s.waiting).reverse.flatten
    let (s, isWritten) ← writeFull p descriptor (all.length + 1) all { s with carried := k }
    if !isWritten || s.size = 0 then return (s, isWritten)
    else writeBlock p descriptor false s.waiting.reverse.flatten s

/-- Copies blocks up to the end of the input.  Whether all went well is
    returned as well. -/
def copyBlocks (p : BlockPlan) (input output : Nat) (blocks : Option Nat) (octets : Nat) :
    Nat → BlockState → Bool → Run (BlockState × Bool)
  | 0, s, isWell => return (s, isWell)
  | fuel + 1, s, isWell => do
      let count := s.fullIn + s.partIn
      let isPast := blocks.any fun n => n ≤ count
      if isPast && (octets = 0 || blocks.any fun n => n < count) then ends s isWell
      else
        let size := if isPast then octets else p.readSize
        match ← readBlock (p.inputFlags.contains "fullblock") input (size + 1) size [] with
        | .error e => do
            Run.objection ("error reading " ++ (← Run.quoted (blockInput p)) ++ ": " ++ e.text)
            ends s false
        | .ok [] => ends s isWell
        | .ok t => do
            let s ← remarkShort p t.length size s
            let isFull := t.length = p.readSize
            let s := if isFull then { s with fullIn := s.fullIn + 1 }
              else { s with partIn := s.partIn + 1 }
            let filler := if p.converts "block" || p.converts "unblock" then ' ' else '\x00'
            let t := if p.converts "sync" then padRight filler p.readSize t else t
            if p.isDirect then do
              let (s, isWritten) ← writeBlock p output (t.length = p.readSize) t s
              if isWritten then copyBlocks p input output blocks octets fuel s isWell
              else return (s, false)
            else do
              let (t, k) := convertBlock p t s.carried
              let s := { s with carried := k, waiting := t :: s.waiting, size := s.size + t.length }
              if s.size < p.writeSize then copyBlocks p input output blocks octets fuel s isWell
              else do
                let all := s.waiting.reverse.flatten
                let (s, isWritten) ← writeFull p output (all.length + 1) all s
                if isWritten then copyBlocks p input output blocks octets fuel s isWell
                else return (s, false)
where
  /-- Writes what is left. -/
  ends (s : BlockState) (isWell : Bool) : Run (BlockState × Bool) := do
    let (s, isWritten) ← writeRest p output s
    return (s, isWell && isWritten)

/-- How much was copied. -/
def sayBlocks (p : BlockPlan) (s : BlockState) : Run Unit := do
  if p.level == "none" then return ()
  else do
    let count := fun (full part : Nat) => toString full ++ "+" ++ toString part
    Run.remark (count s.fullIn s.partIn ++ " records in")
    Run.remark (count s.fullOut s.partOut ++ " records out")
    let cut := s.carried.cut
    if 0 < cut then Run.remark (toString cut ++ " truncated record" ++ if cut = 1 then "" else "s")
    if p.level != "noxfer" then
      Run.remark (toString s.written ++ " byte" ++ (if s.written = 1 then "" else "s")
        ++ " copied, 0 s, Infinity B/s")

/-! ## Places -/

/-- The number of an opening of a file, with the size of the file and the
    offset. -/
def filePlace (descriptor : Nat) : Run (Option (Nat × Nat × Nat)) := do
  match ← Run.opening descriptor with
  | none => return none
  | some (number, o) => do
      let s ← get
      match o.stream with
      | .node n => return some (number, ((s.nodes.lookup n).map (·.content.size)).getD 0, o.offset)
      | _ => return none

/-- Reads and forgets; how much it was is returned. -/
def discard (p : BlockPlan) (descriptor : Nat) : Nat → Nat → Nat → BlockState → Run (Nat × BlockState)
  | 0, _, done, s => return (done, s)
  | _, 0, done, s => return (done, s)
  | fuel + 1, n, done, s => do
      let size := min n p.readSize
      match ← readBlock (p.inputFlags.contains "fullblock") descriptor (n + 1) size [] with
      | .ok (c :: t) => do
          let s ← remarkShort p (c :: t).length size s
          discard p descriptor fuel (n - p.readSize) (done + (c :: t).length) s
      | _ => return (done, s)

/-- Skips some of the input. -/
def skipInput (p : BlockPlan) (descriptor count : Nat) (s : BlockState) : Run BlockState := do
  if count = 0 then return s
  else do
    let (done, s) ← match ← filePlace descriptor with
      | some (number, size, offset) => do
          let done := min count (size - offset)
          modify fun s => { s with
            openings := changeAt s.openings number fun o => { o with offset := o.offset + done } }
          pure (done, s)
      | none =>
          match (← Run.opening descriptor).map (·.2.stream) with
          | some (Stream.pipe _) => discard p descriptor (count + 1) count 0 s
          | _ => pure (count, s)
    if done != count && p.level != "none" then
      Run.objection ((← Run.shownName (blockInput p)) ++ ": cannot skip to specified offset")
    return s

/-- Whether what was written is settled where that is asked for; a pipe
    cannot do that. -/
def settles (p : BlockPlan) (descriptor : Nat) : Run Bool := do
  if !p.converts "fsync" && !p.converts "fdatasync" then return true
  else
    match (← Run.opening descriptor).map (·.2.stream) with
    | some (Stream.node _) => return true
    | _ => do
        Run.objection ("fsync failed for " ++ (← Run.quoted (blockOutput p)) ++ ": Invalid argument")
        return false

/-- Leaves room at the start of the output; what it held there is kept. -/
def seekOutput (p : BlockPlan) (descriptor count : Nat) : Run Unit := do
  if count = 0 then return ()
  else
    match ← filePlace descriptor with
    | some (number, _, _) => do
        let s ← get
        let node := match (s.openings.lookup number).map (·.stream) with
          | some (.node n) => if p.output.isSome && !p.converts "notrunc" && p.writeSize ≤ count then some n else none
          | _ => none
        modify fun s => { s with
          openings := changeAt s.openings number fun o => { o with offset := o.offset + count } }
        match node with
        | none => return ()
        | some n =>
            modify fun s => { s with
              nodes := changeAt s.nodes n fun node =>
                let kept := node.content.extract 0 (min count node.content.size)
                { node with
                  content := Octets.appendTo kept (List.replicate (count - kept.size) '\x00'),
                  modified := s.toWorld.now } }
    | none => do
        match (← Run.opening descriptor).map (·.2.stream) with
        | some (Stream.pipe _) =>
            Run.objection ((← Run.quoted (blockOutput p)) ++ ": cannot seek: Illegal seek")
            if ← settles p descriptor then sayBlocks p .begin
            throw (.exited 1)
        | _ => return ()

/-- Opens the output, for writing behind a number of octets. -/
def openBlocks (p : BlockPlan) (path : String) (seek : Nat) : Run Nat := do
  let isThere := (← Run.status true path).isOk
  let keeps := p.converts "notrunc" || p.writeSize ≤ seek
  let opened ←
    if p.converts "nocreat" && !isThere then pure (.error .noEntry)
    else
      let mode : OpenMode :=
        if p.converts "excl" then .create
        else if p.outputFlags.contains "append" then .append
        else if keeps then .update
        else .write
      Run.openAs path mode
  match opened with
  | .ok descriptor => do
      -- What is at the end of a file is lost as well, unless it is to stay.
      if p.outputFlags.contains "append" && !keeps then
        match (← Run.opening descriptor).map (·.2.stream) with
        | some (Stream.node n) =>
            modify fun s => { s with
              nodes := changeAt s.nodes n fun node => { node with content := ByteArray.empty } }
        | _ => pure ()
      return descriptor
  | .error e => Run.quit 1 ("failed to open " ++ (← Run.quoted path) ++ ": " ++ e.text)

/-- Copies in blocks. -/
def dd : Tool := fun arguments => do
  let g ← given [] 1 arguments
  let p ← directSize (← blockPlan g.operands .basic) g.operands
  let p := if p.recordSize = 0 then
      { p with conversions := p.conversions.filter fun c => c != "block" && c != "unblock" }
    else p
  refuseTogether p
  let changing := ["ascii", "ebcdic", "ibm", "block", "unblock", "lcase", "ucase", "swab"]
  let p := { p with isDirect := p.isDirect && !changing.any p.converts }
  let amount := fun (n : Nat × Bool) (size : Nat) (hasFlag : Bool) =>
    if n.2 || hasFlag then n.1 else n.1 * size
  let input ← match p.input with
    | none => pure 0
    | some path => do
        match ← Run.openAs path .read with
        | .ok descriptor => pure descriptor
        | .error e => Run.quit 1 ("failed to open " ++ (← Run.quoted path) ++ ": " ++ e.text)
  let seek := amount p.seek p.writeSize (p.outputFlags.contains "seek_bytes")
  let output ← match p.output with
    | none => pure 1
    | some path => openBlocks p path seek
  if p.output.isSome then seekOutput p output seek
  let skip := amount p.skip p.readSize (p.inputFlags.contains "skip_bytes")
  let counts := p.count.any fun n => 0 < n.1
  let remarks := p.isDirect && !p.inputFlags.contains "fullblock" && (p.readSize ≤ skip || counts)
  let s ← skipInput p input skip { BlockState.begin with lastRead := if remarks then some 0 else none }
  if p.output.isNone then seekOutput p output seek
  let (blocks, octets) := match p.count with
    | none => (none, 0)
    | some (n, isOctets) =>
        if isOctets || p.inputFlags.contains "count_bytes" then (some (n / p.readSize), n % p.readSize)
        else (some n, 0)
  let (s, isWell) ← copyBlocks p input output blocks octets 10000000 s true
  let isSettled ← if isWell then settles p output else pure true
  if (← Run.opening input).isNone then
    Run.quit 1 ("closing input file " ++ (← Run.quoted (p.input.getD inputTitle)) ++ ": "
      ++ Errno.badDescriptor.text)
  if (← Run.opening output).isNone then
    Run.quit 1 ("closing output file " ++ (← Run.quoted (blockOutput p)) ++ ": "
      ++ Errno.badDescriptor.text)
  sayBlocks p s
  return if isWell && isSettled then 0 else 1

end HermesBundle.Shell.Tool
