import HermesBundle.Shell.Tools.Quantity

/-! # Passing — programs that pass their input on

    They write what they read, whole or in part, in its order or in
    reverse, and some mark what cannot be seen. -/

namespace HermesBundle.Shell.Tool

/-! ## Whole inputs -/

/-- What is marked when files are joined. -/
structure Marks where
  numbers : Bool
  numbersFilled : Bool
  squeezes : Bool
  ends : Bool
  tabs : Bool
  unseen : Bool

/-- How far the marked output has come. -/
structure Marking where
  number : Nat
  /-- How many lines have ended in a row; below zero inside a line. -/
  newlines : Int
  /-- Whether a carriage return may stand before the end of a line. -/
  hasReturn : Bool
  /-- What is to be written, the latest first. -/
  out : List Octets

/-- An octet in the notation for what cannot be seen. -/
def seen (c : Char) : Octets :=
  let n := c.toNat
  if n ≥ 128 then
    let low := Char.ofNat (n - 128)
    if n ≥ 160 then if n < 255 then ['M', '-', low] else "M-^?".toList
    else ['M', '-', '^', Char.ofNat (n - 128 + 64)]
  else if n ≥ 32 then if n < 127 then [c] else "^?".toList
  else ['^', Char.ofNat (n + 64)]

/-- A line number in front of a line. -/
def lineNumber (n : Nat) : Octets := padLeft ' ' 6 (decimal n) ++ ['\t']

/-- Marks an octet. -/
def mark (m : Marks) (s : Marking) (c : Char) : Marking :=
  let s := if s.hasReturn then
      { s with hasReturn := false, out := (if c == '\n' then "^M".toList else ['\r']) :: s.out }
    else s
  if c == '\n' then
    let newlines := s.newlines + 1
    if newlines ≥ 2 && m.squeezes then { s with newlines := 2 }
    else
      let numbered := newlines > 0 && m.numbers && !m.numbersFilled
      let number := if numbered then s.number + 1 else s.number
      let lead := if numbered then lineNumber number else []
      { s with
        number := number, newlines := min 2 newlines
        out := (lead ++ (if m.ends then ['$'] else []) ++ ['\n']) :: s.out }
  else
    let numbered := s.newlines ≥ 0 && m.numbers
    let number := if numbered then s.number + 1 else s.number
    let lead := if numbered then lineNumber number else []
    let s := { s with number := number, newlines := -1 }
    if c == '\r' && m.ends && !m.unseen then
      { s with hasReturn := true, out := if lead.isEmpty then s.out else lead :: s.out }
    else
      let shown :=
        if c == '\t' then if m.tabs then "^I".toList else [c]
        else if m.unseen then seen c
        else [c]
      { s with out := (lead ++ shown) :: s.out }

/-- Passes on the rest of an input. -/
def passInput (descriptor : Nat) (marks : Option Marks) : Nat → Marking → Run (Except Errno Marking)
  | 0, s => return .ok s
  | fuel + 1, s => do
      match ← Run.read descriptor 65536 with
      | .error e => return .error e
      | .ok [] => return .ok s
      | .ok block =>
          match marks with
          | none => do
              writeBlock block
              passInput descriptor marks fuel s
          | some m => do
              let s := block.foldl (mark m) s
              writeBlock s.out.reverse.flatten
              passInput descriptor marks fuel { s with out := [] }
where
  /-- Writes a block; the program ends if that fails. -/
  writeBlock (block : Octets) : Run Unit := do
    match ← Run.write 1 block with
    | some e => Run.quit 1 ("write error: " ++ e.text)
    | none => return ()

/-- Whether what is read is what is written as well. -/
def readsItsOutput (descriptor : Nat) : Run Bool := do
  match ← Run.opening descriptor, ← Run.opening 1 with
  | some (_, a), some (_, b) => do
      let s ← get
      match a.stream, b.stream with
      | .node m, .node n =>
          let size := ((s.nodes.lookup n).map (·.content.size)).getD 0
          return m == n && a.offset < size
      | _, _ => return false
  | _, _ => return false

/-- Joins files. -/
def cat : Tool := fun arguments => do
  let g ← given
    [flag 'A' "show-all", flag 'b' "number-nonblank", flag 'e' "", flag 'E' "show-ends",
     flag 'n' "number", flag 's' "squeeze-blank", flag 't' "", flag 'T' "show-tabs", flag 'u' "",
     flag 'v' "show-nonprinting"] 1 arguments
  let any := fun keys : List String => keys.any g.has
  let marks : Marks :=
    ⟨any ["n", "b"], g.has "b", g.has "s", any ["A", "e", "E"], any ["A", "t", "T"],
      any ["A", "e", "t", "v"]⟩
  let isPlain := !any ["A", "b", "e", "E", "n", "s", "t", "T", "v"]
  let operands := if g.operands.isEmpty then ["-"] else g.operands
  if (← Run.opening 1).isNone then
    Run.quit 1 (outputTitle ++ ": " ++ Errno.badDescriptor.text)
  let mut status := 0
  let mut state : Marking := ⟨0, 0, false, []⟩
  for name in operands do
    match ← openInput name with
    | .error e => do
        fileFailure name e
        status := 1
    | .ok i => do
        if ← readsItsOutput i.descriptor then
          Run.objection ((← Run.shownName name) ++ ": input file is output file")
          status := 1
        else
          match ← passInput i.descriptor (if isPlain then none else some marks) Run.blockLimit state with
          | .ok s => state := s
          | .error e => do
              fileFailure name e
              status := 1
        closeInput i
  if state.hasReturn then Run.print ['\r']
  return status

/-- Pieces that end in a separator, or start with one. -/
def recordsBy (separator : Octets) (isBefore : Bool) : Nat → Octets → Octets → List Octets →
    List Octets
  | 0, _, current, found => current.reverse :: found
  | _, [], current, found => if current.isEmpty then found else current.reverse :: found
  | fuel + 1, c :: rest, current, found =>
      if separator.isPrefixOf (c :: rest) && !separator.isEmpty then
        let after := (c :: rest).drop separator.length
        if isBefore then
          recordsBy separator isBefore fuel after separator.reverse
            (if current.isEmpty then found else current.reverse :: found)
        else
          recordsBy separator isBefore fuel after []
            ((separator.reverse ++ current).reverse :: found)
      else recordsBy separator isBefore fuel rest (c :: current) found

/-- Writes the records of files in reverse order. -/
def tac : Tool := fun arguments => do
  let g ← given [flag 'b' "before", flag 'r' "regex", valued 's' "separator"] 1 arguments
  let separator := ((g.value? "s").getD "\n").toList
  overall
    (fun name => do
      match ← inputContent name with
      | .error .isDirectory => do
          Run.objection ((← titledName name) ++ ": read error: " ++ Errno.invalid.text)
          return 1
      | .error .badDescriptor => do
          Run.objection ((← titledName name) ++ ": read error: " ++ Errno.badDescriptor.text)
          return 1
      | .error e => do
          Run.objection ("failed to open " ++ (← Run.quoted name) ++ " for reading: " ++ e.text)
          return 1
      | .ok t => do
          Run.print (recordsBy separator (g.has "b") (t.length + 1) t [] []).flatten
          return 0)
    (if g.operands.isEmpty then ["-"] else g.operands) 0

/-- Writes a block to some outputs, which have names for complaints; the
    outputs that could be written to are returned.  A failure can end the
    program. -/
def writeToAll (stopsEarly : Bool) (block : Octets) :
    List (String × Nat) → Run (List (String × Nat))
  | [] => return []
  | (name, descriptor) :: rest => do
      let failure ← Run.write descriptor block
      match failure with
      | none => return (name, descriptor) :: (← writeToAll stopsEarly block rest)
      | some e => do
          Run.objection (name ++ ": " ++ e.text)
          if stopsEarly then throw (.exited 1) else writeToAll stopsEarly block rest

/-- Writes what is read to some outputs, as long as there are any.  Whether
    all of that went well is returned. -/
def copyTo (stopsEarly : Bool) : Nat → List (String × Nat) → Bool → Run Bool
  | 0, _, isWell => return isWell
  | _, [], isWell => return isWell
  | fuel + 1, outputs, isWell => do
      match ← Run.read 0 65536 with
      | .ok (c :: rest) => do
          let left ← writeToAll stopsEarly (c :: rest) outputs
          copyTo stopsEarly fuel left (isWell && left.length = outputs.length)
      | .ok [] => return isWell
      | .error e => do
          Run.objection ("read error: " ++ e.text)
          return false

/-- Copies the input to files and to the output. -/
def tee : Tool := fun arguments => do
  let g ← given [flag 'a' "append", flag 'i' "ignore-interrupts", flag 'p' "",
    long "output-error" .optional] 1 arguments
  let onFailure ← match g.value? "output-error" with
    | some v => wordArgument "--output-error" ["warn", "warn-nopipe", "exit", "exit-nopipe"] v
    | none => pure "warn"
  let stopsEarly := onFailure == "exit" || onFailure == "exit-nopipe"
  let mut status := 0
  let mut outputs := [(← Run.quoted outputTitle, 1)]
  for name in g.operands do
    match ← Run.openAs name (if g.has "a" then .append else .write) with
    | .ok d => outputs := outputs ++ [(← Run.shownName name, d)]
    | .error e => do
        fileFailure name e
        status := 1
  modify fun s => { s with hasTaken := true }
  if ← copyTo stopsEarly Run.blockLimit outputs true then return status else return 1

/-- Writes lines with their characters in reverse order. -/
def rev : Tool := fun arguments => do
  let g ← given [flag '0' "zero"] 1 arguments
  overall
    (fun name => do
      let content ←
        if g.operands.isEmpty then Run.readAll 0 else Run.readFile name
      match content with
      | .error e => do
          Run.objection ("cannot open " ++ name ++ ": " ++ e.text)
          return 1
      | .ok t => do
          let pieces := splitOn '\n' t
          let turned := pieces.map fun line => ((characters line).reverse).flatten
          Run.print (joinWith ['\n'] turned)
          return 0)
    (if g.operands.isEmpty then ["-"] else g.operands) 0

/-! ## Parts of inputs -/

/-- What part of an input is asked for. -/
structure Portion where
  inBytes : Bool
  count : Nat
  /-- Whether the count is one of those that are left out, or for the last
      ones, whether it is counted from the start. -/
  isOpposite : Bool
  /-- What ends a record. -/
  ending : Char

/-- Records with their ends. -/
def recordsOf (ending : Char) (t : Octets) : List Octets :=
  let pieces := splitOn ending t
  let ended := pieces.dropLast.map fun line => line ++ [ending]
  match pieces.getLast? with
  | some [] => ended
  | some rest => ended ++ [rest]
  | none => ended

/-- Passes on a number of octets; what was read too much is given back. -/
def passBytes (descriptor : Nat) : Nat → Nat → Run (Option Errno)
  | 0, _ => return none
  | _, 0 => return none
  | fuel + 1, count => do
      match ← Run.read descriptor (min count 8192) with
      | .error e => return some e
      | .ok [] => return none
      | .ok block => do
          Run.print block
          passBytes descriptor fuel (count - block.length)

/-- The octets up to the end of some number of records, what follows them
    and how many records are missing. -/
def takeRecords (ending : Char) : Nat → Octets → List Octets → Octets × Octets × Nat
  | 0, t, found => (found.reverse.flatten, t, 0)
  | count + 1, t, found =>
      let line := t.takeWhile (· != ending)
      match t.drop line.length with
      | [] => ((line :: found).reverse.flatten, [], count + 1)
      | c :: rest => takeRecords ending count rest ((line ++ [c]) :: found)

/-- Passes on a number of records; what was read too much is given back. -/
def passRecords (descriptor : Nat) (ending : Char) : Nat → Nat → Run (Option Errno)
  | 0, _ => return none
  | _, 0 => return none
  | fuel + 1, count => do
      match ← Run.read descriptor 8192 with
      | .error e => return some e
      | .ok [] => return none
      | .ok block => do
          let (taken, rest, left) := takeRecords ending count block []
          Run.print taken
          if left = 0 then
            Run.keepUnread descriptor rest
            Run.giveBack descriptor
            return none
          else passRecords descriptor ending fuel left

/-- Passes on the first part of an input. -/
def passHead (p : Portion) (descriptor : Nat) : Run (Option Errno) := do
  if p.isOpposite then
    match ← Run.readAll descriptor with
    | .error e => return some e
    | .ok t => do
        if p.inBytes then Run.print (t.take (t.length - p.count))
        else
          let records := recordsOf p.ending t
          Run.print (records.take (records.length - p.count)).flatten
        return none
  else if p.inBytes then passBytes descriptor Run.blockLimit p.count
  else passRecords descriptor p.ending Run.blockLimit p.count

/-- Passes on the last part of an input. -/
def passTail (p : Portion) (descriptor : Nat) : Run (Option Errno) := do
  match ← Run.readAll descriptor with
  | .error e => return some e
  | .ok t => do
      let units := if p.inBytes then t.map fun c => [c] else recordsOf p.ending t
      let kept :=
        if p.isOpposite then units.drop (p.count - 1) else units.drop (units.length - p.count)
      Run.print kept.flatten
      return none

/-- The count of an option and the sign before it. -/
def countArgument (inBytes : Bool) (t : String) : Run (Option Char × Nat) := do
  let cs := t.toList
  let sign := match cs with
    | '-' :: _ => some '-'
    | '+' :: _ => some '+'
    | _ => none
  let rest := if sign.isSome then cs.drop 1 else cs
  let what := "invalid number of " ++ if inBytes then "bytes" else "lines"
  match if (rest.head?.map isSpace).getD false then .error .invalid else quantityOf countUnits rest with
  | .ok n => return (sign, n)
  | .error e => Run.quit 1 (what ++ ": " ++ (← Run.inQuotes (String.ofList rest)) ++ faultText e)

/-- Passes on parts of inputs under titles.  `looksFirst` says that they are
    looked at before they are read. -/
def passPortions (g : Given) (looksFirst : Bool) (piece : Nat → Run (Option Errno)) : Run Nat := do
  let operands := if g.operands.isEmpty then ["-"] else g.operands
  let hasTitles :=
    match g.last? ["q", "v"] with
    | some "v" => true
    | some _ => false
    | none => operands.length > 1
  let mut status := 0
  let mut isFirst := true
  for name in operands do
    let shown := if name == "-" then inputTitle else name
    match ← openInput name with
    | .error e => do
        Run.objection ("cannot open " ++ (← Run.quoted name) ++ " for reading: " ++ e.text)
        status := 1
    | .ok i => do
        if hasTitles then
          Run.printString ((if isFirst then "" else "\n") ++ "==> " ++ shown ++ " <==\n")
        isFirst := false
        match ← piece i.descriptor with
        | none => pure ()
        | some e => do
            let what := if looksFirst && e = .badDescriptor then "cannot fstat " else "error reading "
            Run.objection (what ++ (← Run.quoted shown) ++ ": " ++ e.text)
            status := 1
        closeInput i
  return status

/-- The options of programs that pass on parts. -/
def portionOptions : List OptionSpec :=
  [valued 'c' "bytes", valued 'n' "lines", flag 'q' "quiet", long "silent" .none, flag 'v' "verbose",
   flag 'z' "zero-terminated"]

/-- The first argument in the form of other options, if it is a number
    after a sign. -/
def obsoleteHead (arguments : List String) : List String :=
  match arguments with
  | first :: rest =>
      match first.toList with
      | '-' :: c :: t =>
          if isDigit c then
            let digits := (c :: t).takeWhile isDigit
            let letters := (c :: t).drop digits.length
            let inBytes := letters.any fun c => "bckm".toList.contains c
            let unit := letters.filter fun c => "bkm".toList.contains c
            let others := letters.filter fun c => "qvz".toList.contains c
            let count := String.ofList (digits ++ unit)
            (if inBytes then ["-c", count] else ["-n", count])
              ++ others.map (fun c => String.ofList ['-', c]) ++ rest
          else arguments
      | _ => arguments
  | [] => []

/-- Refuses a count among the other options; a fault in a count before it
    comes first. -/
def refuseCounts (g : Given) (refuse : String → Run Unit) : Run Unit := do
  for (key, value) in g.options do
    if key == "c" || key == "n" then
      let _ ← countArgument (key == "c") (value.getD "")
    else if key.toList.all isDigit then refuse key

/-- Writes the first part of files. -/
def head : Tool := fun arguments => do
  let g ← given (portionOptions ++ flags "0123456789") 1 (obsoleteHead arguments)
  refuseCounts g fun key => Run.misuse 1 ("invalid trailing option -- " ++ key)
  let mut portion : Portion := ⟨false, 10, false, if g.has "z" then '\x00' else '\n'⟩
  for (key, value) in g.options do
    if key == "c" || key == "n" then
      let (sign, n) ← countArgument (key == "c") (value.getD "")
      portion := { portion with inBytes := key == "c", count := n, isOpposite := sign == some '-' }
  let p := portion
  passPortions g p.isOpposite (passHead p)

/-- The first argument in the form of other options, if it is a number
    after a sign. -/
def obsoleteTail (arguments : List String) : List String :=
  match arguments with
  | first :: rest =>
      match first.toList with
      | sign :: t =>
          let digits := t.takeWhile isDigit
          let letters := t.drop digits.length
          let isOld := (sign == '+' || (sign == '-' && !digits.isEmpty))
            && [[], ['b'], ['c'], ['l'], ['f'], ['l', 'f'], ['c', 'f']].contains letters
            && rest.length ≤ 1 && !(sign == '+' && digits.isEmpty && letters.isEmpty)
          if isOld then
            let count := if digits.isEmpty then "10" else String.ofList digits
            let count := if letters.head? == some 'b' then count ++ "b" else count
            [if letters.head? == some 'c' || letters.head? == some 'b' then "-c" else "-n",
              String.ofList [sign] ++ count] ++ rest
          else arguments
      | [] => arguments
  | [] => []

/-- Writes the last part of files. -/
def tail : Tool := fun arguments => do
  let g ← given (portionOptions ++ [⟨some 'f', "follow", .none⟩, flag 'F' "", valued 's' "sleep-interval",
    long "pid" .required, long "retry" .none] ++ flags "0123456789") 1 (obsoleteTail arguments)
  refuseCounts g fun key => Run.quit 1 ("option used in invalid context -- " ++ key)
  let mut portion : Portion := ⟨false, 10, false, if g.has "z" then '\x00' else '\n'⟩
  for (key, value) in g.options do
    if key == "c" || key == "n" then
      let (sign, n) ← countArgument (key == "c") (value.getD "")
      portion := { portion with inBytes := key == "c", count := n, isOpposite := sign == some '+' }
  let p := portion
  -- Nothing is asked for, so that nothing is opened.
  if p.count = 0 && !p.isOpposite then return 0
  passPortions g true (passTail p)

end HermesBundle.Shell.Tool
