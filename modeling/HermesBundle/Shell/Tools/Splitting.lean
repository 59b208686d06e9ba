import HermesBundle.Shell.Tools.Passing
import HermesBundle.Shell.Tools.Starting

/-! # Splitting — a program that writes its input to many files

    An input is divided into pieces, and each piece goes to a file of its
    own or to a command.  The pieces follow each other without gaps, but
    for those that records are dealt to in turn.  The names of the files
    count upwards. -/

namespace HermesBundle.Shell.Tool

/-! ## Pieces -/

/-- How an input is divided. -/
inductive Splitting where
  | lines (count : Nat)
  | octets (count : Nat)
  /-- Whole lines, as many as fit into a size. -/
  | filled (size : Nat)
  /-- Chunks of one size. -/
  | chunks (count : Nat)
  /-- Chunks that end with a line. -/
  | lineChunks (count : Nat)
  /-- Lines are dealt in turn. -/
  | rounds (count : Nat)

namespace Splitting

/-- How many pieces there are, if that is known in advance. -/
def pieceCount? : Splitting → Option Nat
  | .chunks n => some n
  | .lineChunks n => some n
  | .rounds n => some n
  | _ => none

/-- Whether the size of the input has to be known. -/
def isMeasured : Splitting → Bool
  | .chunks _ => true
  | .lineChunks _ => true
  | _ => false

end Splitting

/-- A list in parts of some length, the last of which may be shorter. -/
def partsOf {α : Type} (length : Nat) : Nat → List α → List (List α) → List (List α)
  | 0, _, found => found.reverse
  | _, [], found => found.reverse
  | fuel + 1, t, found => partsOf length fuel (t.drop length) (t.take length :: found)

/-- Pieces of whole lines, as many as fit into a size.  A line that does not
    fit is broken. -/
def filledPieces (ending : Char) (size : Nat) : Nat → Octets → List Octets → List Octets
  | 0, _, found => found.reverse
  | _, [], found => found.reverse
  | fuel + 1, t, found =>
      let chunk := t.take size
      if chunk.length < size then (t :: found).reverse
      else
        let unended := chunk.reverse.takeWhile (· != ending)
        let length := if unended.length = size then size else size - unended.length
        filledPieces ending size fuel (t.drop length) (t.take length :: found)

/-- The sizes of a number of chunks.  The first ones take what is left
    over. -/
def chunkSizes (count size : Nat) : List Nat :=
  (List.range count).map fun i => size / count + (if i < size % count then 1 else 0)

/-- Consecutive pieces of some sizes. -/
def piecesOfSizes (t : Octets) (sizes : List Nat) : List Octets :=
  (sizes.foldl (fun (found, t) size => (t.take size :: found, t.drop size))
    (([] : List Octets), t)).1.reverse

/-- Consecutive pieces that end with the line in which chunks of some sizes
    end.  `done` is how much has been taken and `due` where the last chunk
    ended. -/
def lineChunkPieces (ending : Char) : Octets → Nat → Nat → List Nat → List Octets → List Octets
  | _, _, _, [], found => found.reverse
  | t, done, due, size :: sizes, found =>
      let due := due + size
      if due ≤ done then lineChunkPieces ending t done due sizes ([] :: found)
      else
        let start := t.take (due - 1 - done)
        let rest := t.drop (due - 1 - done)
        let line := rest.takeWhile (· != ending)
        let piece := start ++ line ++ (rest.drop line.length).take 1
        lineChunkPieces ending (rest.drop (line.length + 1)) (done + piece.length) due sizes
          (piece :: found)

/-- More chunks than there are names for. -/
def emptyChunkLimit : Nat := 100000

/-- The pieces of an input. -/
def Splitting.pieces (d : Splitting) (ending : Char) (t : Octets) : List Octets :=
  match d with
  | .lines n => (partsOf n (t.length + 1) (recordsOf ending t) []).map List.flatten
  | .octets n => partsOf n (t.length + 1) t []
  | .filled size => filledPieces ending size (t.length + 1) t []
  | .chunks n => piecesOfSizes t (chunkSizes n t.length)
  | .lineChunks n =>
      let found := lineChunkPieces ending t 0 0 (chunkSizes n t.length) []
      -- Chunks without octets follow the last line for ever.
      if t.length < n && t.getLast? == some ending then found ++ List.replicate emptyChunkLimit []
      else found
  | .rounds n =>
      let turns := partsOf n (t.length + 1) (recordsOf ending t) []
      (List.range n).map fun i => (turns.filterMap fun turn => turn[i]?).flatten

/-! ## Names -/

/-- How the pieces are named. -/
structure PieceNames where
  stem : Octets
  /-- What is counted with. -/
  alphabet : Octets
  /-- What follows the count. -/
  ending : Octets
  /-- Whether a count that has run out goes on with more letters. -/
  grows : Bool

/-- How far the names have come. -/
structure PieceCount where
  /-- The letters that do not change any more. -/
  settled : Octets
  /-- The letters that count, by their places in the alphabet. -/
  digits : List Nat

/-- The next one of some digits, the last digit first; none if they have
    run out. -/
def nextDigits (base : Nat) : List Nat → Option (List Nat)
  | [] => none
  | d :: rest =>
      if d + 1 < base then some ((d + 1) :: rest)
      else (nextDigits base rest).map fun rest => 0 :: rest

namespace PieceNames

/-- The name of a piece. -/
def nameAt (p : PieceNames) (c : PieceCount) : Octets :=
  p.stem ++ c.settled ++ c.digits.map (fun d => p.alphabet.getD d '0') ++ p.ending

/-- What follows a count.  A count that grows keeps its first letter once
    that is the last of the alphabet. -/
def next (p : PieceNames) (c : PieceCount) : Option PieceCount :=
  let base := p.alphabet.length
  match (nextDigits base c.digits.reverse).map List.reverse with
  | none => none
  | some digits =>
      if p.grows && digits.head? == some (base - 1) && c.digits.head? != some (base - 1) then
        some ⟨c.settled ++ p.alphabet.drop (base - 1), List.replicate (digits.length + 1) 0⟩
      else some { c with digits := digits }

end PieceNames

/-- How many letters are needed to count up to a number. -/
def lettersFor (base : Nat) : Nat → Nat → Nat
  | 0, _ => 1
  | fuel + 1, last => if last / base = 0 then 1 else lettersFor base fuel (last / base) + 1

/-! ## Outputs -/

/-- Where the pieces go. -/
structure PieceOutput where
  names : PieceNames
  /-- The command that takes the pieces instead of files. -/
  filter : Option String
  /-- Whether empty pieces are left out. -/
  skipsEmpty : Bool
  isTalkative : Bool

/-- Ends the program because of a file. -/
def quitOver {α : Type} (name : String) (e : Errno) : Run α := do
  Run.quit 1 ((← Run.shownName name) ++ ": " ++ e.text)

/-- Whether a path leads to what the input is read from. -/
def isInput (name : String) : Run Bool := do
  match ← Run.status true name, ← Run.descriptorStatus 0 with
  | .ok a, .ok b => return a.kind = .regular && a.node.isSome && a.node == b.node
  | _, _ => return false

/-- Writes a piece to a file. -/
def writePiece (name : String) (piece : Octets) : Run Unit := do
  if ← isInput name then
    Run.quit 1 ((← Run.quoted name) ++ " would overwrite input; aborting")
  match ← Run.openAs name .write with
  | .error e => quitOver name e
  | .ok d => do
      let failure ← Run.write d piece
      Run.close d
      match failure with
      | none => return ()
      | some e => quitOver name e

/-- Gives a piece to a command, which finds the name of the piece in its
    environment. -/
def filterPiece (command name : String) (piece : Octets) : Run Unit := do
  let environment ← givenVariables
  let shell := ((environment.find? "SHELL").filter fun t => !t.isEmpty).getD shellPath
  let called := String.ofList (lastComponent shell.toList)
  let environment := environment.set "FILE" name
  let wording := fun (how : String) => do
    return "with FILE=" ++ (← Run.shownName name) ++ ", " ++ how ++ " from command: " ++ command
  match ← imageWith environment shell ["-c", command] with
  | .error e => do
      Run.objection
        ("failed to run command: \x22" ++ shell ++ " -c " ++ command ++ "\x22: " ++ e.text)
      Run.quit 1 (← wording "exit 1")
  | .ok image => do
      let (reader, writer) ← Run.makeChannel
      let kept := (← get).descriptors
      let own := kept.filter fun (d, _) => d = 1 || d = 2
      modify fun s => { s with descriptors := (0, reader) :: own }
      let process ← Run.fork (.image { image with called := called })
      modify fun s => { s with descriptors := kept }
      let descriptor ← Run.freeDescriptor 3
      Run.connect descriptor writer
      let deaf := (← get).deaf
      modify fun s => { s with deaf := pipeSignal :: deaf }
      let _ ← Run.write descriptor piece
      modify fun s => { s with deaf := deaf }
      Run.close descriptor
      match ← Run.join process with
      | .exited 0 => return ()
      | .exited status => do Run.quit status (← wording ("exit " ++ String.ofList (decimal status)))
      | .killed signal =>
          if signal = pipeSignal then return ()
          else do Run.quit (signal + 128) (← wording ("signal " ++ signalName signal))

/-- Writes the pieces.  The names run out if there are too many pieces. -/
def writePieces (o : PieceOutput) : Option PieceCount → List Octets → Run Unit
  | _, [] => return ()
  | count, piece :: rest => do
      if piece.isEmpty && o.skipsEmpty then writePieces o count rest
      else
        match count with
        | none => Run.quit 1 "output file suffixes exhausted"
        | some c => do
            let name := String.ofList (o.names.nameAt c)
            match o.filter with
            | some command => do
                if o.isTalkative then
                  Run.printLine ("executing with FILE=" ++ (← Run.shownName name)).toList
                filterPiece command name piece
            | none => do
                if o.isTalkative then
                  Run.printLine ("creating file " ++ (← Run.quoted name)).toList
                writePiece name piece
            writePieces o (o.names.next c) rest

/-! ## Arguments -/

/-- A number above zero; anything else ends the program. -/
def positiveArgument (units what t : String) : Run Nat := do
  match quantityOf units t.toList with
  | .ok 0 => do Run.quit 1 (what ++ ": " ++ (← Run.inQuotes t))
  | .ok n => return n
  | .error .tooLarge => return quantityLimit
  | .error .invalid => do Run.quit 1 (what ++ ": " ++ (← Run.inQuotes t))

/-- A number of chunks, after the number of the one that is asked for if
    there is a slash. -/
def chunkArgument (t : Octets) : Run (Option Nat × Nat) := do
  let what := "invalid number of chunks"
  let first := t.takeWhile (· != '/')
  match t.drop first.length, plainQuantity first with
  | _ :: count, .ok k => do
      let n ← positiveArgument "" what (String.ofList count)
      if 1 ≤ k && k ≤ n then return (some k, n)
      else Run.quit 1 ("invalid chunk number: " ++ (← Run.inQuotes (String.ofList first)))
  | _, _ => return (none, ← positiveArgument "" what (String.ofList t))

/-- The division that a value of an option gives, and the piece of it that
    is asked for. -/
def divisionArgument (key value : String) : Run (Splitting × Option Nat) := do
  if key == "b" then
    return (.octets (← positiveArgument countUnits "invalid number of bytes" value), none)
  else if key == "C" then
    return (.filled (← positiveArgument countUnits "invalid number of lines" value), none)
  else if key == "n" then
    match value.toList.dropWhile isSpace with
    | 'r' :: '/' :: t => do
        let (k, n) ← chunkArgument t
        return (.rounds n, k)
    | 'l' :: '/' :: t => do
        let (k, n) ← chunkArgument t
        return (.lineChunks n, k)
    | t => do
        let (k, n) ← chunkArgument t
        return (.chunks n, k)
  else return (.lines (← positiveArgument "" "invalid number of lines" value), none)

/-- The separator that an argument names. -/
def separatorArgument (before : Option Char) (value : String) : Run (Option Char) := do
  let c ←
    match value.toList with
    | [] => Run.quit 1 "empty record separator"
    | [c] => pure c
    | t =>
        if t == "\\0".toList then pure '\x00'
        else do Run.quit 1 ("multi-character separator " ++ (← Run.inQuotes value))
  if (before.map (· != c)).getD false then
    Run.quit 1 "multiple separator characters specified"
  else return some c

/-- What the options say. -/
structure SplittingPlan where
  division : Option (Splitting × Option Nat)
  /-- The number that digits alone have given. -/
  digits : Option String
  alphabet : Octets
  /-- What the count starts with. -/
  start : Option Octets
  length : Nat
  ending : Octets
  separator : Option Char

/-- Takes an option into account. -/
def splittingStep (p : SplittingPlan) (key : String) (value : Option String) : Run SplittingPlan := do
  let v := value.getD ""
  let twice : Run SplittingPlan := Run.misuse 1 "cannot split in more than one way"
  let counting := fun (alphabet what : String) => do
    match value with
    | none => return { p with alphabet := alphabet.toList }
    | some t =>
        if t.toList.all fun c => alphabet.toList.contains c then
          let bare := t.toList.dropWhile (· == '0')
          let start := if bare.isEmpty then t.toList.take 1 else bare
          return { p with alphabet := alphabet.toList, start := some start }
        else
          Run.misuse 1 ((← Run.inQuotes t) ++ ": invalid start value for " ++ what ++ " suffix")
  match key with
  | "a" =>
      let n ← signedArgument 1 "invalid suffix length" v
      if n < 0 then
        Run.quit 1 ("invalid suffix length: " ++ (← Run.inQuotes v) ++ ": Numerical result out of range")
      else return { p with length := n.toNat }
  | "additional-suffix" =>
      if v.toList.contains '/' then
        Run.misuse 1 ("invalid suffix " ++ (← Run.inQuotes v) ++ ", contains directory separator")
      else return { p with ending := v.toList }
  | "d" => counting "0123456789" "numerical"
  | "numeric-suffixes" => counting "0123456789" "numerical"
  | "x" => counting "0123456789abcdef" "hexadecimal"
  | "hex-suffixes" => counting "0123456789abcdef" "hexadecimal"
  | "t" => return { p with separator := ← separatorArgument p.separator v }
  | _ =>
      if ["b", "C", "l", "n"].contains key then
        if p.division.isSome || p.digits.isSome then twice
        else return { p with division := some (← divisionArgument key v) }
      else if key.toList.all isDigit then
        if p.division.isSome then twice
        else return { p with digits := some (key ++ v) }
      else return p

/-- Takes options into account. -/
def splittingSteps : List (String × Option String) → SplittingPlan → Run SplittingPlan
  | [], p => return p
  | (key, value) :: rest, p => do splittingSteps rest (← splittingStep p key value)

/-- How many letters the count has; the number of pieces may ask for more. -/
def countLength (p : SplittingPlan) (division : Splitting) : Run Nat := do
  let needed :=
    match division.pieceCount? with
    | none => 0
    | some n =>
        let last :=
          match p.start with
          | some start =>
              let first := valueOfDigits 10 start
              if start.all isDigit && first < n then n - 1 + first else n - 1
          | none => n - 1
        lettersFor p.alphabet.length 64 last
  if p.length = 0 then return max 2 needed
  else if p.length < needed then
    Run.quit 1 ("the suffix length needs to be at least " ++ String.ofList (decimal needed))
  else return p.length

/-- Writes the pieces of an input to files. -/
def split : Tool := fun arguments => do
  let digits : List OptionSpec := "0123456789".toList.map fun c => ⟨some c, "", .optional⟩
  let g ← given
    ([valued 'b' "bytes", valued 'l' "lines", valued 'C' "line-bytes", valued 'n' "number",
      flag 'e' "elide-empty-files", flag 'u' "unbuffered", valued 'a' "suffix-length",
      long "additional-suffix" .required, flag 'd' "", long "numeric-suffixes" .optional, flag 'x' "",
      long "hex-suffixes" .optional, long "filter" .required, long "verbose" .none,
      valued 't' "separator"] ++ digits) 1 arguments
  let p ← splittingSteps g.options ⟨none, none, "abcdefghijklmnopqrstuvwxyz".toList, none, 0, [], none⟩
  let (division, part) ←
    match p.division, p.digits with
    | some d, _ => pure d
    | none, some t =>
        match quantityOf "" t.toList with
        | .ok 0 => do Run.misuse 1 ("invalid number of lines: " ++ (← Run.inQuotes "0"))
        | .ok n => pure (.lines n, none)
        | .error _ => pure (.lines quantityLimit, none)
    | none, none => pure (Splitting.lines 1000, none)
  if part.isSome && g.has "filter" then
    Run.misuse 1 "--filter does not process a chunk extracted to stdout"
  let length ← countLength p division
  let (name, stem) ←
    match g.operands with
    | [] => pure ("-", "x")
    | [name] => pure (name, "x")
    | [name, stem] => pure (name, stem)
    | _ :: _ :: operand :: _ => Run.extra 1 operand
  let start := p.start.getD []
  if length < start.length then
    Run.misuse 1 "numerical suffix start value is too large for the suffix length"
  if name != "-" then
    match ← Run.openAs name .read with
    | .error e => Run.quit 1 ("cannot open " ++ (← Run.quoted name) ++ " for reading: " ++ e.text)
    | .ok d => do
        match ← Run.openingNumber d with
        | some number => Run.connect 0 number
        | none => pure ()
        Run.close d
  match ← Run.readAll 0 with
  | .error e =>
      if division.isMeasured then
        Run.quit 1 ((← Run.shownName name) ++ ": cannot determine file size: " ++ e.text)
      else quitOver name e
  | .ok t => do
      let pieces := division.pieces (p.separator.getD '\n') t
      match part with
      | some k => do
          Run.print (pieces.getD (k - 1) [])
          return 0
      | none => do
          let grows := p.start.isNone && p.length = 0 && division.pieceCount?.isNone
          let names : PieceNames := ⟨stem.toList, p.alphabet, p.ending, grows⟩
          let places := start.map fun c => p.alphabet.findIdx (· == c)
          let digits := List.replicate (length - places.length) 0 ++ places
          writePieces ⟨names, g.value? "filter", g.has "e", g.has "verbose"⟩ (some ⟨[], digits⟩) pieces
          return 0

end HermesBundle.Shell.Tool
