import HermesBundle.Shell.Floating
import HermesBundle.Shell.Tools.Layout

/-! # Dumping — octets as numbers and characters

    The input is shown in blocks, each with its address and once in each of
    the types that were chosen.  A block that is like the one before it is
    left out. -/

namespace HermesBundle.Shell.Tool

/-! ## Types -/

/-- How octets are shown. -/
inductive DumpKind where
  | signed
  | unsigned
  | octal
  | hexadecimal
  | floating
  | name
  | character
deriving DecidableEq

/-- A type in which a block is shown. -/
structure DumpType where
  kind : DumpKind
  /-- How many octets make a value. -/
  size : Nat
  /-- Whether the block follows as text. -/
  hasText : Bool

namespace DumpType

/-- The width of a value. -/
def width (t : DumpType) : Nat :=
  match t.kind with
  | .signed => if t.size = 1 then 4 else if t.size = 2 then 6 else if t.size = 4 then 11 else 20
  | .unsigned => if t.size = 1 then 3 else if t.size = 2 then 5 else if t.size = 4 then 10 else 20
  | .octal => if t.size = 1 then 3 else if t.size = 2 then 6 else if t.size = 4 then 11 else 22
  | .hexadecimal => 2 * t.size
  | .floating => if t.size = 4 then 15 else if t.size = 8 then 24 else 28
  | .name => 3
  | .character => 3

end DumpType

/-- The names of the first characters. -/
def controlNames : List String :=
  ["nul", "soh", "stx", "etx", "eot", "enq", "ack", "bel", "bs", "ht", "nl", "vt", "ff", "cr", "so",
   "si", "dle", "dc1", "dc2", "dc3", "dc4", "nak", "syn", "etb", "can", "em", "sub", "esc", "fs",
   "gs", "rs", "us", "sp"]

/-- The name of a character, of which the highest bit does not count. -/
def characterName (c : Char) : Octets :=
  let n := c.toNat % 128
  if n = 127 then "del".toList
  else match controlNames[n]? with
    | some name => name.toList
    | none => [Char.ofNat n]

/-- A character or its escape. -/
def characterText (c : Char) : Octets :=
  match c with
  | '\x00' => "\\0".toList
  | '\x07' => "\\a".toList
  | '\x08' => "\\b".toList
  | '\t' => "\\t".toList
  | '\n' => "\\n".toList
  | '\x0b' => "\\v".toList
  | '\x0c' => "\\f".toList
  | '\r' => "\\r".toList
  | c => if isPrintable c then [c] else zeroPadded 8 3 c.toNat

/-- The number that octets stand for, the lowest octet first. -/
def littleNumber (t : Octets) : Nat := t.foldr (fun c n => n * 256 + c.toNat) 0

/-- The floating number that bits stand for, given how many of them belong
    to the exponent and to the fraction. -/
def floatingOfBits (exponentBits fractionBits n : Nat) : Floating :=
  let fraction := n % Nat.pow 2 fractionBits
  let exponent := n / Nat.pow 2 fractionBits % Nat.pow 2 exponentBits
  let negative := n / Nat.pow 2 (fractionBits + exponentBits) % 2 == 1
  let bias : Int := (Nat.pow 2 (exponentBits - 1) : Nat) - 1
  if exponent = Nat.pow 2 exponentBits - 1 then
    if fraction = 0 then .infinite negative else .nan negative
  else if exponent = 0 then .finite negative fraction (1 - bias - fractionBits)
  else .finite negative (fraction + Nat.pow 2 fractionBits) (exponent - bias - fractionBits)

/-- The shortest text of a floating number that reads back as the same; it is
    sought from some number of digits on. -/
def shortestText (form : FloatingForm) (x : Floating) : Nat → Nat → Octets
  | 0, _ => []
  | fuel + 1, digits =>
      match x with
      | .finite negative m e =>
          let t := Floating.signText negative ++ Floating.sizeText m e 'g' (some digits) false
          let same :=
            match Floating.read form t with
            | some (.finite _ m' e', []) =>
                let (a, b) := Floating.ratio m e
                let (c, d) := Floating.ratio m' e'
                a * d == c * b
            | _ => false
          if same then t else if fuel = 0 then t else shortestText form x fuel (digits + 1)
      | x => Floating.specialText x false

/-- A value as a type shows it. -/
def dumpedValue (t : DumpType) (octets : Octets) : Octets :=
  let n := littleNumber octets
  let bits := 8 * t.size
  match t.kind with
  | .signed =>
      signedDecimal (if n < Nat.pow 2 (bits - 1) then (n : Int) else (n : Int) - (Nat.pow 2 bits : Nat))
  | .unsigned => decimal n
  | .octal => zeroPadded 8 t.width n
  | .hexadecimal => zeroPadded 16 t.width n
  | .name => characterName (octets.headD ' ')
  | .character => characterText (octets.headD ' ')
  | .floating =>
      if t.size = 4 then
        let x := floatingOfBits 8 23 n
        shortestText ⟨24, -149, 104⟩ x 12 (firstDigits 6 (n % Nat.pow 2 31 < Nat.pow 2 23))
      else
        let x := floatingOfBits 11 52 n
        shortestText .double x 20 (firstDigits 15 (n % Nat.pow 2 63 < Nat.pow 2 52))
where
  /-- How many digits are tried first; small numbers start with one. -/
  firstDigits (usual : Nat) (isSmall : Bool) : Nat := if isSmall then 1 else usual

/-- How a size follows the letter of a type: the octets that it stands for and
    the rest, or what is wrong. -/
def typeSize (isFloating : Bool) (t : Octets) : Except (Option Nat) (Nat × Octets) :=
  match t with
  | 'C' :: rest => if isFloating then .ok (8, t) else .ok (1, rest)
  | 'S' :: rest => if isFloating then .ok (8, t) else .ok (2, rest)
  | 'I' :: rest => if isFloating then .ok (8, t) else .ok (4, rest)
  | 'L' :: rest => if isFloating then .ok (16, rest) else .ok (8, rest)
  | 'F' :: rest => if isFloating then .ok (4, rest) else .ok (4, t)
  | 'D' :: rest => if isFloating then .ok (8, rest) else .ok (4, t)
  | _ =>
      let digits := t.takeWhile isDigit
      let rest := t.drop digits.length
      let n := valueOfDigits 10 digits
      if digits.isEmpty then .ok (if isFloating then 8 else 4, rest)
      else if Nat.pow 2 31 ≤ n then .error none
      else if (if isFloating then [4, 8, 16] else [1, 2, 4, 8]).contains n then .ok (n, rest)
      else .error (some n)

/-- Reads a description of types, or says why it is none. -/
def readDumpTypes (shown : String) : Nat → Octets → List DumpType → Except String (List DumpType)
  | 0, _, found => .ok found.reverse
  | _, [], found => .ok found.reverse
  | fuel + 1, c :: rest, found =>
      let add := fun (kind : DumpKind) (size : Nat) (rest : Octets) =>
        match rest with
        | 'z' :: rest => readDumpTypes shown fuel rest (⟨kind, size, true⟩ :: found)
        | rest => readDumpTypes shown fuel rest (⟨kind, size, false⟩ :: found)
      let sized := fun (kind : DumpKind) =>
        match typeSize (kind == .floating) rest with
        | .ok (size, rest) => add kind size rest
        | .error none => .error ("invalid type string " ++ shown)
        | .error (some n) =>
            .error ("invalid type string " ++ shown ++ ";\nthis system doesn\x27t provide a "
              ++ toString n ++ "-byte "
              ++ (if kind == .floating then "floating point" else "integral") ++ " type")
      match c with
      | 'a' => add .name 1 rest
      | 'c' => add .character 1 rest
      | 'd' => sized .signed
      | 'u' => sized .unsigned
      | 'o' => sized .octal
      | 'x' => sized .hexadecimal
      | 'f' => sized .floating
      | c =>
          .error ("invalid character \x27" ++ String.singleton c ++ "\x27 in type string " ++ shown)

/-- The types that options of one letter stand for. -/
def dumpShortcut : String → Option String
  | "a" => some "a"
  | "b" => some "o1"
  | "c" => some "c"
  | "d" => some "u2"
  | "D" => some "u4"
  | "e" => some "fD"
  | "F" => some "fD"
  | "f" => some "fF"
  | "H" => some "x4"
  | "X" => some "x4"
  | "h" => some "x2"
  | "x" => some "x2"
  | "i" => some "dI"
  | "I" => some "dL"
  | "l" => some "dL"
  | "L" => some "dL"
  | "O" => some "o4"
  | "B" => some "o2"
  | "o" => some "o2"
  | "s" => some "d2"
  | _ => none

/-! ## Blocks -/

/-- How addresses are written. -/
inductive AddressForm where
  | octal
  | decimal
  | hexadecimal
  | none
deriving DecidableEq

/-- An address. -/
def addressText (form : AddressForm) (n : Nat) : Octets :=
  match form with
  | .octal => zeroPadded 8 7 n
  | .decimal => zeroPadded 10 7 n
  | .hexadecimal => zeroPadded 16 6 n
  | .none => []

/-- How blocks are shown. -/
structure DumpStyle where
  types : List DumpType
  address : AddressForm
  /-- The octets of a block. -/
  block : Nat
  showsAll : Bool

/-- How wide the values of a block are in the widest type. -/
def DumpStyle.width (s : DumpStyle) : Nat :=
  (s.types.map fun t => (t.width + 1) * (s.block / t.size)).foldl max 0

/-- Pieces of some length; the last one is filled up with zeros. -/
def piecesOf (size : Nat) : Nat → Octets → List Octets
  | 0, _ => []
  | _, [] => []
  | fuel + 1, t =>
      let piece := t.take size
      (piece ++ List.replicate (size - piece.length) '\x00') :: piecesOf size fuel (t.drop size)

/-- A block in a type.  What the type is narrower than the widest one is
    spread between the values. -/
def dumpedBlock (s : DumpStyle) (t : DumpType) (block : Octets) : Octets :=
  let fields := s.block / t.size
  let pad := s.width - (t.width + 1) * fields
  let padAt := fun i => pad * i / fields
  let values := piecesOf t.size (block.length + 1) block
  let shown := values.zipIdx.map fun (v, n) =>
    let i := fields - n
    padLeft ' ' (padAt i - padAt (i - 1) + t.width + 1) (dumpedValue t v)
  let text := shown.flatten
  if t.hasText then
    let blank := fields - values.length
    let fill := List.replicate (blank * (t.width + 1) + pad * blank / fields) ' '
    text ++ fill ++ "  >".toList ++ block.map (fun c => if isPrintable c then c else '.') ++ ['<']
  else text

/-- The lines of a block at an address. -/
def blockLines (s : DumpStyle) (address : Nat) (block : Octets) : Octets :=
  let lead := addressText s.address address
  let blank := List.replicate lead.length ' '
  s.types.zipIdx.flatMap fun (t, n) =>
    (if n = 0 then lead else blank) ++ dumpedBlock s t block ++ ['\n']

/-- The lines of all blocks; those found so far are in reverse.  The flag
    says that the block before was left out. -/
def dumpLoop (s : DumpStyle) : Nat → Nat → Option Octets → Bool → Octets → List Octets → List Octets
  | 0, _, _, _, _, found => found.reverse
  | fuel + 1, address, before, omitted, t, found =>
      if t.isEmpty then (addressText s.address address :: found).reverse
      else
        let block := t.take s.block
        let rest := t.drop s.block
        let next := address + block.length
        if !s.showsAll && before == some block && block.length = s.block then
          dumpLoop s fuel next before true rest (if omitted then found else "*\n".toList :: found)
        else dumpLoop s fuel next (some block) false rest (blockLines s address block :: found)

/-- The printable texts of some length that end with a zero, with their
    addresses; those found so far are in reverse. -/
def textRuns (least : Nat) : Nat → Nat → Octets → Octets → List (Nat × Octets) → List (Nat × Octets)
  | 0, _, _, _, found => found.reverse
  | _, _, [], _, found => found.reverse
  | fuel + 1, address, c :: rest, run, found =>
      if isPrintable c then textRuns least fuel (address + 1) rest (c :: run) found
      else
        let found :=
          if c == '\x00' && least ≤ run.length then (address - run.length, run.reverse) :: found
          else found
        textRuns least fuel (address + 1) rest [] found

/-! ## The program -/

/-- A number in octal, decimal or hexadecimal digits with a unit, for an
    option; anything else ends the program. -/
def addressArgument (option t : String) : Run Nat := do
  let (base, digits) := match t.toList with
    | '0' :: 'x' :: rest => (16, rest.takeWhile isHexadecimal)
    | '0' :: 'X' :: rest => (16, rest.takeWhile isHexadecimal)
    | '0' :: rest => (8, '0' :: rest.takeWhile isOctal)
    | rest => (10, rest.takeWhile isDigit)
  let lead := if base = 16 then 2 else 0
  let unit := t.toList.drop (lead + digits.length)
  match digits.isEmpty, unitFactor countUnits unit with
  | false, some factor =>
      let n := valueOfDigits base digits * factor
      if quantityLimit < n then Run.quit 1 (option ++ " argument \x27" ++ t ++ "\x27 too large")
      else return n
  | true, _ => Run.quit 1 ("invalid " ++ option ++ " argument \x27" ++ t ++ "\x27")
  | false, none => Run.quit 1 ("invalid suffix in " ++ option ++ " argument \x27" ++ t ++ "\x27")

/-- The content of an input up to some number of octets. -/
def contentUpTo (limit : Option Nat) (name : String) : Run (Except Errno Octets) := do
  match limit with
  | none => inputContent name
  | some limit => do
      match ← openInput name with
      | .error e => return .error e
      | .ok i => do
          let t ← readUpTo i.descriptor (limit + 1) limit []
          closeInput i
          return t
where
  /-- Reads until there is enough. -/
  readUpTo (descriptor : Nat) : Nat → Nat → List Octets → Run (Except Errno Octets)
    | 0, _, found => return .ok found.reverse.flatten
    | fuel + 1, limit, found =>
        if limit = 0 then return .ok found.reverse.flatten
        else do
          match ← Run.read descriptor limit with
          | .error e => return .error e
          | .ok [] => return .ok found.reverse.flatten
          | .ok t => readUpTo descriptor fuel (limit - t.length) (t :: found)

/-- The content of some inputs together, up to some number of octets. -/
def contentOfAll : List String → Option Nat → List Octets → Nat → Run (Octets × Nat)
  | [], _, found, status => return (found.reverse.flatten, status)
  | name :: rest, limit, found, status => do
      if limit == some 0 && !found.isEmpty then return (found.reverse.flatten, status)
      match ← contentUpTo limit name with
      | .error e => do
          Run.objection ((← titledName name) ++ ": " ++ e.text)
          contentOfAll rest limit found 1
      | .ok t => contentOfAll rest (limit.map fun n => n - t.length) (t :: found) status

/-- The names from the first one on that can be opened; what is before it is
    complained about. -/
def fromFirstThere : List String → Nat → Run (List String × Nat)
  | [], status => return ([], status)
  | name :: rest, status => do
      match ← if name == "-" then pure none else failureOf name with
      | none => return (name :: rest, status)
      | some e => do
          fileFailure name e
          fromFirstThere rest 1
where
  /-- Why a file cannot be opened. -/
  failureOf (name : String) : Run (Option Errno) := do
    match ← Run.status true name with
    | .ok _ => return none
    | .error e => return some e

/-- An offset after a plus sign, as an operand. -/
def offsetOperand (t : String) : Option Nat :=
  match t.toList with
  | '+' :: body =>
      let (body, factor) := match body.getLast? with
        | some 'b' => (body.dropLast, 512)
        | _ => (body, 1)
      let (body, base) := match body.getLast? with
        | some '.' => (body.dropLast, 10)
        | _ => (body, 8)
      let (body, base) := match body with
        | '0' :: 'x' :: rest => (rest, 16)
        | body => (body, base)
      if !body.isEmpty && body.all (fun c => digitValue c < base) then
        some (valueOfDigits base body * factor)
      else none
  | _ => none

/-- Shows octets as numbers and characters. -/
def od : Tool := fun arguments => do
  let g ← given
    ([valued 'A' "address-radix", valued 'j' "skip-bytes", valued 'N' "read-bytes",
      valued 'S' "", long "strings" .optional, valued 't' "format", flag 'v' "output-duplicates",
      ⟨some 'w', "width", .optional⟩, long "endian" .required, long "traditional" .none]
      ++ flags "abcdDefFhHiIlLoOBsxX") 1 arguments
  let mut types : List DumpType := []
  let mut isWrong := false
  let mut address := AddressForm.octal
  let mut skip := 0
  let mut limit : Option Nat := none
  let mut strings : Option Nat := none
  let mut width : Option Nat := none
  for (key, value) in g.options do
    let t := value.getD ""
    match dumpShortcut key with
    | some types' =>
        match readDumpTypes "" (types'.length + 1) types'.toList [] with
        | .ok more => types := types ++ more
        | .error _ => pure ()
    | none =>
        match key with
        | "A" =>
            match t.toList with
            | 'd' :: _ => address := .decimal
            | 'o' :: _ => address := .octal
            | 'x' :: _ => address := .hexadecimal
            | 'n' :: _ => address := .none
            | cs =>
                Run.quit 1 ("invalid output address radix \x27" ++ String.ofList (cs.take 1)
                  ++ "\x27; it must be one character from [doxn]")
        | "j" => skip ← addressArgument "-j" t
        | "N" => limit := some (← addressArgument "-N" t)
        | "S" => strings := some (← addressArgument "-S" t)
        | "strings" =>
            let n ← match value with
              | some t => addressArgument "--strings" t
              | none => pure 3
            strings := some n
        | "t" =>
            match readDumpTypes (← Run.inQuotes t) (t.length + 1) t.toList [] with
            | .ok more => types := types ++ more
            | .error e => do
                Run.objection e
                isWrong := true
        | "w" =>
            match value with
            | none => width := some 32
            | some t =>
                match quantityOf "" t.toList with
                | .ok n => width := some n
                | .error _ =>
                    if (t.toList.takeWhile isDigit).isEmpty then
                      Run.quit 1 ("invalid -w argument \x27" ++ t ++ "\x27")
                    else Run.quit 1 ("invalid suffix in -w argument \x27" ++ t ++ "\x27")
        | _ => pure ()
  if isWrong then return 1
  if strings.isSome && !types.isEmpty then
    Run.quit 1 "no type may be specified when dumping strings"
  let shown := if types.isEmpty then [⟨.octal, 2, false⟩] else types
  -- A last operand can be an offset if no option says otherwise.
  let isModern := g.options.any fun (key, _) => (dumpShortcut key).isNone && key != "v"
  let (operands, start) :=
    match isModern, g.operands.getLast?.bind offsetOperand with
    | false, some n => if g.operands.length ≤ 2 then (g.operands.dropLast, n) else (g.operands, skip)
    | _, _ => (g.operands, skip)
  let operands := if operands.isEmpty then ["-"] else operands
  let (operands, missed) ← fromFirstThere operands 0
  if operands.isEmpty then return 1
  let common := shown.foldl (fun n t => Nat.lcm n t.size) 1
  let block := (width.filter fun n => n != 0 && n % common = 0).getD
    (if width.isSome || common ≥ 16 then common else common * (16 / common))
  let warn := do
    if width.any fun n => n != block then
      Run.objection ("warning: invalid width " ++ toString (width.getD 0) ++ "; using "
        ++ toString common ++ " instead")
  if start = 0 && strings.isNone then warn
  let (content, status) ← contentOfAll operands (limit.map (· + start)) [] missed
  if content.length < start then
    Run.quit 1 "cannot skip past end of combined input"
  let content := content.drop start
  match strings with
  | some least => do
      for (n, t) in textRuns least (content.length + 1) start content [] [] do
        let lead := addressText address n
        Run.printLine (lead ++ (if lead.isEmpty then [] else [' ']) ++ t)
      return status
  | none => do
      if start != 0 then warn
      let s : DumpStyle := ⟨shown, address, block, g.has "v"⟩
      Run.print (dumpLoop s (content.length + 2) start none false content []).flatten
      if address != .none then Run.print ['\n']
      return status

end HermesBundle.Shell.Tool
