import HermesBundle.Shell.Format
import HermesBundle.Shell.Tools.Quantity

/-! # Numbers — programs that count, divide and repeat -/

namespace HermesBundle.Shell.Tool

/-! ## Sequences -/

/-- A number of a sequence as a fraction with a power of ten below, and how
    it was written. -/
structure SequenceNumber where
  /-- None if there is no bound. -/
  value : Option Int
  places : Nat
  isNegative : Bool
  /-- The width of the number; only some ways of writing have one. -/
  width : Nat
  /-- The number of digits after the point, if it is known. -/
  precision : Option Nat

/-- The number an argument of a sequence stands for. -/
def sequenceNumber? (t : Octets) : Option SequenceNumber := do
  let (x, rest) ← Floating.read .extended t
  if !rest.isEmpty then none
  else do
    let bare := (t.dropWhile isSpace).dropWhile (· == '+')
    match x with
    | .nan _ => none
    | .infinite negative => some ⟨none, 0, negative, 0, some 0⟩
    | .finite negative m e =>
        let isHexadecimal := bare.any fun c => lowered c == 'x'
        if isHexadecimal then
          let (num, den) := Floating.ratio m e
          let places := if den = 1 then 0 else den.log2
          let n := num * Nat.pow 10 places / den
          some ⟨some (if negative then -(n : Int) else n), places, negative, bare.length,
            if bare.contains '.' || bare.any (fun c => lowered c == 'p') then none else some 0⟩
        else
          let unsigned := if bare.head? == some '-' then bare.drop 1 else bare
          let (n, places, after) ← Floating.readDigits 10 unsigned
          let exponent := ((Floating.readExponent 'e' after).map (·.1)).getD 0
          let hasPoint := bare.contains '.'
          let lead := bare.takeWhile fun c => lowered c != 'e'
          let beforePoint := (lead.takeWhile (· != '.')).getLast?
          let width : Int := lead.length
            + (if !hasPoint then 0
              else if places = 0 then -1
              else if (beforePoint.map isDigit).getD false then 0 else 1)
          let precision : Int := places
          let precision := if exponent < 0 then precision - exponent else precision - min precision exponent
          let width :=
            if after.isEmpty then width
            else if exponent < 0 then
              (if hasPoint then if places = 0 then width + 1 else width else width + 1) - exponent
            else
              let width := if hasPoint && precision == 0 && 0 < places then width - 1 else width
              width + (exponent - min (places : Int) exponent)
          let value : Int := if negative then -(n : Int) else n
          let scale : Int := (places : Int) - exponent
          let exact := if scale < 0 then value * Nat.pow 10 (-scale).toNat else value
          some ⟨some exact, scale.toNat, negative, width.toNat, some precision.toNat⟩

/-- A number of a sequence; anything else ends the program. -/
def sequenceNumber (t : String) : Run SequenceNumber := do
  match sequenceNumber? t.toList with
  | some n => return n
  | none =>
      match Floating.read .extended t.toList with
      | some (.nan _, []) => do
          Run.misuse 1 ("invalid " ++ (← Run.inQuotes "not-a-number") ++ " argument: "
            ++ (← Run.inQuotes t))
      | _ => do Run.misuse 1 ("invalid floating point argument: " ++ (← Run.inQuotes t))

/-- The format of a sequence in its parts. -/
structure SequenceFormat where
  lead : Octets
  flags : Octets
  width : Nat
  precision : Option Nat
  kind : Char
  tail : Octets

/-- Text with doubled percent signs up to a single one; the text is in
    reverse. -/
def plainPart : Nat → Octets → Octets → Octets × Octets
  | 0, t, found => (found, t)
  | fuel + 1, t, found =>
      match t with
      | '%' :: '%' :: rest => plainPart fuel rest ('%' :: found)
      | '%' :: rest => (found, '%' :: rest)
      | c :: rest => plainPart fuel rest (c :: found)
      | [] => (found, [])

/-- The format of an argument; anything else ends the program. -/
def sequenceFormat (t : String) : Run SequenceFormat := do
  let shown ← Run.inQuotes t
  let cs := t.toList
  let (lead, rest) := plainPart (cs.length + 1) cs []
  match rest with
  | [] => Run.quit 1 ("format " ++ shown ++ " has no % directive")
  | _ :: rest => do
      let flags := rest.takeWhile fun c => "-+#0 \x27".toList.contains c
      let rest := rest.drop flags.length
      let width := rest.takeWhile isDigit
      let rest := rest.drop width.length
      let (precision, rest) :=
        match rest with
        | '.' :: r =>
            let digits := r.takeWhile isDigit
            (some (valueOfDigits 10 digits), r.drop digits.length)
        | r => (none, r)
      let rest := if rest.head? == some 'L' then rest.drop 1 else rest
      match rest with
      | [] => Run.quit 1 ("format " ++ shown ++ " ends in %")
      | kind :: rest =>
          if !"efgaEFGA".toList.contains kind then
            Run.quit 1 ("format " ++ shown ++ " has unknown %" ++ String.singleton kind ++ " directive")
          else
            let (tail, after) := plainPart (rest.length + 1) rest []
            if after.isEmpty then
              return ⟨lead.reverse, flags, valueOfDigits 10 width, precision, kind, tail.reverse⟩
            else Run.quit 1 ("format " ++ shown ++ " has too many % directives")

/-- The numbers of a sequence: they are all over one power of ten. -/
structure Sequence where
  first : Int
  step : Int
  /-- None if there is no bound. -/
  last : Option Int
  places : Nat
  /-- Whether the first number is zero with a minus sign. -/
  startsBelow : Bool

/-- A number of a sequence in a format, without what stands around it. -/
def sequenceText (s : Sequence) (f : SequenceFormat) (i : Nat) (n : Int) : Octets :=
  let negative := n < 0 || (i == 0 && n == 0 && s.startsBelow)
  shownFloating f.flags f.width f.precision f.kind
    (Floating.ofQuotient .extended negative n.natAbs (Nat.pow 10 s.places))

/-- Prints a sequence from some place on. -/
def printSequence (s : Sequence) (f : SequenceFormat) (separator : Octets) : Nat → Nat → Run Unit
  | 0, _ => throw .stuck
  | fuel + 1, i => do
      let n := s.first + i * s.step
      let text := sequenceText s f i n
      Run.print (f.lead ++ text ++ f.tail)
      let next := n + s.step
      let isOver := match s.last with
        | none => false
        | some last => if s.step < 0 then next < last else last < next
      if !isOver then
        Run.print separator
        printSequence s f separator fuel (i + 1)
      else
        -- A number just beyond the last one that reads like it is printed too.
        let nextText := sequenceText s f (i + 1) next
        let readsAsLast :=
          match sequenceNumber? nextText, s.last with
          | some shown, some last =>
              match shown.value with
              | some v => v * Nat.pow 10 s.places == last * Nat.pow 10 shown.places
              | none => false
          | _, _ => false
        if readsAsLast && nextText != text then
          Run.print (separator ++ f.lead ++ nextText ++ f.tail)

/-- How many numbers a sequence can have. -/
def sequenceLimit : Nat := 10000000

/-- Options up to the first operand or negative number. -/
def signedOperands (specs : List OptionSpec) (arguments : List String) : Run Given := do
  let isNumber := fun (t : String) =>
    match t.toList with
    | '-' :: c :: _ => c == '.' || isDigit c
    | _ => false
  let rec divide : Nat → List String → List String × List String
    | 0, rest => ([], rest)
    | _, [] => ([], [])
    | fuel + 1, t :: rest =>
        if isNumber t || t == "--" || t.toList.head? != some '-' || t == "-" then ([], t :: rest)
        else
          let takesNext := ["-s", "-f", "--separator", "--format"].contains t
          match takesNext, rest with
          | true, v :: more =>
              let (a, b) := divide fuel more
              (t :: v :: a, b)
          | _, _ =>
              let (a, b) := divide fuel rest
              (t :: a, b)
  let (options, operands) := divide (arguments.length + 1) arguments
  let g ← givenBefore specs 1 options
  let operands := if operands.head? == some "--" then operands.drop 1 else operands
  return { g with operands := g.operands ++ operands }

/-- Prints numbers in even steps. -/
def seq : Tool := fun arguments => do
  let g ← signedOperands [valued 'f' "format", valued 's' "separator", flag 'w' "equal-width"] arguments
  let operands := g.operands
  if operands.isEmpty then Run.missing 1 "operand"
  if operands.length > 3 then Run.extra 1 ((operands[3]?).getD "")
  let format ← match g.value? "f" with
    | some t => do pure (some (← sequenceFormat t))
    | none => pure none
  if format.isSome && g.has "w" then
    Run.misuse 1 "format string may not be specified when printing equal width strings"
  let one : SequenceNumber := ⟨some 1, 0, false, 1, some 0⟩
  let (first, step, last) ← match operands with
    | [last] => do pure (one, one, ← sequenceNumber last)
    | [first, last] => do
        let first ← sequenceNumber first
        pure (first, one, ← sequenceNumber last)
    | first :: step :: rest => do
        let first ← sequenceNumber first
        let shown := step
        let step ← sequenceNumber step
        if step.value == some 0 then
          Run.misuse 1 ("invalid Zero increment value: " ++ (← Run.inQuotes shown))
        pure (first, step, ← sequenceNumber (rest.headD ""))
    | [] => pure (one, one, one)
  let places := max first.places (max step.places last.places)
  let scaled := fun (n : SequenceNumber) =>
    n.value.map fun (v : Int) => v * ((Nat.pow 10 (places - n.places) : Nat) : Int)
  let format ← match format with
    | some f => pure f
    | none =>
        match first.precision, step.precision, last.precision with
        | some p, some q, some r =>
            let precision := max p q
            let firstWidth : Int := (first.width : Int) + (precision - p : Nat)
              + (if p = 0 && precision > 0 then 1 else 0)
            let lastWidth : Int := (last.width : Int) + ((precision : Int) - r)
              + (if r > 0 && precision = 0 then -1 else if r = 0 && precision > 0 then 1 else 0)
            let width := if g.has "w" then (max firstWidth lastWidth).toNat else 0
            pure ⟨[], if g.has "w" then ['0'] else [], width, some precision, 'f', []⟩
        | _, _, _ => pure ⟨[], [], 0, none, 'g', []⟩
  match scaled first, scaled step with
  | some a, some d => do
      let bound := scaled last
      let isEmpty :=
        match bound with
        | some z => if d < 0 then a < z else z < a
        | none => if d < 0 then !last.isNegative else last.isNegative
      if !isEmpty then
        let s : Sequence := ⟨a, d, bound, places, first.isNegative && a == 0⟩
        printSequence s format ((g.value? "s").getD "\n").toList sequenceLimit 0
        Run.print ['\n']
      return 0
  | _, _ => return 0

/-! ## Repetition -/

/-- Writes octets without end. -/
def repeatText (t : Octets) : Nat → Run Nat
  | 0 => throw .stuck
  | fuel + 1 => do
      match ← Run.write 1 t with
      | none => repeatText t fuel
      | some e => do Run.quit 1 ("standard output: " ++ e.text)

/-- Writes its arguments without end. -/
def yes : Tool := fun arguments => do
  let g ← given [] 1 arguments
  let words := if g.operands.isEmpty then ["y"] else g.operands
  let line := joinWith [' '] (words.map String.toList) ++ ['\n']
  let copies := max 1 (blockSize / line.length)
  repeatText (List.replicate copies line).flatten 100000

/-! ## Factors -/

/-- Divides by a divisor as long as that leaves nothing over. -/
def divideOut (divisor : Nat) : Nat → Nat → List Nat → Nat × List Nat
  | 0, n, found => (n, found)
  | fuel + 1, n, found =>
      if 1 < n && n % divisor = 0 then divideOut divisor fuel (n / divisor) (divisor :: found)
      else (n, found)

/-- The prime factors from some divisor on, the greatest first. -/
def factorsFrom : Nat → Nat → Nat → List Nat → List Nat
  | 0, _, n, found => if 1 < n then n :: found else found
  | fuel + 1, divisor, n, found =>
      if n < divisor * divisor then if 1 < n then n :: found else found
      else
        let (n, found) := divideOut divisor 200 n found
        factorsFrom fuel (if divisor = 2 then 3 else divisor + 2) n found

/-- How many divisors are tried. -/
def divisorLimit : Nat := 3000000

/-- Writes a number with its prime factors. -/
def factorLine (g : Given) (t : Octets) : Run Nat := do
  let bare := t.dropWhile isSpace
  let bare := if bare.head? == some '+' then bare.drop 1 else bare
  match decimal? bare with
  | none => do
      Run.objection ((← Run.inQuotes (String.ofList t)) ++ " is not a valid positive integer")
      return 1
  | some n => do
      let factors := if n = 0 then [] else (factorsFrom divisorLimit 2 n []).reverse
      let groups := factors.eraseDups.map fun p => (p, factors.count p)
      let shown :=
        if g.has "h" then
          groups.map fun (p, k) => if k = 1 then decimal p else decimal p ++ ['\x5e'] ++ decimal k
        else factors.map decimal
      Run.printLine (decimal n ++ [':'] ++ shown.flatMap fun t => ' ' :: t)
      return 0

/-- Writes the prime factors of numbers. -/
def factor : Tool := fun arguments => do
  let g ← given [flag 'h' "exponents"] 1 arguments
  if g.operands.isEmpty then
    match ← inputContent "-" with
    | .ok t =>
        let words := (splitOn '\n' (t.map fun c => if isSpace c then '\n' else c)).filter fun w => !w.isEmpty
        overall (factorLine g) words 0
    | .error e => do
        Run.objection ("error reading input: " ++ e.text)
        return 1
  else overall (fun t => factorLine g t.toList) g.operands 0

end HermesBundle.Shell.Tool
