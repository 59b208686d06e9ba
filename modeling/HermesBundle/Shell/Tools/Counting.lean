import HermesBundle.Shell.Tools.Quantity

/-! # Counting — lines, words and characters of files -/

namespace HermesBundle.Shell

/-- Whether a character of UTF-8 divides words. -/
def isWordSpace (character : Octets) : Bool :=
  match character with
  | [c] => isSpace c
  | _ =>
      let n := codePointOf character
      n == 0x85 || n == 0xA0 || n == 0x1680 || (0x2000 ≤ n && n ≤ 0x200A) || n == 0x2028 || n == 0x2029
        || n == 0x202F || n == 0x205F || n == 0x2060 || n == 0x3000

/-- How many columns a character takes on the screen. -/
def columnsOf (character : Octets) : Nat :=
  match character with
  | [c] => if isPrintable c then 1 else 0
  | _ =>
      let n := codePointOf character
      let isWide := (0x1100 ≤ n && n ≤ 0x115F) || (0x2E80 ≤ n && n ≤ 0x303E)
        || (0x3041 ≤ n && n ≤ 0xA4CF) || (0xAC00 ≤ n && n ≤ 0xD7A3) || (0xF900 ≤ n && n ≤ 0xFAFF)
        || (0xFE30 ≤ n && n ≤ 0xFE6F) || (0xFF00 ≤ n && n ≤ 0xFF60) || (0xFFE0 ≤ n && n ≤ 0xFFE6)
        || (0x1F300 ≤ n && n ≤ 0x1F64F) || (0x1F900 ≤ n && n ≤ 0x1F9FF)
        || (0x20000 ≤ n && n ≤ 0x3FFFD)
      let isMark := (0x300 ≤ n && n ≤ 0x36F) || (0x200B ≤ n && n ≤ 0x200F) || (0xFE00 ≤ n && n ≤ 0xFE0F)
      if isMark || n < 0xA0 then 0 else if isWide then 2 else 1

namespace Tool

/-- What is counted. -/
structure Counts where
  lines : Nat
  words : Nat
  characters : Nat
  bytes : Nat
  /-- The width of the widest line. -/
  widest : Nat

/-- Nothing is counted. -/
def Counts.zero : Counts := ⟨0, 0, 0, 0, 0⟩

/-- The counts of two parts. -/
def Counts.add (a b : Counts) : Counts :=
  ⟨a.lines + b.lines, a.words + b.words, a.characters + b.characters, a.bytes + b.bytes,
    max a.widest b.widest⟩

/-- How far counting has come in a line and a word. -/
structure CountState where
  counts : Counts
  column : Nat
  isInWord : Bool

/-- Counts a character. -/
def countCharacter (isUtf8 : Bool) (s : CountState) (character : Octets) : CountState :=
  let c := s.counts
  let c := { c with characters := if isUtf8 && !isWellFormed character then c.characters else c.characters + 1 }
  let ended := { c with
    widest := max c.widest s.column, words := if s.isInWord then c.words + 1 else c.words }
  match character with
  | ['\n'] => ⟨{ ended with lines := c.lines + 1 }, 0, false⟩
  | ['\r'] => ⟨ended, 0, false⟩
  | ['\x0c'] => ⟨ended, 0, false⟩
  | ['\t'] => ⟨ended, s.column + 8 - s.column % 8, false⟩
  | ['\x0b'] => ⟨ended, s.column, false⟩
  | [' '] => ⟨ended, s.column + 1, false⟩
  | _ =>
      if isUtf8 && isWordSpace character then ⟨ended, s.column + columnsOf character, false⟩
      else
        let isShown := isShowable isUtf8 character
        ⟨c, s.column + (if isShown then columnsOf character else 0), s.isInWord || isShown⟩

/-- The counts of octets. -/
def countsOf (isUtf8 : Bool) (t : Octets) : Counts :=
  let units := if isUtf8 then characters t else t.map fun c => [c]
  let s := units.foldl (countCharacter isUtf8) ⟨.zero, 0, false⟩
  let c := s.counts
  { c with
    bytes := t.length, widest := max c.widest s.column
    words := if s.isInWord then c.words + 1 else c.words }

/-- The counts that are asked for, in their order. -/
def wantedCounts (g : Given) (c : Counts) : List Nat :=
  let none := !(["l", "w", "m", "c", "L"].any g.has)
  (if none || g.has "l" then [c.lines] else []) ++ (if none || g.has "w" then [c.words] else [])
    ++ (if g.has "m" then [c.characters] else []) ++ (if none || g.has "c" then [c.bytes] else [])
    ++ (if g.has "L" then [c.widest] else [])

/-- Writes counts. -/
def printCounts (g : Given) (width : Nat) (c : Counts) (name : Option String) : Run Unit := do
  let fields := (wantedCounts g c).map fun n => padLeft ' ' width (decimal n)
  let tail ← match name with
    | none => pure []
    | some t => do
        let shown ← if t.toList.contains '\n' then Run.shownName t else pure t
        pure (' ' :: shown.toList)
  Run.printLine (joinWith [' '] fields ++ tail)

/-- The width of the counts of files, by what they are. -/
def countWidth (statuses : List (Except Errno FileStatus)) : Nat :=
  match statuses.head? with
  | none => 1
  | some _ =>
      let known := statuses.filterMap Except.toOption
      let total := (known.filter fun f => f.kind == .regular).foldl (fun n f => n + f.size) 0
      let least := if known.any fun f => f.kind != .regular then 7 else 1
      max least (decimal total).length

/-- Counts lines, words and characters. -/
def wc : Tool := fun arguments => do
  let g ← given
    [flag 'c' "bytes", flag 'm' "chars", flag 'l' "lines", flag 'L' "max-line-length",
     flag 'w' "words", long "total" .required, long "files0-from" .required] 1 arguments
  let totals := (g.value? "total").getD "auto"
  let names : List (Option String) ← match g.value? "files0-from" with
    | none => pure (if g.operands.isEmpty then [none] else g.operands.map some)
    | some path =>
        match ← inputContent path with
        | .ok t => pure (((splitOn '\x00' t).filter fun name => !name.isEmpty).map fun name => some (String.ofList name))
        | .error e => Run.quit 1 ("cannot open " ++ (← Run.quoted path) ++ " for reading: " ++ e.text)
  let wanted := (wantedCounts g .zero).length
  let statuses ← names.mapM fun name =>
    match name with
    | none => Run.descriptorStatus 0
    | some "-" => Run.descriptorStatus 0
    | some path => Run.status true path
  let width := if (names.length = 1 && wanted = 1) || totals == "only" then 1 else countWidth statuses
  let isUtf8 ← Run.isUtf8
  let mut total := Counts.zero
  let mut status := 0
  for name in names do
    let show_ := fun (c : Counts) => do
      if totals != "only" then printCounts g width c name
    let shown ← match name with
      | none => Run.quoted inputTitle
      | some name => Run.shownName name
    match ← openInput (name.getD "-") with
    | .error e => do
        Run.objection (shown ++ ": " ++ e.text)
        status := 1
    | .ok i => do
        match ← Run.readAll i.descriptor with
        | .error e => do
            Run.objection (shown ++ ": " ++ e.text)
            status := 1
            show_ .zero
        | .ok t => do
            let c := countsOf isUtf8 t
            total := total.add c
            show_ c
        closeInput i
  if totals == "always" || totals == "only" || (totals != "never" && names.length > 1) then
    printCounts g width total (if totals == "only" then none else some "total")
  return status

end Tool

end HermesBundle.Shell
