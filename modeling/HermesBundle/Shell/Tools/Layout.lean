import HermesBundle.Shell.Regex.Notation
import HermesBundle.Shell.Tools.Passing

/-! # Layout — programs that number, fold and indent lines

    They look at lines one after the other and keep track of the column
    they are in.  A tab goes on to the next stop, which is a multiple of
    eight unless stops are given. -/

namespace HermesBundle.Shell.Tool

/-- What is done with the content of files, one after the other; files that
    cannot be read are complained about. -/
def forEachContent (operands : List String) (piece : Octets → Run Unit) : Run Nat :=
  overall
    (fun name => do
      match ← inputContent name with
      | .error e => do
          fileFailure name e
          return 1
      | .ok t => do
          piece t
          return 0)
    (if operands.isEmpty then ["-"] else operands) 0

/-! ## Numbers of lines -/

/-- Which lines of a part of a page are numbered. -/
inductive NumberingStyle where
  | all
  | filled
  | none
  | matching (search : Search)

/-- The style that an argument describes, if it is one. -/
def numberingStyle (isUtf8 : Bool) (t : String) : Except RegexFault (Option NumberingStyle) :=
  match t.toList with
  | 'a' :: _ => .ok (some .all)
  | 't' :: _ => .ok (some .filled)
  | 'n' :: _ => .ok (some .none)
  | 'p' :: pattern =>
      (Search.ofOctets .calculation isUtf8 ⟨false, false⟩ pattern).map fun r => some (.matching r)
  | _ => .ok Option.none

/-- How lines are numbered. -/
structure Numbering where
  header : NumberingStyle
  body : NumberingStyle
  footer : NumberingStyle
  mark : Octets
  first : Int
  increment : Int
  join : Nat
  isLeft : Bool
  isZeroed : Bool
  separator : Octets
  width : Nat
  restarts : Bool
  isUtf8 : Bool

/-- How far the numbering of lines has come. -/
structure NumberingState where
  style : NumberingStyle
  number : Int
  /-- How many empty lines there were since the last number. -/
  blanks : Nat
  out : List Octets

/-- The number in front of a line. -/
def Numbering.shown (n : Numbering) (number : Int) : Octets :=
  let digits := signedDecimal number
  let field :=
    if n.isLeft then padRight ' ' n.width digits
    else if n.isZeroed && number < 0 then '-' :: padLeft '0' (n.width - 1) (decimal number.natAbs)
    else padLeft (if n.isZeroed then '0' else ' ') n.width digits
  field ++ n.separator

/-- Numbers a line, or starts another part of a page. -/
def Numbering.step (n : Numbering) (s : NumberingState) (line : Octets) : NumberingState :=
  let mark := n.mark
  let starts := fun (count : Nat) =>
    2 ≤ mark.length && line == (List.replicate count mark).flatten
  let part := fun (style : NumberingStyle) =>
    { s with
      style := style, out := ['\n'] :: s.out, number := if n.restarts then n.first else s.number }
  if starts 3 then part n.header
  else if starts 2 then part n.body
  else if starts 1 then part n.footer
  else
    let numbered :=
      { s with
        number := s.number + n.increment, out := (n.shown s.number ++ line ++ ['\n']) :: s.out }
    let bare :=
      { s with
        out := (List.replicate (n.width + n.separator.length) ' ' ++ line ++ ['\n']) :: s.out }
    match s.style with
    | .all =>
        if n.join ≤ 1 || !line.isEmpty then { numbered with blanks := 0 }
        else if s.blanks + 1 = n.join then { numbered with blanks := 0 }
        else { bare with blanks := s.blanks + 1 }
    | .filled => if line.isEmpty then bare else numbered
    | .none => bare
    | .matching r => if r.isIn (Subject.ofOctets n.isUtf8 line) then numbered else bare

/-- Numbers lines. -/
def nl : Tool := fun arguments => do
  let g ← given
    [valued 'b' "body-numbering", valued 'd' "section-delimiter", valued 'f' "footer-numbering",
     valued 'h' "header-numbering", valued 'i' "line-increment", valued 'l' "join-blank-lines",
     valued 'n' "number-format", flag 'p' "no-renumber", valued 's' "number-separator",
     valued 'v' "starting-line-number", valued 'w' "number-width"] 1 arguments
  let isUtf8 ← Run.isUtf8
  let mut n : Numbering :=
    ⟨.none, .filled, .none, "\\:".toList, 1, 1, 1, false, false, ['\t'], 6, !g.has "p", isUtf8⟩
  let mut isFine := true
  for (key, value) in g.options do
    let t := value.getD ""
    match key with
    | "v" => n := { n with first := ← signedArgument 1 "invalid starting line number" t }
    | "i" => n := { n with increment := ← signedArgument 1 "invalid line number increment" t }
    | "l" =>
        n := { n with join := ← boundedArgument 1 "" 1 quantityLimit "invalid line number of blank lines" t }
    | "w" =>
        n := { n with width := ← boundedArgument 1 "" 1 2147483647 "invalid line number field width" t }
    | "s" => n := { n with separator := t.toList }
    | "d" =>
        n := { n with
          mark := match t.toList with
            | [c] => [c, ':']
            | cs => cs }
    | "n" =>
        if ["ln", "rn", "rz"].contains t then n := { n with isLeft := t == "ln", isZeroed := t == "rz" }
        else
          Run.objection ("invalid line numbering format: " ++ (← Run.inQuotes t))
          isFine := false
    | "p" => pure ()
    | _ =>
        match numberingStyle isUtf8 t with
        | .error e => Run.quit 1 e.text
        | .ok (some style) =>
            n := match key with
              | "b" => { n with body := style }
              | "h" => { n with header := style }
              | _ => { n with footer := style }
        | .ok none =>
            let part := match key with
              | "b" => "body"
              | "h" => "header"
              | _ => "footer"
            Run.objection ("invalid " ++ part ++ " numbering style: " ++ (← Run.inQuotes t))
            isFine := false
  if !isFine then
    Run.hint
    throw (.exited 1)
  let numbering := n
  let mut status := 0
  let mut state : NumberingState := ⟨n.body, n.first, 0, []⟩
  for name in if g.operands.isEmpty then ["-"] else g.operands do
    match ← inputContent name with
    | .error e => do
        fileFailure name e
        status := 1
    | .ok t => do
        state := (linesOf t).foldl numbering.step state
        Run.print state.out.reverse.flatten
        state := { state with out := [] }
  return status

/-! ## Folded lines -/

/-- The column after a character. -/
def columnAfter (inBytes : Bool) (column : Nat) (c : Char) : Nat :=
  if inBytes then column + 1
  else if c == '\x08' then column - 1
  else if c == '\r' then 0
  else if c == '\t' then column + (8 - column % 8)
  else column + 1

/-- What has been seen of a line that is folded. -/
structure Folding where
  /-- The rest of the line so far, the latest character first. -/
  pending : Octets
  column : Nat
  out : List Octets

/-- Breaks a line before a character that does not fit. -/
def foldStep (width : Nat) (inBytes atBlanks : Bool) : Nat → Folding → Char → Folding
  | 0, s, _ => s
  | fuel + 1, s, c =>
      if c == '\n' then ⟨[], 0, ('\n' :: s.pending).reverse :: s.out⟩
      else
        let column := columnAfter inBytes s.column c
        if column ≤ width then { s with pending := c :: s.pending, column := column }
        else
          let after := s.pending.takeWhile fun c => !isBlank c
          let before := s.pending.drop after.length
          if atBlanks && !before.isEmpty then
            let kept := after.reverse
            let column := kept.foldl (columnAfter inBytes) 0
            foldStep width inBytes atBlanks fuel ⟨after, column, ('\n' :: before).reverse :: s.out⟩ c
          else if s.pending.isEmpty then { s with pending := [c], column := column }
          else foldStep width inBytes atBlanks fuel ⟨[], 0, ('\n' :: s.pending).reverse :: s.out⟩ c

/-- Folds lines that are too long. -/
def fold : Tool := fun arguments => do
  let digits : List OptionSpec := "0123456789".toList.map fun c => ⟨some c, "", .optional⟩
  let g ← given ([flag 'b' "bytes", flag 's' "spaces", valued 'w' "width"] ++ digits) 1 arguments
  let mut width := 80
  for (key, value) in g.options do
    if key == "w" then
      width ← boundedArgument 1 "" 1 (quantityLimit - 9) "invalid number of columns" (value.getD "")
    else if key.toList.all isDigit then
      width ← boundedArgument 1 "" 1 (quantityLimit - 9) "invalid number of columns" (key ++ value.getD "")
  let columns := width
  forEachContent g.operands fun t => do
    let s := t.foldl
      (fun s c => foldStep columns (g.has "b") (g.has "s") (s.pending.length + 2) s c) ⟨[], 0, []⟩
    Run.print ((s.out.reverse.flatten) ++ s.pending.reverse)

/-! ## Tabs -/

/-- Where tabs stop. -/
structure TabStops where
  stops : List Nat
  /-- After the last stop, multiples of a size. -/
  extension : Nat
  /-- After the last stop, steps of a size. -/
  increment : Nat

namespace TabStops

/-- The size of tabs if there is only one. -/
def size? (t : TabStops) : Option Nat :=
  match t.stops with
  | [] => some (if t.extension > 0 then t.extension else if t.increment > 0 then t.increment else 8)
  | [n] => if t.extension = 0 && t.increment = 0 then some n else none
  | _ => none

/-- The next stop after a column, if there is one; stops before some index
    are passed over.  The index of the stop is returned as well. -/
def next (t : TabStops) (column index : Nat) : Option Nat × Nat :=
  match t.size? with
  | some n => (some (column + (n - column % n)), index)
  | none =>
      let later := (t.stops.drop index).takeWhile fun stop => stop ≤ column
      let index := index + later.length
      match t.stops[index]? with
      | some stop => (some stop, index)
      | none =>
          if t.extension > 0 then (some (column + (t.extension - column % t.extension)), index)
          else if t.increment > 0 then
            let last := t.stops.getLast?.getD 0
            (some (column + (t.increment - (column - last) % t.increment)), index)
          else (none, index)

end TabStops

/-- How far a list of stops has been read. -/
structure StopsReading where
  stops : TabStops
  value : Option Nat
  isExtension : Bool
  isIncrement : Bool
  isFine : Bool

/-- Takes the stop that was read last. -/
def StopsReading.close (r : StopsReading) : Run StopsReading := do
  match r.value with
  | none => return r
  | some n =>
      if r.isExtension then
        if r.stops.extension > 0 then
          Run.objection "\x27/\x27 specifier only allowed with the last value"
          return { r with isFine := false, value := none }
        else return { r with stops := { r.stops with extension := n }, value := none }
      else if r.isIncrement then
        if r.stops.increment > 0 then
          Run.objection "\x27+\x27 specifier only allowed with the last value"
          return { r with isFine := false, value := none }
        else return { r with stops := { r.stops with increment := n }, value := none }
      else return { r with stops := { r.stops with stops := r.stops.stops ++ [n] }, value := none }

/-- Reads a list of stops; anything else ends the program. -/
def readStops : Octets → StopsReading → Run TabStops
  | [], r => do
      let r ← if r.isFine then r.close else pure r
      if r.isFine then return r.stops else throw (.exited 1)
  | c :: rest, r => do
      if c == ',' || isBlank c then
        let r ← r.close
        if r.isFine then readStops rest r else throw (.exited 1)
      else if c == '/' || c == '+' then
        let isFine ←
          if r.value.isSome then do
            Run.objection ("\x27" ++ String.singleton c ++ "\x27 specifier not at start of number: "
              ++ (← Run.inQuotes (String.ofList (c :: rest))))
            pure false
          else pure r.isFine
        readStops rest { r with isExtension := c == '/', isIncrement := c == '+', isFine := isFine }
      else if isDigit c then
        readStops rest { r with value := some (r.value.getD 0 * 10 + digitValue c) }
      else
        Run.objection ("tab size contains invalid character(s): "
          ++ (← Run.inQuotes (String.ofList (c :: rest))))
        throw (.exited 1)

/-- Adds the stops of a list to others. -/
def addStops (stops : TabStops) (t : String) : Run TabStops :=
  readStops t.toList ⟨stops, none, false, false, true⟩

/-- Ends the program if stops make no sense. -/
def checkStops (t : TabStops) : Run Unit := do
  if t.stops.contains 0 then
    -- What comes first is said.
    let before := t.stops.takeWhile (· != 0)
    if (before.zip (before.drop 1)).all fun (a, b) => a < b then Run.quit 1 "tab size cannot be 0"
  if !((t.stops.zip (t.stops.drop 1)).all fun (a, b) => a < b) then
    Run.quit 1 "tab sizes must be ascending"
  if t.extension > 0 && t.increment > 0 then
    Run.quit 1 "\x27/\x27 specifier is mutually exclusive with \x27+\x27"

/-- The content of files, one after the other, and whether all could be
    read. -/
def joinedContent (operands : List String) : Run (Octets × Nat) := do
  let mut pieces : List Octets := []
  let mut status := 0
  for name in if operands.isEmpty then ["-"] else operands do
    match ← inputContent name with
    | .error e => do
        fileFailure name e
        status := 1
    | .ok t => pieces := t :: pieces
  return (pieces.reverse.flatten, status)

/-- How far the tabs of a line have been replaced. -/
structure Expanding where
  column : Nat
  index : Nat
  converts : Bool
  out : List Octets

/-- Replaces a tab by spaces. -/
def expandStep (t : TabStops) (whole : Bool) (s : Expanding) (c : Char) : Expanding :=
  if c == '\n' then ⟨0, 0, true, ['\n'] :: s.out⟩
  else if !s.converts then { s with out := [c] :: s.out }
  else
    let converts := whole || isBlank c
    if c == '\t' then
      let (next, index) := t.next s.column s.index
      let next := next.getD (s.column + 1)
      ⟨next, index, converts, List.replicate (next - s.column) ' ' :: s.out⟩
    else if c == '\x08' then ⟨s.column - 1, s.index - 1, converts, [c] :: s.out⟩
    else ⟨s.column + 1, s.index, converts, [c] :: s.out⟩

/-- Replaces tabs by spaces. -/
def expand : Tool := fun arguments => do
  let digits : List OptionSpec := "0123456789".toList.map fun c => ⟨some c, "", .optional⟩
  let g ← given ([flag 'i' "initial", valued 't' "tabs"] ++ digits) 1 arguments
  let mut stops : TabStops := ⟨[], 0, 0⟩
  for (key, value) in g.options do
    if key == "t" then stops ← addStops stops (value.getD "")
    else if key.toList.all isDigit then stops ← addStops stops (key ++ value.getD "")
  checkStops stops
  let tabs := stops
  let (t, status) ← joinedContent g.operands
  let s := t.foldl (expandStep tabs (!g.has "i")) ⟨0, 0, true, []⟩
  Run.print s.out.reverse.flatten
  return status

/-- How far the blanks of a line have been replaced. -/
structure Unexpanding where
  column : Nat
  index : Nat
  converts : Bool
  /-- Whether the first blank that is held back stands right before a
      stop. -/
  oneBefore : Bool
  afterBlank : Bool
  /-- Blanks that may yet become a tab, the latest first. -/
  pending : Octets
  out : List Octets

/-- The first of some octets exchanged; they are in reverse. -/
def withFirst (c : Char) (pending : Octets) : Octets :=
  if pending.isEmpty then [] else pending.dropLast ++ [c]

/-- Replaces blanks up to a stop by a tab. -/
def unexpandStep (t : TabStops) (whole : Bool) (s : Unexpanding) (c : Char) : Unexpanding :=
  let start : Unexpanding := ⟨0, 0, true, false, true, [], []⟩
  let release := fun (s : Unexpanding) =>
    if s.pending.isEmpty then s
    else
      let pending := if s.pending.length > 1 && s.oneBefore then withFirst '\t' s.pending else s.pending
      { s with pending := [], oneBefore := false, out := pending.reverse :: s.out }
  let finish := fun (s : Unexpanding) (c : Char) (wasConverting blank : Bool) =>
    let s := if wasConverting then
        { release s with afterBlank := blank, converts := s.converts && (whole || blank) }
      else s
    if c == '\n' then { start with out := ['\n'] :: s.out } else { s with out := [c] :: s.out }
  if !s.converts then finish s c false false
  else if isBlank c then
    let (next, index) := t.next s.column s.index
    let s := { s with index := index }
    match next with
    | none => finish { s with converts := false } c true true
    | some next =>
        if c == '\t' then
          let pending := withFirst '\t' s.pending
          let kept := if s.oneBefore then pending.reverse.take 1 else []
          finish { s with column := next, pending := kept } c true true
        else
          let column := s.column + 1
          let s := { s with column := column }
          if !(s.afterBlank && column == next) then
            { s with
              oneBefore := s.oneBefore || column == next
              pending := c :: s.pending, afterBlank := true }
          else
            let kept := if s.oneBefore then ['\t'] else []
            finish { s with pending := kept } '\t' true true
  else if c == '\x08' then
    finish { s with column := s.column - 1, index := s.index - 1 } c true false
  else finish { s with column := s.column + 1 } c true false

/-- Replaces blanks by tabs. -/
def unexpand : Tool := fun arguments => do
  let g ← given (flags ",0123456789" ++ [flag 'a' "all", valued 't' "tabs", long "first-only" .none]) 1
    arguments
  let mut stops : TabStops := ⟨[], 0, 0⟩
  let mut value : Option Nat := none
  let mut whole := false
  for (key, t) in g.options do
    match key with
    | "a" => whole := true
    | "t" =>
        whole := true
        stops ← addStops stops (t.getD "")
    | "," =>
        stops := { stops with stops := stops.stops ++ value.toList }
        value := none
    | "first-only" => pure ()
    | digit => value := some (value.getD 0 * 10 + digitValue ((digit.toList.head?).getD '0'))
  stops := { stops with stops := stops.stops ++ value.toList }
  checkStops stops
  let tabs := stops
  let isWhole := whole && !g.has "first-only"
  let (t, status) ← joinedContent g.operands
  let s := t.foldl (unexpandStep tabs isWhole) ⟨0, 0, true, false, true, [], []⟩
  let pending := if s.pending.length > 1 && s.oneBefore then withFirst '\t' s.pending else s.pending
  Run.print (s.out.reverse.flatten ++ pending.reverse)
  return status

end HermesBundle.Shell.Tool
