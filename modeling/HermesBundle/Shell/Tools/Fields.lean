import HermesBundle.Shell.Tools.Passing

/-! # Fields — programs that cut lines into fields and put them together -/

namespace HermesBundle.Shell.Tool

/-! ## Cutting -/

/-- A range of positions, from 1 on; one without an end goes on to the end
    of the line. -/
structure Span where
  first : Nat
  last : Option Nat

/-- Whether a position is in a range. -/
def Span.holds (s : Span) (n : Nat) : Bool := s.first ≤ n && s.last.all fun last => n ≤ last

/-- The ranges of a list; anything else ends the program. -/
def spansOf (isFields : Bool) (t : String) : Run (List Span) := do
  let what := if isFields then "field value " else "byte/character position "
  let fromOne := if isFields then "fields are numbered from 1" else "byte/character positions are numbered from 1"
  let number := fun (digits : Octets) => do
    match decimal? digits with
    | some 0 => Run.misuse 1 fromOne
    | some n =>
        if Nat.pow 2 64 - 1 ≤ n then
          Run.misuse 1 ((if isFields then "field number " else "byte/character offset ")
            ++ (← Run.inQuotes (String.ofList digits)) ++ " is too large")
        else pure n
    | none => do Run.misuse 1 ("invalid " ++ what ++ (← Run.inQuotes (String.ofList digits)))
  let items := splitOn ',' (t.toList.map fun c => if isBlank c then ',' else c)
  items.mapM fun item => do
    if item.isEmpty then Run.misuse 1 fromOne
    else
      let parts := splitOn '-' item
      match parts with
      | [one] => do
          let n ← number one
          return ⟨n, some n⟩
      | [a, b] =>
          if a.isEmpty && b.isEmpty then Run.misuse 1 "invalid range with no endpoint: -"
          else do
            let first ← if a.isEmpty then pure 1 else number a
            if b.isEmpty then return ⟨first, none⟩
            else do
              let last ← number b
              if last < first then Run.misuse 1 "invalid decreasing range"
              else return ⟨first, some last⟩
      | _ => Run.misuse 1 (if isFields then "invalid field range" else "invalid byte or character range")

/-- What is kept of lines. -/
structure Cutting where
  spans : List Span
  isFields : Bool
  delimiter : Char
  outputDelimiter : Option Octets
  onlyDelimited : Bool
  ending : Char

/-- The positions that are kept start a new range here. -/
def startsSpan (spans : List Span) (n : Nat) : Bool := spans.any fun s => s.first == n

/-- Ranges in order that do not overlap. -/
def mergedSpans (spans : List Span) : List Span :=
  let ordered := spans.mergeSort fun a b => a.first ≤ b.first
  (ordered.foldl
    (fun found s =>
      match found with
      | [] => [s]
      | p :: rest =>
          match p.last with
          | none => p :: rest
          | some last =>
              if s.first ≤ last then
                { p with last := s.last.map fun b => max b last } :: rest
              else s :: p :: rest)
    []).reverse

/-- What is left of ranges: all other positions. -/
def otherSpans (spans : List Span) : List Span :=
  let (found, next) := spans.foldl
    (fun ((found, next) : List Span × Option Nat) s =>
      match next with
      | none => (found, none)
      | some n =>
          let found := if n < s.first then Span.mk n (some (s.first - 1)) :: found else found
          (found, s.last.map fun last => last + 1))
    ([], some 1)
  (match next with
    | some n => Span.mk n none :: found
    | none => found).reverse

/-- What is kept of a line, which has no end; none if it is left out. -/
def cutLine (k : Cutting) (line : Octets) : Option Octets :=
  if k.isFields then
    if !line.contains k.delimiter then if k.onlyDelimited then none else some line
    else
      let fields := splitOn k.delimiter line
      let kept := (fields.zipIdx.filter fun (_, i) => k.spans.any fun s => s.holds (i + 1)).map (·.1)
      some (joinWith (k.outputDelimiter.getD [k.delimiter]) kept)
  else
    let marked := line.zipIdx.flatMap fun (c, i) =>
      let n := i + 1
      if k.spans.any fun s => s.holds n then
        match k.outputDelimiter with
        | some d => if startsSpan k.spans n && 1 < n && k.spans.any (fun s => s.first < n) then d ++ [c] else [c]
        | none => [c]
      else []
    some marked

/-- Cuts lines. -/
def cut : Tool := fun arguments => do
  let g ← given
    [valued 'b' "bytes", valued 'c' "characters", valued 'd' "delimiter", valued 'f' "fields",
     flag 'n' "", flag 's' "only-delimited", flag 'z' "zero-terminated", long "complement" .none,
     long "output-delimiter" .required] 1 arguments
  let lists := g.options.filter fun (key, _) => ["b", "c", "f"].contains key
  if lists.length > 1 then Run.misuse 1 "only one list may be specified"
  if (g.values "d").any fun t => 1 < t.length then
    Run.misuse 1 "the delimiter must be a single character"
  let delimiter ← match g.value? "d" with
    | none => pure '\t'
    | some t =>
        match t.toList with
        | [] => pure '\x00'
        | [c] => pure c
        | _ => Run.misuse 1 "the delimiter must be a single character"
  match lists with
  | [] => Run.misuse 1 "you must specify a list of bytes, characters, or fields"
  | (key, value) :: _ => do
      let isFields := key == "f"
      if g.has "d" && !isFields then
        Run.misuse 1 "an input delimiter may be specified only when operating on fields"
      if g.has "s" && !isFields then
        Run.misuse 1
          "suppressing non-delimited lines makes sense\n\tonly when operating on fields"
      let spans := mergedSpans (← spansOf isFields (value.getD ""))
      let spans := if g.has "complement" then otherSpans spans else spans
      let k : Cutting :=
        ⟨spans, isFields, delimiter, (g.value? "output-delimiter").map String.toList, g.has "s",
          if g.has "z" then '\x00' else '\n'⟩
      overall
        (fun name => do
          match ← inputContent name with
          | .error e => do
              fileFailure name e
              return 1
          | .ok t => do
              for record in recordsOf k.ending t do
                let line := if record.getLast? == some k.ending then record.dropLast else record
                match cutLine k line with
                | some kept => Run.print (kept ++ [k.ending])
                | none => pure ()
              return 0)
        (if g.operands.isEmpty then ["-"] else g.operands) 0

/-! ## Joining -/

/-- The delimiters of a list; an empty one is none. -/
def delimiterList : Octets → Option (List Octets)
  | [] => some []
  | ['\\'] => none
  | '\\' :: c :: rest => do
      let others ← delimiterList rest
      let here : Octets := match c with
        | '0' => []
        | 'b' => ['\x08']
        | 'f' => ['\x0c']
        | 'n' => ['\n']
        | 'r' => ['\r']
        | 't' => ['\t']
        | 'v' => ['\x0b']
        | c => [c]
      some (here :: others)
  | c :: rest => do
      let others ← delimiterList rest
      some ([c] :: others)

/-- Lines with delimiters between them, which are used in turn. -/
def withDelimiters (delimiters : List Octets) : Nat → List Octets → Octets
  | _, [] => []
  | _, [last] => last
  | i, line :: rest =>
      line ++ (delimiters[i % delimiters.length]?).getD [] ++ withDelimiters delimiters (i + 1) rest

/-- Reads one line from each input; inputs that have ended yield none.  The
    status says whether all could be read. -/
def readRow (ending : Char) :
    List (Option Input) → Run (List (Option Octets × Option Input) × Nat)
  | [] => return ([], 0)
  | none :: rest => do
      let (row, status) ← readRow ending rest
      return ((none, none) :: row, status)
  | some i :: rest => do
      match ← Run.readRecord i.descriptor ending with
      | .error e => do
          fileFailure i.name e
          let (row, _) ← readRow ending rest
          return ((none, none) :: row, 1)
      | .ok [] => do
          let (row, status) ← readRow ending rest
          return ((none, none) :: row, status)
      | .ok record => do
          let line := if record.getLast? == some ending then record.dropLast else record
          let (row, status) ← readRow ending rest
          return ((some line, some i) :: row, status)

/-- Writes lines of several inputs side by side. -/
def pasteRows (delimiters : List Octets) (ending : Char) :
    Nat → List (Option Input) → Nat → Run Nat
  | 0, _, status => return status
  | fuel + 1, inputs, status => do
      let (row, here) ← readRow ending inputs
      let status := max status here
      if row.any fun (line, _) => line.isSome then
        Run.print (withDelimiters delimiters 0 (row.map fun (line, _) => line.getD []) ++ [ending])
        pasteRows delimiters ending fuel (row.map (·.2)) status
      else return status

/-- Puts lines side by side. -/
def paste : Tool := fun arguments => do
  let g ← given [valued 'd' "delimiters", flag 's' "serial", flag 'z' "zero-terminated"] 1 arguments
  let ending := if g.has "z" then '\x00' else '\n'
  let list := ((g.value? "d").getD "\t").toList
  let delimiters ← match delimiterList list with
    | some found => pure (if found.isEmpty then [[]] else found)
    | none =>
        Run.quit 1 ("delimiter list ends with an unescaped backslash: "
          ++ String.ofList list)
  let operands := if g.operands.isEmpty then ["-"] else g.operands
  if g.has "s" then
    overall
      (fun name => do
        match ← inputContent name with
        | .error e => do
            if e = .isDirectory then Run.print [ending]
            fileFailure name e
            return 1
        | .ok t => do
            let pieces := splitOn ending t
            let lines := if pieces.getLast? == some [] then pieces.dropLast else pieces
            Run.print (withDelimiters delimiters 0 lines ++ [ending])
            return 0)
      operands 0
  else do
    let inputs ← operands.mapM fun name => do
      match ← openInput name with
      | .ok i => return some i
      | .error e => do
          fileFailure name e
          throw (.exited 1)
    pasteRows delimiters ending 1000000 inputs 0

end HermesBundle.Shell.Tool
