import HermesBundle.Shell.Tools.Sorting

/-! # Matching — lines of two files with a common field

    Both files are in the order of the field.  Lines with equal fields are
    put together; what stands alone can be shown too. -/

namespace HermesBundle.Shell.Tool

/-- A field of the output. -/
inductive OutputField where
  | shared
  | field (file number : Nat)

/-- How lines are joined. -/
structure Joining where
  separator : Option Char
  firstField : Nat
  secondField : Nat
  showsFirst : Bool
  showsSecond : Bool
  showsPairs : Bool
  format : Option (List OutputField)
  filler : Option Octets
  folds : Bool
  /-- How many fields the first lines have, if the format follows them. -/
  automatic : Option (Nat × Nat)

/-- The fields of a line.  Blanks at its end are followed by one more field,
    which is empty. -/
def fieldsOf (separator : Option Char) (line : Octets) : List Octets :=
  match separator with
  | some c => if line.isEmpty then [] else splitOn c line
  | none =>
      let between := fun (c : Char) => isBlank c || c == '\n'
      let fields := (splitOn ' ' (line.map fun c => if between c then ' ' else c)).filter fun f =>
        !f.isEmpty
      if !fields.isEmpty && (line.getLast?.map between).getD false then fields ++ [[]] else fields

namespace Joining

/-- The common field of a line. -/
def keyOf (j : Joining) (second : Bool) (fields : List Octets) : Octets :=
  (fields[if second then j.secondField else j.firstField]?).getD []

/-- The order of common fields. -/
def order (j : Joining) (a b : Octets) : Ordering :=
  if j.folds then textOrder (a.map lowered) (b.map lowered) else textOrder a b

/-- A field, or what fills it up. -/
def shown (j : Joining) (t : Option Octets) : Octets :=
  match t with
  | some t => if t.isEmpty then j.filler.getD [] else t
  | none => j.filler.getD []

/-- A line of the output. -/
def line (j : Joining) (a b : Option (List Octets)) : Octets :=
  let between := [j.separator.getD ' ']
  let key := match a, b with
    | some x, _ => x[j.firstField]?
    | none, some y => y[j.secondField]?
    | none, none => none
  let others := fun (fields : Option (List Octets)) (n : Nat) (count : Option Nat) =>
    let all := (fields.getD []).map fun f => j.shown (some f)
    let all := match count with
      | some k => (List.range k).map fun i => (all[i]?).getD (j.shown none)
      | none => all
    (all.zipIdx.filter fun (_, i) => i != n).map (·.1)
  match j.format with
  | some fields =>
      joinWith between (fields.map fun f =>
        match f with
        | .shared => j.shown key
        | .field 1 n => j.shown ((a.getD [])[n]?)
        | .field _ n => j.shown ((b.getD [])[n]?))
  | none =>
      joinWith between (j.shown key :: others a j.firstField (j.automatic.map (·.1))
        ++ others b j.secondField (j.automatic.map (·.2)))

end Joining

/-- What is checked while files are joined. -/
structure JoinState where
  out : List Octets
  unpaired : Bool
  firstWarned : Bool
  secondWarned : Bool

/-- A file that is joined: its name and the number of its next line. -/
structure JoinSide where
  name : String
  lines : List (List Octets × Octets)
  number : Nat

/-- Joins lines as long as both files have some, and then shows what is
    left. -/
def joinLines (j : Joining) (check : OrderCheck) :
    Nat → JoinSide → JoinSide → JoinState → Run JoinState
  | 0, _, _, s => return s
  | fuel + 1, a, b, s => do
      let checked := fun (s : JoinState) (second : Bool) (side : JoinSide) => do
        let warned := if second then s.secondWarned else s.firstWarned
        if warned || check = .never || (check = .usual && !s.unpaired) then pure s
        else
          match side.lines with
          | (x, _) :: (y, line) :: _ =>
              if j.order (j.keyOf second x) (j.keyOf second y) == .gt then do
                Run.print s.out.reverse.flatten
                Run.objection (side.name ++ ":" ++ toString (side.number + 1) ++ ": is not sorted: "
                  ++ String.ofList line)
                let s := { s with out := [] }
                if check = .always then throw (.exited 1)
                pure (if second then { s with secondWarned := true } else { s with firstWarned := true })
              else pure s
          | _ => pure s
      let write := fun (s : JoinState) (line : Octets) => { s with out := (line ++ ['\n']) :: s.out }
      match a.lines, b.lines with
      | [], [] => return s
      | (x, _) :: more, [] => do
          let s := if j.showsFirst then write s (j.line (some x) none) else s
          let s ← checked s false a
          joinLines j check fuel { a with lines := more, number := a.number + 1 } b s
      | [], (y, _) :: more => do
          let s := if j.showsSecond then write s (j.line none (some y)) else s
          let s ← checked s true b
          joinLines j check fuel a { b with lines := more, number := b.number + 1 } s
      | (x, _) :: moreA, (y, _) :: moreB => do
          match j.order (j.keyOf false x) (j.keyOf true y) with
          | .lt => do
              let s := if j.showsFirst then write s (j.line (some x) none) else s
              let s ← checked s false a
              joinLines j check fuel { a with lines := moreA, number := a.number + 1 } b
                { s with unpaired := true }
          | .gt => do
              let s := if j.showsSecond then write s (j.line none (some y)) else s
              let s ← checked s true b
              joinLines j check fuel a { b with lines := moreB, number := b.number + 1 }
                { s with unpaired := true }
          | .eq => do
              let same := fun (second : Bool) (lines : List (List Octets × Octets)) =>
                lines.takeWhile fun (f, _) => j.order (j.keyOf second f) (j.keyOf true y) == .eq
              let groupA := same false a.lines
              let groupB := same true b.lines
              let s ← checked s false { a with lines := a.lines.drop (groupA.length - 1), number := a.number + groupA.length - 1 }
              let s ← checked s true { b with lines := b.lines.drop (groupB.length - 1), number := b.number + groupB.length - 1 }
              let pairs := groupA.flatMap fun (f, _) =>
                groupB.map fun (h, _) => j.line (some f) (some h)
              let s := if j.showsPairs then pairs.foldl write s else s
              joinLines j check fuel
                { a with lines := a.lines.drop groupA.length, number := a.number + groupA.length }
                { b with lines := b.lines.drop groupB.length, number := b.number + groupB.length } s

/-- A field of the output that a word describes; anything else ends the
    program. -/
def outputField (t : Octets) : Run OutputField := do
  let shown := Run.inQuotes (String.ofList t)
  match t with
  | ['0'] => return .shared
  | c :: '.' :: digits =>
      if c == '1' || c == '2' then
        match decimal? digits with
        | some (n + 1) => return .field (if c == '1' then 1 else 2) n
        | _ => do Run.quit 1 ("invalid field number: " ++ (← Run.inQuotes (String.ofList digits)))
      else do Run.quit 1 ("invalid file number in field spec: " ++ (← shown))
  | '0' :: _ => do Run.quit 1 ("invalid field specifier: " ++ (← shown))
  | [c] =>
      if c == '1' || c == '2' then do Run.quit 1 ("invalid field specifier: " ++ (← shown))
      else do Run.quit 1 ("invalid file number in field spec: " ++ (← shown))
  | _ => do Run.quit 1 ("invalid file number in field spec: " ++ (← shown))

/-- Joins the lines of two files that have a field in common. -/
def join : Tool := fun arguments => do
  let g ← given
    [valued 'a' "", valued 'e' "", valued 'i' "", valued 'j' "", valued '1' "", valued '2' "",
     valued 'o' "", valued 't' "", valued 'v' "", flag 'z' "zero-terminated",
     long "check-order" .none, long "nocheck-order" .none, long "header" .none] 1
    (arguments.map fun t => if t == "-i" || t == "--ignore-case" then "-i1" else t)
  let number := fun (t : String) => do
    match decimal? t.toList with
    | some (n + 1) => pure n
    | _ => do Run.quit 1 ("invalid field number: " ++ (← Run.inQuotes t))
  let field := fun (key : String) => do
    match (g.options.reverse.find? fun (k, _) => k == key || k == "j").bind (·.2) with
    | some t => number t
    | none => pure 0
  let firstField ← field "1"
  let secondField ← field "2"
  let shownFiles := fun (keys : List String) =>
    g.options.filterMap fun (k, v) => if keys.contains k then v else none
  for t in shownFiles ["a", "v"] do
    if t != "1" && t != "2" then
      Run.quit 1 ("invalid field number: " ++ (← Run.inQuotes t))
  if (g.values "t").eraseDups.length > 1 then Run.quit 1 "incompatible tabs"
  let separator ← match g.value? "t" with
    | none => pure none
    | some t =>
        match t.toList with
        | [] => pure (some '\n')
        | [c] => pure (some c)
        | ['\\', '0'] => pure (some '\x00')
        | _ => do Run.quit 1 ("multi-character tab " ++ (← Run.inQuotes t))
  let formats := g.values "o"
  let isAutomatic := formats == ["auto"]
  let words := formats.flatMap fun t =>
    (splitOn ' ' (t.toList.map fun c => if isBlank c || c == ',' then ' ' else c)).filter fun w => !w.isEmpty
  let format ← if formats.isEmpty || isAutomatic then pure none else do
    pure (some (← words.mapM outputField))
  match g.operands with
  | [] => Run.missing 1 "operand"
  | [one] => do Run.missing 1 ("operand after " ++ (← Run.inQuotes one))
  | _ :: _ :: third :: _ => do Run.misuse 1 ("extra operand " ++ (← Run.quoted third))
  | [first, second] => do
      if first == "-" && second == "-" then
        let isCounted := ["1", "2", "j", "a", "v"].any g.has || (g.has "o" && !isAutomatic)
        Run.quit 1 ("both files cannot be standard input"
          ++ if isCounted then "" else ": " ++ Errno.noEntry.text)
      let ending := if g.has "z" then '\x00' else '\n'
      let side := fun (name : String) => do
        let lines ← match ← inputContent name with
          | .ok t =>
              pure ((recordsOf ending t).map fun r => if r.getLast? == some ending then r.dropLast else r)
          | .error .isDirectory => do Run.quit 1 ("read error: " ++ Errno.isDirectory.text)
          | .error .badDescriptor => do Run.quit 1 ("read error: " ++ Errno.badDescriptor.text)
          | .error e => do Run.quit 1 ((← Run.shownName name) ++ ": " ++ e.text)
        pure (JoinSide.mk name (lines.map fun line => (fieldsOf separator line, line)) 1)
      let a ← side first
      let b ← side second
      let counts := (((a.lines.head?.map (·.1)).getD []).length, ((b.lines.head?.map (·.1)).getD []).length)
      let j : Joining :=
        { separator := separator, firstField := firstField, secondField := secondField
          showsFirst := (shownFiles ["a", "v"]).contains "1"
          showsSecond := (shownFiles ["a", "v"]).contains "2", showsPairs := !g.has "v"
          format := format, filler := (g.value? "e").map String.toList, folds := g.has "i"
          automatic := if isAutomatic then some counts else none }
      let mut start : JoinState := ⟨[], false, false, false⟩
      let mut left := a
      let mut right := b
      if g.has "header" then
        if !(a.lines.isEmpty && b.lines.isEmpty) then
          start := { start with out := [j.line (a.lines.head?.map (·.1)) (b.lines.head?.map (·.1)) ++ ['\n']] }
        left := { a with lines := a.lines.drop 1, number := 2 }
        right := { b with lines := b.lines.drop 1, number := 2 }
      let s ← joinLines j (orderCheck g) (a.lines.length + b.lines.length + 2) left right start
      Run.print s.out.reverse.flatten
      if s.firstWarned || s.secondWarned then Run.quit 1 "input is not in sorted order"
      return 0

/-! ## Orders from pairs -/

/-- A graph: names in order, how many stand before each one, and which ones
    follow it, the latest first. -/
structure Precedence where
  names : List String
  before : List (String × Nat)
  after : List (String × List String)

namespace Precedence

/-- Adds a name. -/
def addName (p : Precedence) (name : String) : Precedence :=
  if p.names.contains name then p else { p with names := name :: p.names }

/-- Adds a pair. -/
def addPair (p : Precedence) (a b : String) : Precedence :=
  let p := (p.addName a).addName b
  if a == b then p
  else
    { p with
      before := Table.set p.before b ((p.before.lookup b).getD 0 + 1)
      after := Table.set p.after a (b :: (p.after.lookup a).getD []) }

/-- Takes a pair away. -/
def removePair (p : Precedence) (a b : String) : Precedence :=
  { p with
    before := Table.set p.before b ((p.before.lookup b).getD 0 - 1)
    after := Table.set p.after a (((p.after.lookup a).getD []).erase b) }

/-- How many stand before a name. -/
def count (p : Precedence) (name : String) : Nat := (p.before.lookup name).getD 0

end Precedence

/-- Puts out names that nothing stands before, as long as there are any.
    What was put out is in reverse. -/
def releaseNames : Nat → Precedence → List String → List String → Precedence × List String
  | 0, p, _, out => (p, out)
  | _, p, [], out => (p, out)
  | fuel + 1, p, name :: queue, out =>
      let followers := (p.after.lookup name).getD []
      let (p, ready) := followers.foldl
        (fun ((p, ready) : Precedence × List String) other =>
          let p := { p with before := Table.set p.before other (p.count other - 1) }
          if p.count other = 0 then (p, other :: ready) else (p, ready))
        (p, [])
      let p := { p with names := p.names.filter (· != name), after := Table.erase p.after name }
      releaseNames fuel p (queue ++ ready.reverse) (name :: out)

/-- A chain of names each of which stands before the one that comes after
    it in the list, closed into a loop. -/
def findLoop (p : Precedence) : Nat → List String → List String → List String × List String
  | 0, chain, _ => (chain, [])
  | fuel + 1, chain, names =>
      let step := names.foldl
        (fun (r : List String × List String) k =>
          let (chain, closed) := r
          if !closed.isEmpty || p.count k = 0 then r
          else
            match chain with
            | [] => ([k], [])
            | last :: _ =>
                if ((p.after.lookup k).getD []).contains last then
                  if chain.contains k then (chain, k :: chain) else (k :: chain, [])
                else r)
        (chain, [])
      if step.2.isEmpty then findLoop p fuel step.1 names else step

/-- Orders names, and tells of loops, which are broken. -/
def orderNames (name : String) : Nat → Precedence → Nat → Run Nat
  | 0, _, status => return status
  | fuel + 1, p, status => do
      let names := p.names.mergeSort fun a b => !precedes b.toList a.toList
      let ready := names.filter fun n => p.count n = 0
      let (p, out) := releaseNames (names.length + 1) p ready []
      Run.print (out.reverse.flatMap fun n => n.toList ++ ['\n'])
      if p.names.isEmpty then return status
      else do
        let left := p.names.mergeSort fun a b => !precedes b.toList a.toList
        let (_, closed) := findLoop p (left.length + 2) [] left
        Run.objection (name ++ ": input contains a loop:")
        match closed with
        | [] => return 1
        | k :: chain => do
            let members := chain.takeWhile (· != k) ++ [k]
            for m in members do
              Run.objection m
            orderNames name fuel (p.removePair k (chain.headD k)) 1

/-- Writes names in an order that agrees with pairs. -/
def tsort : Tool := fun arguments => do
  let g ← given [] 1 arguments
  match g.operands with
  | _ :: second :: _ => Run.extra 1 second
  | operands => do
      let name := operands.headD "-"
      match ← inputContent name with
      | .error .noEntry => do
          fileFailure name .noEntry
          return 1
      | .error e => do
          Run.objection ((← Run.shownName name) ++ ": read error: " ++ e.text)
          return 1
      | .ok t => do
          let words := ((splitOn ' ' (t.map fun c => if isBlank c || c == '\n' then ' ' else c)).filter
            fun w => !w.isEmpty).map String.ofList
          let rec pairs : Precedence → List String → Option Precedence
            | p, [] => some p
            | _, [_] => none
            | p, a :: b :: rest => pairs (p.addPair a b) rest
          match pairs ⟨[], [], []⟩ words with
          | none => Run.quit 1 (name ++ ": input contains an odd number of tokens")
          | some p => orderNames name (words.length + 1) p 0

/-! ## Other orders -/

/-- Writes lines in an order that nobody relies on. -/
def shuf : Tool := fun arguments => do
  let g ← given
    [flag 'e' "echo", valued 'i' "input-range", valued 'n' "head-count", valued 'o' "output",
     flag 'r' "repeat", flag 'z' "zero-terminated", long "random-source" .required] 1 arguments
  let ending := if g.has "z" then '\x00' else '\n'
  let count ← match g.value? "n" with
    | none => pure none
    | some t =>
        match decimal? t.toList with
        | some n => pure (some n)
        | none => do Run.quit 1 ("invalid line count: " ++ (← Run.inQuotes t))
  let lines ← match g.value? "i" with
    | some t =>
        match splitOn '-' t.toList with
        | [a, b] =>
            match decimal? a, decimal? b with
            | some low, some high =>
                if high + 1 < low then
                  Run.quit 1 ("invalid input range: " ++ (← Run.inQuotes t))
                else pure ((List.range (high + 1 - low)).map fun n => decimal (n + low))
            | _, _ => Run.quit 1 ("invalid input range: " ++ (← Run.inQuotes t))
        | _ => Run.quit 1 ("invalid input range: " ++ (← Run.inQuotes t))
    | none =>
        if g.has "e" then pure (g.operands.map String.toList)
        else
          match g.operands with
          | _ :: second :: _ => Run.extra 1 second
          | operands => do
              let name := operands.headD "-"
              let t ← match ← inputContent name with
                | .ok t => pure t
                | .error .noEntry => do
                    Run.quit 1 ((← Run.shownName name) ++ ": " ++ Errno.noEntry.text)
                | .error e => Run.quit 1 ("read error: " ++ e.text)
              pure ((recordsOf ending t).map fun r => if r.getLast? == some ending then r.dropLast else r)
  let kept := match count with
    | some n => lines.take n
    | none => lines
  Run.print (kept.flatMap fun line => line ++ [ending])
  return 0

end HermesBundle.Shell.Tool
