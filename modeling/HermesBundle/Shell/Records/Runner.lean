import HermesBundle.Shell.Calendar
import HermesBundle.Shell.Records.Machine

/-! # Running — what programs for records do

    Expressions have values and statements have effects.  A loop or a
    function is left by a jump that carries what is left with it.  The
    depth of nested work is bounded by fuel, and every round of a loop
    takes time. -/

namespace HermesBundle.Shell.Records

namespace Work

/-- Something that can be read and set, with its indices known. -/
inductive Target where
  | shared (name : String)
  | slot (i : Nat)
  | field (n : Nat)
  | element (lookup : Nat) (i : Index)

/-- The datum of a target. -/
def load (t : Target) : Work Datum := do
  match t with
  | .shared name => readShared name
  | .slot i =>
      match (← get).frame[i]? with
      | some (.datum d) => return d
      | _ => return .unset
  | .field n => field n
  | .element k i => withLookup k fun l => l.get i

/-- Sets the datum of a target. -/
def store (t : Target) (d : Datum) : Work Unit := do
  match t with
  | .shared name => assignShared name d
  | .slot i => modify fun m => { m with frame := m.frame.modify i fun _ => .datum d }
  | .field n => setField n d
  | .element k i => changeLookup k fun l => l.set i d

/-- The result of an operation on numbers. -/
def operate (o : Operator) (x y : Float) : Float :=
  match o with
  | .add => x + y
  | .subtract => x - y
  | .multiply => x * y
  | .divide => x / y
  | .remainder => floatRemainder x y
  | .power => Float.pow x y

/-- Whether a relation holds. -/
def holds (r : Relation) (o : Ordering) : Bool :=
  match r with
  | .less => o == .lt
  | .lessOrEqual => o != .gt
  | .equal => o == .eq
  | .different => o != .eq
  | .greater => o == .gt
  | .greaterOrEqual => o != .lt

/-- Whether a text matches. -/
def isMatch (m : Matcher) (t : Octets) : Bool := m.search.isIn (Subject.ofOctets false t)

/-! ## Functions that are always there -/

/-- A part of a text from a place on, with at most some number of octets. -/
def part (t : Octets) (start : Int) (count : Option Int) : Octets :=
  -- A start before the text leaves out nothing: the count grows instead.
  let count := count.map fun n => if start < 0 then n - start else n
  let rest := t.drop (start.toNat - 1)
  match count with
  | none => rest
  | some n => rest.take n.toNat

/-- The place of a text in another one, counted from one; zero if it is not
    there. -/
def placeIn (part : Octets) : Nat → Octets → Nat
  | n, [] => if part.isEmpty then n else 0
  | n, c :: rest => if part.isPrefixOf (c :: rest) then n else placeIn part (n + 1) rest

/-- What a match is replaced with, for a text in which an ampersand stands
    for the match; the result is gathered in reverse. -/
def replacementOf (found : Octets) : Nat → Octets → Octets → Octets
  | 0, _, done => done.reverse
  | _, [], done => done.reverse
  | fuel + 1, c :: rest, done =>
      if c == '\\' then
        let run := (c :: rest).takeWhile (· == '\\')
        let after := (c :: rest).drop run.length
        match after with
        | '&' :: after =>
            let half := List.replicate (run.length / 2) '\\'
            if run.length % 2 = 1 then replacementOf found fuel after ('&' :: half ++ done)
            else replacementOf found fuel after (found.reverse ++ half ++ done)
        | after => replacementOf found fuel after (run ++ done)
      else if c == '&' then replacementOf found fuel rest (found.reverse ++ done)
      else replacementOf found fuel rest (c :: done)

/-- A text with matches replaced and how many there were; the pieces are
    gathered in reverse.  A match without octets does not follow another
    one at once. -/
def replaced (r : Search) (s : Subject) (replacement : Octets) (isAll : Bool) :
    Nat → Nat → Option Nat → Nat → List Octets → Octets × Nat
  | 0, i, _, count, done => ((s.slice i s.size :: done).reverse.flatten, count)
  | fuel + 1, i, last, count, done =>
      let finish := ((s.slice i s.size :: done).reverse.flatten, count)
      if s.size < i then finish
      else
        match r.find? s i with
        | none => finish
        | some f =>
            let before := s.slice i f.start
            if f.start = f.finish && last == some f.start then
              -- The octet after the last match is passed over.
              let next := s.slice i (f.start + 1)
              if s.size ≤ f.start then finish
              else replaced r s replacement isAll fuel (f.start + 1) none count (next :: done)
            else
              let text := replacementOf (s.slice f.start f.finish) (replacement.length + 1) replacement []
              if !isAll then
                ((s.slice f.finish s.size :: text :: before :: done).reverse.flatten, count + 1)
              else if f.start = f.finish then
                if s.size ≤ f.start then ((text :: before :: done).reverse.flatten, count + 1)
                else
                  replaced r s replacement isAll fuel (f.start + 1) none (count + 1)
                    (s.slice f.start (f.start + 1) :: text :: before :: done)
              else
                replaced r s replacement isAll fuel f.finish (some f.finish) (count + 1)
                  (text :: before :: done)

/-- A format with its fields filled, under the name of who fills it. -/
def filled (who : String) (isPrinted : Octets → Work Unit) (arguments : List Datum) : Work Octets := do
  match arguments with
  | [] => return []
  | format :: rest => do
      let format ← textOf format
      let (t, fault) := formatted (← conversion) (who == "sprintf") format rest
      let shown := who ++ "(\x22" ++ String.ofList format ++ "\x22)"
      match fault with
      | none => return t
      | some .tooFewArguments => do
          isPrinted t
          failHere ("not enough arguments passed to " ++ shown)
      | some (.improper n) => do
          isPrinted t
          failHere ("improper conversion(number " ++ toString n ++ ") in " ++ shown)

/-- The present in seconds. -/
def presentSeconds : Work Int := do
  let s ← (get : Run State)
  return Int.fdiv s.toWorld.now 1000

/-- The seconds of a date of six numbers. -/
def secondsOfDate (t : Octets) : Option Int :=
  match (blankPieces (t.length + 1) t []).map integer? with
  | some year :: some month :: some day :: some hour :: some minute :: some second :: _ =>
      some (Calendar.secondsFrom year month day hour minute second)
  | _ => none

/-- The value of a function that is always there. -/
def callBuiltin (b : Builtin) (arguments : List Datum) : Work Datum := do
  let first := arguments.headD .unset
  let second := (arguments[1]?).getD .unset
  let x := first.toNumber
  let real := fun (f : Float → Float) => (pure (.number (f x)) : Work Datum)
  match b with
  | .length => return .ofNat (← textOf first).length
  | .index => return .ofNat (placeIn (← textOf second) 1 (← textOf first))
  | .substr => do
      let t ← textOf first
      let place := fun (d : Datum) => signedBits 32 (wordOf d.toNumber)
      let start := place second
      let count := (arguments[2]?).map place
      return .text (part t start count)
  | .sprintf => return .text (← filled "sprintf" (fun _ => pure ()) arguments)
  | .sin => real Float.sin
  | .cos => real Float.cos
  | .exp => real Float.exp
  | .log => real Float.log
  | .sqrt => real Float.sqrt
  | .atan2 => return .number (Float.atan2 x second.toNumber)
  | .int => return .number (if x < 0 then x.ceil else x.floor)
  | .toupper => return .text ((← textOf first).map raised)
  | .tolower => return .text ((← textOf first).map lowered)
  | .rand => do
      let m ← get
      let next := (m.random * 1103515245 + 12345) % 2147483648
      set { m with random := next }
      return .number (Float.ofNat next / 2147483648)
  | .srand => do
      let m ← get
      let seed ← if arguments.isEmpty then do pure (Datum.number (floatOf (← presentSeconds))) else pure first
      set { m with seed := seed, random := (clampedInteger seed.toNumber 0 largestWord).toNat }
      return m.seed
  | .close => return .number (floatOf (← closeNamed (← textOf first)))
  | .system => return .ofNat (← runCommand (← textOf first))
  | .fflush => do
      let name ← textOf first
      if arguments.isEmpty then
        let _ ← flushOutput
        return .number 0
      else if name.isEmpty then
        return .number (if ← flushAll then 0 else -1)
      else
        let isNamed := fun (c : Channel) => c.name == name && isWritten c
        if !(← get).channels.any isNamed then return .number (-1)
        else do
          return .number (if ← flushSome true isNamed then 0 else -1)
  | .systime => return .number (floatOf (← presentSeconds))
  | .mktime =>
      match secondsOfDate (← textOf first) with
      | some n => return .number (floatOf n)
      | none => return .number (-1)
  | .strftime => do
      let format ← if arguments.isEmpty then pure "%c".toList else textOf first
      let seconds ←
        match arguments[1]? with
        | some d => pure (clampedInteger d.toNumber leastWord largestWord)
        | none => presentSeconds
      return .text (Calendar.format format ⟨seconds, 0⟩)

/-- Writes to a file or a command. -/
def writeTo (name : Octets) (isCommand atEnd : Bool) (t : Octets) : Work Unit := do
  writeChannel (← outputChannel name isCommand atEnd) t

/-- Writes to the output. -/
def printText (t : Octets) : Work Unit := writeTo outputName false false t

/-- A datum as it is printed. -/
def printed (d : Datum) : Work Octets := do
  match d with
  | .number x => return writeNumber (← sharedText "OFMT") x
  | d => textOf d

/-- Keeps a record where it is to go. -/
def keepRecord (t : Option Target) (record : Octets) : Work Unit :=
  match t with
  | none => setRecord record
  | some t => store t (.input record)

/-- Takes a record from a file or a command; the value tells how that
    went. -/
def recordFrom (c : Option Channel) (t : Option Target) : Work Datum := do
  match c with
  | none => return .number (-1)
  | some c => do
      let (record, supply) ← takeRecord c.supply
      keepChannel { c with supply := supply }
      match record with
      | none => return .number 0
      | some record => do
          keepRecord t record
          return .number 1

/-- How much nested work there is at most. -/
def depthLimit : Nat := 1000000000

/-! ## Expressions and statements -/

mutual

/-- The value of an expression. -/
def eval : Nat → Expression → Work Datum
  | 0, _ => throw .fail
  | fuel + 1, e => do
      match e with
      | .constant d => return d
      | .pattern m => return .ofBool (isMatch m (← get).record)
      | .read (.variable (.shared name)) => readShared name
      | .read p => do
          let t ← target fuel p
          load t
      | .assign p e => do
          let t ← target fuel p
          let d ← eval fuel e
          store t d
          return d
      | .update o p e => do
          let t ← target fuel p
          let y := (← eval fuel e).toNumber
          let x := (← load t).toNumber
          let d := Datum.number (operate o x y)
          store t d
          return d
      | .count isUp isBefore p => do
          let t ← target fuel p
          let x := (← load t).toNumber
          let y := if isUp then x + 1 else x - 1
          store t (.number y)
          return .number (if isBefore then y else x)
      | .negate e => return .number (-(← eval fuel e).toNumber)
      | .plus e => return .number (← eval fuel e).toNumber
      | .not e => return .ofBool (!(← eval fuel e).isTrue)
      | .arithmetic o a b => do
          let x := (← eval fuel a).toNumber
          let y := (← eval fuel b).toNumber
          return .number (operate o x y)
      | .join a b => do
          let s ← textOf (← eval fuel a)
          let t ← textOf (← eval fuel b)
          return .text (s ++ t)
      | .compare r a b => do
          let x ← eval fuel a
          let y ← eval fuel b
          return .ofBool (holds r (compareData (← conversion) x y))
      | .both a b => do
          if (← eval fuel a).isTrue then return .ofBool (← eval fuel b).isTrue
          else return .ofBool false
      | .either a b => do
          if (← eval fuel a).isTrue then return .ofBool true
          else return .ofBool (← eval fuel b).isTrue
      | .choose c a b => do
          if (← eval fuel c).isTrue then eval fuel a else eval fuel b
      | .matching isNegated e p => do
          let t ← textOf (← eval fuel e)
          let m ← matcherFor fuel p
          return .ofBool (isMatch m t != isNegated)
      | .within indices n => do
          let i ← indexFor fuel indices
          let k ← lookupNumber n
          return .ofBool (← withLookup k fun l => l.contains i)
      | .call name arguments => call fuel name arguments
      | .builtin b arguments => do
          let ds ← evalAll fuel arguments
          callBuiltin b ds
      | .lengthOf n => do
          let isLookup ← match n with
            | .shared name => pure ((← get).sharedLookups.contains name)
            | .parameter i =>
                match (← get).frame[i]? with
                | some (.lookup _) => pure true
                | _ => pure false
          if isLookup then
            let k ← lookupNumber n
            return .ofNat (((← get).lookups[k]?).getD .empty).size
          else callBuiltin .length [← eval fuel (.read (.variable n))]
      | .nextRecord p => do
          let t ← targetFor fuel p
          match ← nextRecord 1000000 with
          | none => return .number 0
          | some record => do
              countRecord true
              keepRecord t record
              return .number 1
      | .fileRecord e p => do
          let name ← textOf (← eval fuel e)
          let t ← targetFor fuel p
          recordFrom (← inputChannel name false) t
      | .commandRecord e p => do
          let name ← textOf (← eval fuel e)
          let t ← targetFor fuel p
          recordFrom (← inputChannel name true) t
      | .find e p => do
          let t ← textOf (← eval fuel e)
          let m ← matcherFor fuel p
          let (start, length) : Nat × Int :=
            match m.search.find? (Subject.ofOctets false t) 0 with
            | some f => (f.start + 1, ((f.finish - f.start : Nat) : Int))
            | none => (0, -1)
          setShared "RSTART" (.ofNat start)
          setShared "RLENGTH" (.number (floatOf length))
          return .ofNat start
      | .divide e n p => do
          let t ← textOf (← eval fuel e)
          let separator ← match p with
            | none => separatorOf (← sharedText "FS")
            | some (.pattern m) => pure (.matcher m)
            | some p => do separatorOf (← textOf (← eval fuel p))
          let items := ((pieces separator t).map Datum.input).toArray
          let k ← lookupNumber n
          changeLookup k fun _ => if items.isEmpty then .empty else .sequence items
          return .ofNat items.size
      | .substitute isAll p r place => do
          let m ← matcherFor fuel p
          let replacement ← textOf (← eval fuel r)
          let t ← target fuel place
          let text ← textOf (← load t)
          let s := Subject.ofOctets false text
          let (result, count) := replaced m.search s replacement isAll (2 * s.size + 2) 0 none 0 []
          if 0 < count then store t (.text result)
          return .ofNat count

/-- The values of expressions. -/
def evalAll : Nat → List Expression → Work (List Datum)
  | 0, _ => throw .fail
  | _, [] => return []
  | fuel + 1, e :: rest => do
      let d ← eval fuel e
      return d :: (← evalAll fuel rest)

/-- The index that expressions stand for. -/
def indexFor : Nat → List Expression → Work Index
  | 0, _ => throw .fail
  | fuel + 1, indices => do
      match indices with
      | [e] => indexOf (← eval fuel e)
      | es => do
          let ds ← evalAll fuel es
          let ts ← ds.mapM textOf
          return .text (joinWith (← sharedText "SUBSEP") ts)

/-- The expression that something is searched for with. -/
def matcherFor : Nat → Expression → Work Matcher
  | 0, _ => throw .fail
  | fuel + 1, e => do
      match e with
      | .pattern m => return m
      | e => do matcher (← textOf (← eval fuel e))

/-- A place with its indices known. -/
def target : Nat → Place → Work Target
  | 0, _ => throw .fail
  | fuel + 1, p => do
      match p with
      | .variable (.shared name) => return .shared name
      | .variable (.parameter i) => return .slot i
      | .field e => do
          let n ← fieldNumber (← eval fuel e)
          return .field n
      | .element n indices => do
          let i ← indexFor fuel indices
          return .element (← lookupNumber n) i

/-- A place that may be missing. -/
def targetFor : Nat → Option Place → Work (Option Target)
  | 0, _ => throw .fail
  | _, none => return none
  | fuel + 1, some p => do return some (← target fuel p)

/-- The value of a function of the program. -/
def call : Nat → String → List Expression → Work Datum
  | 0, _, _ => throw .fail
  | fuel + 1, name, arguments => do
      match (← get).routines[name]? with
      | none => return .unset
      | some r => do
          let slots ← passed fuel r.parameters arguments
          let (frame, count) ← modifyGet fun m =>
            ((m.frame, m.lookups.size), { m with frame := slots.toArray })
          let outcome ← attempt (exec fuel r.body)
          -- The lookups that belong to the call are gone with it.
          modify fun m => { m with frame := frame, lookups := m.lookups.shrink count }
          match outcome with
          | .ok () => return .unset
          | .error (.return_ d) => return d
          | .error j => throw j

/-- The arguments that a function is given. -/
def passed : Nat → List Kind → List Expression → Work (List Slot)
  | 0, _, _ => throw .fail
  | _, [], _ => return []
  | fuel + 1, _ :: kinds, [] => do
      let rest ← passed fuel kinds []
      return .datum .unset :: rest
  | fuel + 1, kind :: kinds, e :: es => do
      let slot ← match kind, e with
        | .lookup, .read (.variable n) => do pure (Slot.lookup (← lookupNumber n))
        | _, e => do pure (Slot.datum (← eval fuel e))
      let rest ← passed fuel kinds es
      return slot :: rest

/-- Runs a statement. -/
def exec : Nat → Statement → Work Unit
  | 0, _ => throw .fail
  | fuel + 1, s => do
      match s with
      | .nothing => return ()
      | .evaluate e => do
          let _ ← eval fuel e
          return ()
      | .print es destination => do
          let t ←
            if es.isEmpty then pure (← get).record
            else do
              let ds ← evalAll fuel es
              let ts ← ds.mapM printed
              pure (joinWith (← sharedText "OFS") ts)
          let t := t ++ (← sharedText "ORS")
          send fuel destination t
      | .printFormatted es destination => do
          let ds ← evalAll fuel es
          let t ← filled "printf" (fun t => send fuel destination t) ds
          send fuel destination t
      | .block body => execAll fuel body
      | .choose e yes no => do
          if (← eval fuel e).isTrue then exec fuel yes else exec fuel no
      | .while_ e body => loop fuel (some e) none body
      | .doWhile body e => do
          let isOver ← round fuel body
          if isOver then return () else loop fuel (some e) none body
      | .for_ start condition step body => do
          match start with
          | some e => do
              let _ ← eval fuel e
          | none => pure ()
          loop fuel condition step body
      | .forEach counter lookup body => do
          let k ← lookupNumber lookup
          let keys ← withLookup k Lookup.indices
          let t ← target fuel (.variable counter)
          loopEach fuel t body keys
      | .break_ => throw .leave
      | .continue_ => throw .again
      | .next => throw .next
      | .nextFile => throw .nextFile
      | .exit none => throw .exit
      | .exit (some e) => do
          let status := clampedInteger (← eval fuel e).toNumber leastWord largestWord
          modify fun m => { m with status := (status % 256).toNat }
          throw .exit
      | .return_ none => throw (.return_ .unset)
      | .return_ (some e) => do
          let d ← eval fuel e
          throw (.return_ d)
      | .delete n none => do
          let k ← lookupNumber n
          changeLookup k fun _ => .empty
      | .delete n (some indices) => do
          let i ← indexFor fuel indices
          let k ← lookupNumber n
          changeLookup k fun l => l.erase i

/-- Runs statements in order. -/
def execAll : Nat → List Statement → Work Unit
  | 0, _ => throw .fail
  | _, [] => return ()
  | fuel + 1, s :: rest => do
      exec fuel s
      execAll fuel rest

/-- Runs the body of a loop once, and tells whether the loop is left. -/
def round : Nat → Statement → Work Bool
  | 0, _ => throw .fail
  | fuel + 1, body => do
      (Run.tick : Run Unit)
      match ← attempt (exec fuel body) with
      | .ok () => return false
      | .error .again => return false
      | .error .leave => return true
      | .error j => throw j

/-- Runs a loop as long as its condition holds. -/
def loop : Nat → Option Expression → Option Expression → Statement → Work Unit
  | 0, _, _, _ => throw .fail
  | fuel + 1, condition, step, body => do
      let goesOn ← match condition with
        | none => pure true
        | some e => do pure (← eval fuel e).isTrue
      if goesOn then
        let isOver ← round fuel body
        if isOver then return ()
        else do
          match step with
          | none => pure ()
          | some e => do
              let _ ← eval fuel e
          loop fuel condition step body
      else return ()

/-- Runs a loop for every one of some indices. -/
def loopEach : Nat → Target → Statement → List Octets → Work Unit
  | 0, _, _, _ => throw .fail
  | _, _, _, [] => return ()
  | fuel + 1, t, body, key :: keys => do
      store t (.text key)
      let isOver ← round fuel body
      if isOver then return () else loopEach fuel t body keys

/-- Sends a text to where it is to go. -/
def send : Nat → Option Destination → Octets → Work Unit
  | 0, _, _ => throw .fail
  | fuel + 1, destination, t => do
      match destination with
      | none => printText t
      | some (.file e) => do
          let name ← textOf (← eval fuel e)
          writeTo name false false t
      | some (.end_ e) => do
          let name ← textOf (← eval fuel e)
          writeTo name false true t
      | some (.command e) => do
          let name ← textOf (← eval fuel e)
          writeTo name true false t

end

/-! ## Programs -/

/-- Whether a rule is for the record. -/
def applies (c : Condition) : Work Bool := do
  match c with
  | .always => return true
  | .when e => return (← eval depthLimit e).isTrue
  | .range n first last => do
      let isInside := (← get).ranges.contains n
      let begins ← if isInside then pure true else do pure (← eval depthLimit first).isTrue
      if !begins then return false
      else do
        let isLast := (← eval depthLimit last).isTrue
        modify fun m => { m with
          ranges := if isLast then m.ranges.filter (· != n) else if isInside then m.ranges else n :: m.ranges }
        return true

/-- Applies rules to the record. -/
def applyRules : List Rule → Work Unit
  | [] => return ()
  | r :: rest => do
      if ← applies r.condition then exec depthLimit r.action
      applyRules rest

/-- Applies the rules to all records of the input. -/
def applyAll (rules : List Rule) : Nat → Work Unit
  | 0 => return ()
  | fuel + 1 => do
      match ← nextRecord 1000000 with
      | none => return ()
      | some record => do
          countRecord true
          setRecord record
          match ← attempt (applyRules rules) with
          | .ok () => applyAll rules fuel
          | .error .next => applyAll rules fuel
          | .error .nextFile => do
              leaveInput
              applyAll rules fuel
          | .error j => throw j

/-- Runs a program; what comes after the input is run however the work
    before it was left, unless something was wrong. -/
def runProgram (p : Program) : Work Unit := do
  let before : Work Unit := do
    execAll depthLimit p.beginning
    if !p.rules.isEmpty || !p.ending.isEmpty then applyAll p.rules depthLimit
  let outcome ← attempt before
  let goesOn := match outcome with
    | .ok () => true
    | .error .fail => false
    | .error _ => true
  if goesOn then
    let _ ← attempt (execAll depthLimit p.ending)
  closeAll

/-- The machine for a program with its arguments and the variables it was
    given. -/
def start (p : Program) (arguments : List Octets) (environment : List (String × String)) : Machine :=
  let data : List (String × Datum) :=
    [("FS", .text [' ']), ("OFS", .text [' ']), ("RS", .text ['\n']), ("ORS", .text ['\n']),
     ("CONVFMT", .text "%.6g".toList), ("OFMT", .text "%.6g".toList), ("SUBSEP", .text ['\x1c']),
     ("NR", .number 0), ("FNR", .number 0), ("RSTART", .number 0), ("RLENGTH", .number (-1)),
     ("FILENAME", .unset), ("ARGC", .ofNat arguments.length)]
  let argv := arguments.zipIdx.foldl
    (fun (l : Lookup) (t, i) => l.set (.integer i) (.input t)) .empty
  let environ := environment.foldl
    (fun (l : Lookup) (n, v) => l.set (.text n.toList) (.input v.toList)) .empty
  let others := (p.lookups.filter fun n => n != "ARGV" && n != "ENVIRON").map fun n => (n, Lookup.empty)
  let lookups := ("ARGV", argv) :: ("ENVIRON", environ) :: others
  { routines := .ofList (p.functions.map fun r => (r.name, r))
    shared := .ofList data
    sharedLookups := .ofList (lookups.zipIdx.map fun ((n, _), i) => (n, i))
    lookups := (lookups.map (·.2)).toArray
    frame := #[], record := [], fields := #[], givenCount := none, isDivided := false, ranges := []
    input := none, nextArgument := 1, hadFile := false, isOver := false
    channels := firstChannels, matchers := {}, seed := .number 0, random := 42, status := 0 }

end Work

end HermesBundle.Shell.Records
