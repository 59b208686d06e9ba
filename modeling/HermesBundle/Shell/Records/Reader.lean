import HermesBundle.Shell.Records.Tokens

/-! # Reading — programs for records from their tokens

    What is wrong with a program is gathered, and reading goes on with the
    next statement, so that several faults can be told of at once.  A name
    is a datum or a lookup from its first use on; what is passed to a
    function is what the function takes it for, and the other way round. -/

namespace HermesBundle.Shell.Records

/-- Why reading does not go on as it began. -/
inductive Halt where
  /-- Something else was expected; that has been told. -/
  | misread
  /-- Nothing more is read. -/
  | over

/-- A call of a function, to be looked at when all functions are known. -/
structure CallNote where
  callee : String
  line : Nat
  /-- The function that the call is in. -/
  caller : Option String
  /-- The arguments that are mere names. -/
  arguments : List (Option Name)

/-- A parameter as it was written, with what is known of it. -/
abbrev Parameters := List (String × Kind)

/-- How far a program has been read. -/
structure Draft where
  /-- What stands before complaints: the name of the file, if there is one. -/
  label : String
  source : Scan
  /-- The tokens that have been seen, but not taken. -/
  rest : List Lexeme
  /-- The line of the last token that was taken. -/
  line : Nat
  /-- The latest first. -/
  complaints : List String
  shared : Parameters
  parameters : Parameters
  caller : Option String
  /-- Whether records can be skipped where the reading is. -/
  inRule : Bool
  loops : Nat
  ranges : Nat
  calls : List CallNote
  routines : List (Routine × Parameters)

/-- Reading a part of a program. -/
abbrev Reader := ExceptT Halt (StateM Draft)

namespace Reader

/-- How many complaints there are at most. -/
def complaintLimit : Nat := 5

/-- Gathers a complaint. -/
def complain (t : String) : Reader Unit := do
  let s ← get
  set { s with complaints := (s.label ++ t) :: s.complaints }
  if complaintLimit ≤ s.complaints.length + 1 then throw .over

/-- A complaint with the line of the last token. -/
def complainHere (t : String) : Reader Unit := do
  complain ("line " ++ toString (← get).line ++ ": " ++ t)

/-- Whether a name is known as something else than a function. -/
def Draft.isKnown (s : Draft) (name : String) : Bool :=
  (s.parameters.lookup name).isSome || (s.shared.lookup name).isSome

/-- Looks at some number of tokens. -/
def see : Nat → Reader Unit
  | 0 => return ()
  | n + 1 => do
      see n
      let s ← get
      if s.rest.length ≤ n then
        let (lexemes, source) := s.source.next (Draft.isKnown s)
        set { s with source := source, rest := s.rest ++ lexemes }

/-- The next token.  What is wrong with it is told of when it is seen
    first. -/
def peek : Reader Lexeme := do
  see 1
  let s ← get
  match s.rest with
  | [] => return ⟨.finish, s.line, 0, 0, []⟩
  | l :: rest => do
      if !l.faults.isEmpty then
        set { s with rest := { l with faults := [] } :: rest }
        for (line, fault) in l.faults do
          complain ("line " ++ toString line ++ ": " ++ fault)
      return l

/-- The token after the next one. -/
def peekSecond : Reader Token := do
  see 2
  return ((← get).rest.drop 1).head?.elim .finish (·.token)

/-- Takes the next token. -/
def advance : Reader Token := do
  let l ← peek
  modify fun s => { s with rest := s.rest.drop 1, line := l.line }
  return l.token

/-- Refuses the next token. -/
def refuse {α : Type} : Reader α := do
  let l ← peek
  let isOuter := match l.token with
    | .finish => true
    | .keyword k => ["BEGIN", "END"].contains k
    | _ => false
  let isEnd := match l.token with
    | .finish => true
    | t => t.isSeparator
  let told :=
    if isEnd && 0 < l.parens then "missing ) near "
    else if isOuter && 0 < l.braces then "missing \x7d near "
    else "syntax error at or near "
  -- What is missing once is not missing again.
  if isOuter && 0 < l.braces then
    modify fun s => { s with source := { s.source with braces := 0 } }
  match l.token with
  | .wrong c => do
      complain c
      throw .over
  | .unexpected c => do
      complain (toString l.line ++ ": unexpected character \x27" ++ String.singleton c ++ "\x27")
      throw .misread
  | t => do
      complain ("line " ++ toString l.line ++ ": " ++ told ++ t.shown)
      throw .misread

/-- Whether the next token is a sign. -/
def isSign (t : String) : Reader Bool := do
  return (← peek).token.isSign t

/-- Whether the next token is a keyword. -/
def isKeyword (t : String) : Reader Bool := do
  return (← peek).token.isKeyword t

/-- Takes a sign that has to be there. -/
def expect (t : String) : Reader Unit := do
  if ← isSign t then discard advance else refuse

/-- Takes a sign if it is there. -/
def accept (t : String) : Reader Bool := do
  if ← isSign t then
    discard advance
    return true
  else return false

/-- Skips the end of a line. -/
def skipLine : Reader Unit := do
  match (← peek).token with
  | .newline => discard advance
  | _ => return ()

/-- Takes the end of a statement. -/
def expectEnd : Reader Unit := do
  if (← peek).token.isSeparator then discard advance else refuse

/-! ## Names -/

/-- The names that are known from the start. -/
def knownNames : Parameters :=
  (["NR", "FNR", "NF", "FS", "OFS", "RS", "ORS", "FILENAME", "CONVFMT", "OFMT", "RSTART", "RLENGTH",
    "SUBSEP", "ARGC"].map fun n => (n, Kind.datum))
    ++ [("ENVIRON", .lookup), ("ARGV", .lookup)]

/-- A list with the kind of a name set. -/
def withKind (l : Parameters) (name : String) (k : Kind) : Parameters :=
  if l.any fun (n, _) => n == name then l.map fun (n, old) => if n == name then (n, k) else (n, old)
  else (name, k) :: l

/-- The place of a name among parameters. -/
def parameterPlace (l : Parameters) (name : String) : Option Nat := l.findIdx? fun (n, _) => n == name

/-- What a name stands for. -/
def resolve (name : String) : Reader Name := do
  match parameterPlace (← get).parameters name with
  | some n => return .parameter n
  | none => return .shared name

/-- What is known of a name. -/
def kindOf (name : String) : Reader Kind := do
  let s ← get
  match s.parameters.lookup name with
  | some k => return k
  | none => return (s.shared.lookup name).getD .unknown

/-- Uses a name as a datum or a lookup. -/
def use (name : String) (k : Kind) : Reader Name := do
  let s ← get
  let isLocal := (s.parameters.lookup name).isSome
  let old ← kindOf name
  if old = .unknown then
    if isLocal then set { s with parameters := withKind s.parameters name k }
    else set { s with shared := withKind s.shared name k }
  else if old != k then
    complainHere ("illegal reference to " ++ (if isLocal then "local " else "")
      ++ (if old = .lookup then "array " else "variable ") ++ name)
  resolve name

/-! ## Regular expressions -/

/-- A regular expression with its escapes read. -/
def patternEscapes : Nat → Octets → Octets → Octets
  | 0, t, done => done.reverse ++ t
  | _, [], done => done.reverse
  | fuel + 1, '\\' :: c :: rest, done =>
      let octal := ((c :: rest).take 3).takeWhile isOctal
      if !octal.isEmpty then
        let d := Char.ofNat (valueOfDigits 8 octal % 256)
        let shown := if isAlphanumeric d || 128 ≤ d.toNat then [d] else [d, '\\']
        patternEscapes fuel ((c :: rest).drop octal.length) (shown ++ done)
      else
        match if isLetter c then textEscape c else none with
        | some d => patternEscapes fuel rest (d :: done)
        | none => patternEscapes fuel rest (c :: '\\' :: done)
  | fuel + 1, c :: rest, done => patternEscapes fuel rest (c :: done)

/-- The matcher that matches everywhere. -/
def emptyMatcher (t : Octets) : Matcher := ⟨t, ⟨.empty, ⟨false, false⟩, 0⟩⟩

/-- The search that a text stands for. -/
def matcherOf (t : Octets) : Except RegexFault Matcher :=
  if t.isEmpty then .ok (emptyMatcher t)
  else
    (Search.ofOctets .recordPrograms false ⟨false, false⟩ (patternEscapes (t.length + 1) t [])).map
      fun search => ⟨t, search⟩

/-- What is said of a text that is no regular expression. -/
def matcherFault (e : RegexFault) (t : Octets) : String :=
  let cause := match e with
    | .openGroup => "missing \x27)\x27"
    | .openSet => "bad class -- [], [\x5e] or ["
    | .missingSet => "bad class -- [], [\x5e] or ["
    | .wrongInterval => "bad interval expression"
    | .tooBig => "regular expression too big"
    | e => e.text
  "regular expression compile failed (" ++ cause ++ ")\n" ++ String.ofList t

/-- The regular expression of a text; if it is none, that is told. -/
def matcher (t : Octets) : Reader Matcher := do
  match matcherOf t with
  | .ok m => return m
  | .error e => do
      complainHere (matcherFault e t)
      return emptyMatcher t

/-- An expression that something is searched for with: the regular
    expression that a text spells, if it is known now. -/
def fixedPattern (e : Expression) : Reader Expression := do
  match e with
  | .constant (.text t) => return .pattern (← matcher t)
  | e => return e

/-- An expression that a text is divided with.  A text of one octet is no
    regular expression. -/
def fixedSeparator (e : Expression) : Reader Expression := do
  match e with
  | .constant (.text (_ :: _ :: _)) => fixedPattern e
  | e => return e

/-! ## Expressions -/

/-- Where an expression stands. -/
structure Setting where
  /-- Whether a relation or a bar would lead to the output of a
      statement. -/
  inPrint : Bool

/-- Where nothing is special. -/
def anywhere : Setting := ⟨false⟩

/-- How many arguments a function that is always there takes. -/
def argumentBounds : Builtin → Nat × Nat
  | .length => (0, 1)
  | .index => (2, 2)
  | .substr => (2, 3)
  | .sprintf => (1, 255)
  | .atan2 => (2, 2)
  | .rand => (0, 0)
  | .srand => (0, 1)
  | .fflush => (0, 1)
  | .strftime => (0, 3)
  | .systime => (0, 0)
  | _ => (1, 1)

/-- The operator of an assignment. -/
def assignment? : Token → Option (Option Operator)
  | .sign "=" => some none
  | .sign "+=" => some (some .add)
  | .sign "-=" => some (some .subtract)
  | .sign "*=" => some (some .multiply)
  | .sign "/=" => some (some .divide)
  | .sign "%=" => some (some .remainder)
  | .sign "\x5e=" => some (some .power)
  | _ => none

/-- The relation of a sign. -/
def relation? (s : Setting) : Token → Option Relation
  | .sign "<" => some .less
  | .sign "<=" => some .lessOrEqual
  | .sign "==" => some .equal
  | .sign "!=" => some .different
  | .sign ">" => if s.inPrint then none else some .greater
  | .sign ">>" => if s.inPrint then none else some .greater
  | .sign ">=" => some .greaterOrEqual
  | _ => none

/-- Whether a value can start with a token that follows another value. -/
def startsOperand : Token → Bool
  | .number _ _ => true
  | .text _ => true
  | .regex _ => true
  | .name _ => true
  | .function _ => true
  | .builtin _ _ => true
  | .keyword k => ["getline", "match", "split", "sub", "gsub"].contains k
  | .sign s => ["(", "$", "!", "++", "--"].contains s
  | _ => false

/-- The place that an expression reads. -/
def placeOf : Expression → Option Place
  | .read p => some p
  | _ => none

/-- Whether an expression reads a field. -/
def isField : Expression → Bool
  | .read (.field _) => true
  | _ => false

/-- The record as a whole. -/
def wholeRecord : Expression := .read (.field (.constant (.number 0)))

/-- The arguments that are mere names. -/
def bareName : Expression → Option Name
  | .read (.variable n) => some n
  | _ => none

mutual

/-- Reads an expression whose operators bind at least as some number
    says. -/
def readExpression : Nat → Setting → Nat → Reader Expression
  | 0, _, _ => refuse
  | fuel + 1, c, least => do
      let left ← readOperand fuel c
      readOperators fuel c least left

/-- Reads operators and their right sides after an expression. -/
def readOperators : Nat → Setting → Nat → Expression → Reader Expression
  | 0, _, _, _ => refuse
  | fuel + 1, c, least, left => do
      let t := (← peek).token
      match relation? c t with
      | some r =>
          if least ≤ 5 then do
            if t.isSign ">>" then refuse
            discard advance
            let right ← readExpression fuel c 6
            readOperators fuel c least (.compare r left right)
          else return left
      | none =>
          if t.isSign "?" && least = 0 then do
            discard advance
            let yes ← readExpression fuel c 0
            expect ":"
            let no ← readExpression fuel c 0
            readOperators fuel c least (.choose left yes no)
          else if t.isSign "||" && least ≤ 1 then do
            discard advance
            let right ← readExpression fuel c 2
            readOperators fuel c least (.either left right)
          else if t.isSign "&&" && least ≤ 2 then do
            discard advance
            let right ← readExpression fuel c 3
            readOperators fuel c least (.both left right)
          else if t.isKeyword "in" && least ≤ 3 then do
            discard advance
            let lookup ← readLookupName
            readOperators fuel c least (.within [left] lookup)
          else if (t.isSign "~" || t.isSign "!~") && least ≤ 4 then do
            discard advance
            let right ← fixedPattern (← readExpression fuel c 5)
            readOperators fuel c least (.matching (t.isSign "!~") left right)
          else return left

/-- Reads the name of a lookup. -/
def readLookupName : Reader Name := do
  match (← peek).token with
  | .name n => do
      discard advance
      use n .lookup
  | _ => refuse

/-- Reads an assignment or values in a row. -/
def readOperand : Nat → Setting → Reader Expression
  | 0, _ => refuse
  | fuel + 1, c => do
      let first ← readSigned fuel c
      match placeOf first, assignment? (← peek).token with
      | some p, some o => do
          discard advance
          let e ← readExpression fuel c 0
          return match o with
            | none => .assign p e
            | some o => .update o p e
      | _, _ => do
          let left ← readArithmetic fuel c 1 first
          readRow fuel c left

/-- Reads further values in a row. -/
def readRow : Nat → Setting → Expression → Reader Expression
  | 0, _, _ => refuse
  | fuel + 1, c, left => do
      if startsOperand (← peek).token then do
        let first ← readSigned fuel c
        let right ← readArithmetic fuel c 1 first
        readRow fuel c (.join left right)
      else return left

/-- Reads arithmetic after a value, with operators that bind at least as
    some number says. -/
def readArithmetic : Nat → Setting → Nat → Expression → Reader Expression
  | 0, _, _, _ => refuse
  | fuel + 1, c, least, left => do
      let t := (← peek).token
      let binary := fun (o : Operator) (level : Nat) => do
        discard advance
        let first ← readSigned fuel c
        let right ← readArithmetic fuel c level first
        readArithmetic fuel c least (.arithmetic o left right)
      if t.isSign "+" && least ≤ 1 then binary .add 2
      else if t.isSign "-" && least ≤ 1 then binary .subtract 2
      else if t.isSign "*" && least ≤ 2 then binary .multiply 3
      else if t.isSign "/" && least ≤ 2 then binary .divide 3
      else if t.isSign "%" && least ≤ 2 then binary .remainder 3
      else if t.isSign "\x5e" && least ≤ 5 then binary .power 5
      else if t.isSign "|" && least ≤ 4 && !c.inPrint then do
        discard advance
        if ← isKeyword "getline" then
          discard advance
          let target ← readTarget fuel c
          readArithmetic fuel c least (.commandRecord left target)
        else refuse
      else return left

/-- Reads what a record is stored to, if that is said. -/
def readTarget : Nat → Setting → Reader (Option Place)
  | 0, _ => refuse
  | fuel + 1, c => do
      match (← peek).token with
      | .name _ => some <$> readPlace fuel c
      | .sign "$" => some <$> readPlace fuel c
      | .sign "(" => do
          discard advance
          if !(← isSign "$") then refuse
          let p ← readPlace fuel c
          expect ")"
          return some p
      | _ => return none

/-- Reads something that can be assigned to. -/
def readPlace : Nat → Setting → Reader Place
  | 0, _ => refuse
  | fuel + 1, c => do
      match (← peek).token with
      | .name n => do
          discard advance
          readElement fuel n
      | .sign "$" => do
          discard advance
          readField fuel c
      | _ => refuse

/-- Reads what follows a name: nothing, or the indices of an element. -/
def readElement : Nat → String → Reader Place
  | 0, _ => refuse
  | fuel + 1, name => do
      if (← isSign "[") && name != "NF" then do
        discard advance
        let indices ← readList fuel anywhere "]"
        return .element (← use name .lookup) indices
      else return .variable (← use name .datum)

/-- Reads the number of a field. -/
def readField : Nat → Setting → Reader Place
  | 0, _ => refuse
  | fuel + 1, c => do
      match (← peek).token with
      | .name "NF" => do
          let e ← readValue fuel c
          return .field e
      | .name n => do
          discard advance
          let p ← readElement fuel n
          return .field (.read p)
      | .sign "$" => do
          let e ← readValue fuel c
          return .field e
      | .sign s =>
          if ["(", "++", "--", "-", "+", "!"].contains s then
            if s == "(" then do
              let (e, _) ← readPrimary fuel c
              return .field e
            else return .field (← readSigned fuel c)
          else refuse
      | _ => do
          let (e, _) ← readPrimary fuel c
          return .field e

/-- Reads a value that can have a sign, or one more or less before it. -/
def readSigned : Nat → Setting → Reader Expression
  | 0, _ => refuse
  | fuel + 1, c => do
      let under := fun (make : Expression → Expression) => do
        discard advance
        let first ← readSigned fuel c
        return make (← readArithmetic fuel c 3 first)
      match (← peek).token with
      | .sign "!" => under .not
      | .sign "-" => under .negate
      | .sign "+" => under .plus
      | .sign "++" => do
          discard advance
          return .count true true (← readPlace fuel c)
      | .sign "--" => do
          discard advance
          return .count false true (← readPlace fuel c)
      | .keyword "getline" => do
          discard advance
          let target ← readTarget fuel c
          if ← accept "<" then
            let first ← readSigned fuel c
            let file ← readArithmetic fuel c 5 first
            return .fileRecord file target
          else return .nextRecord target
      | _ => readValue fuel c

/-- Reads a value with one more or less after it. -/
def readValue : Nat → Setting → Reader Expression
  | 0, _ => refuse
  | fuel + 1, c => do
      let (e, isPlace) ← readPrimary fuel c
      match if isPlace then placeOf e else none with
      | none => return e
      | some p =>
          if ← accept "++" then return .count true false p
          else if ← accept "--" then return .count false false p
          else return e

/-- Reads a list of expressions up to a sign. -/
def readList : Nat → Setting → String → Reader (List Expression)
  | 0, _, _ => refuse
  | fuel + 1, c, close => do
      let e ← readExpression fuel c 0
      if ← accept "," then
        return e :: (← readList fuel c close)
      else do
        expect close
        return [e]

/-- Reads the arguments of a function, where a mere name is not yet used. -/
def readArguments : Nat → Reader (List Expression)
  | 0 => refuse
  | fuel + 1 => do
      let t := (← peek).token
      let second ← peekSecond
      let e ← match t with
        | .name n =>
            if second.isSign "," || second.isSign ")" then do
              discard advance
              pure (Expression.read (.variable (← resolve n)))
            else readExpression fuel anywhere 0
        | _ => readExpression fuel anywhere 0
      if ← accept "," then return e :: (← readArguments fuel)
      else do
        expect ")"
        return [e]

/-- Reads a value that is no operation, and whether it can be assigned
    to. -/
def readPrimary : Nat → Setting → Reader (Expression × Bool)
  | 0, _ => refuse
  | fuel + 1, c => do
      match (← peek).token with
      | .number x _ => do
          discard advance
          return (.constant (.number x), false)
      | .text t => do
          discard advance
          return (.constant (.text t), false)
      | .regex t => do
          discard advance
          return (.pattern (← matcher t), false)
      | .name n => do
          discard advance
          return (.read (← readElement fuel n), true)
      | .sign "$" => do
          discard advance
          return (.read (← readField fuel c), true)
      | .sign "(" => do
          discard advance
          let es ← readList fuel anywhere ")"
          match es with
          | [e] => return (e, isField e)
          | es =>
              if ← isKeyword "in" then
                discard advance
                return (.within es (← readLookupName), false)
              else refuse
      | .function n => do
          discard advance
          expect "("
          let line := (← get).line
          let es ← if ← accept ")" then pure [] else readArguments fuel
          modify fun s => { s with calls := ⟨n, line, s.caller, es.map bareName⟩ :: s.calls }
          return (.call n es, false)
      | .builtin .length _ => do
          discard advance
          if ← accept "(" then
            if ← accept ")" then return (.builtin .length [wholeRecord], false)
            else
              match (← peek).token, ← peekSecond with
              | .name n, .sign ")" => do
                  discard advance
                  discard advance
                  return (.lengthOf (← resolve n), false)
              | _, _ => do
                  let e ← readExpression fuel anywhere 0
                  expect ")"
                  return (.builtin .length [e], false)
          else return (.builtin .length [wholeRecord], false)
      | .builtin b name => do
          discard advance
          expect "("
          let es ← if ← accept ")" then pure [] else readList fuel anywhere ")"
          let (least, most) := argumentBounds b
          if es.length < least || most < es.length then
            complainHere ("wrong number of arguments in call to " ++ name)
          return (.builtin b es, false)
      | .keyword "match" => do
          discard advance
          expect "("
          let e ← readExpression fuel anywhere 0
          expect ","
          let p ← fixedPattern (← readExpression fuel anywhere 0)
          expect ")"
          return (.find e p, false)
      | .keyword "split" => do
          discard advance
          expect "("
          let e ← readExpression fuel anywhere 0
          expect ","
          let lookup ← readLookupName
          let separator ← if ← accept "," then
              pure (some (← fixedSeparator (← readExpression fuel anywhere 0)))
            else pure none
          expect ")"
          return (.divide e lookup separator, false)
      | .keyword k =>
          if k == "sub" || k == "gsub" then do
            discard advance
            expect "("
            let p ← fixedPattern (← readExpression fuel anywhere 0)
            expect ","
            let e ← readExpression fuel anywhere 0
            let target ← if ← accept "," then readPlace fuel anywhere else pure (.field (.constant (.number 0)))
            expect ")"
            return (.substitute (k == "gsub") p e target, false)
          else refuse
      | _ => refuse

end

/-- Goes on with an expression whose first value has been read. -/
def continueExpression (fuel : Nat) (c : Setting) (first : Expression) : Reader Expression := do
  let left ← readArithmetic fuel c 1 first
  let left ← readRow fuel c left
  readOperators fuel c 0 left

/-! ## Statements -/

/-- Reads further arguments of a statement that prints. -/
def readMore : Nat → Setting → Reader (List Expression)
  | 0, _ => refuse
  | fuel + 1, c => do
      if ← accept "," then do
        let e ← readExpression fuel c 0
        return e :: (← readMore fuel c)
      else return []

/-- Reads the arguments of a statement that prints. -/
def readPrinted (fuel : Nat) : Reader (List Expression) := do
  let c : Setting := ⟨true⟩
  let t := (← peek).token
  if t.isSeparator || t.isSign ">" || t.isSign ">>" || t.isSign "|" then return []
  else if t.isSign "(" then do
    discard advance
    if ← accept ")" then return []
    else do
      let es ← readList fuel anywhere ")"
      match es with
      | [e] => do
          let first ←
            if isField e then
              match placeOf e with
              | some p =>
                  if ← accept "++" then pure (.count true false p)
                  else if ← accept "--" then pure (.count false false p)
                  else pure e
              | none => pure e
            else pure e
          let e ← continueExpression fuel c first
          return e :: (← readMore fuel c)
      | es =>
          if ← isKeyword "in" then
            discard advance
            let e ← continueExpression fuel c (.within es (← readLookupName))
            return e :: (← readMore fuel c)
          else return es
  else do
    let e ← readExpression fuel c 0
    return e :: (← readMore fuel c)

/-- Reads where output goes. -/
def readDestination (fuel : Nat) : Reader (Option Destination) := do
  if ← accept ">" then return some (.file (← readExpression fuel anywhere 0))
  else if ← accept ">>" then return some (.end_ (← readExpression fuel anywhere 0))
  else if ← accept "|" then return some (.command (← readExpression fuel anywhere 0))
  else return none

/-- Skips tokens up to the end of a statement. -/
def skipStatement : Nat → Reader Unit
  | 0 => throw .over
  | fuel + 1 => do
      match (← peek).token with
      | .finish => throw .over
      | .wrong c => do
          complain c
          throw .over
      | t => do
          discard advance
          if t.isSeparator then
            modify fun s => { s with source := { s.source with parens := 0 } }
          else skipStatement fuel

/-- Reads the body of a loop. -/
def inLoop {α : Type} (body : Reader α) : Reader α := do
  modify fun s => { s with loops := s.loops + 1 }
  let leave : Reader Unit := modify fun s => { s with loops := s.loops - 1 }
  let a ← tryCatch body fun h => do
    leave
    throw h
  leave
  return a

/-- Whether the reading is in no loop; after something wrong, that is not
    known. -/
def isLoose : Reader Bool := do
  let s ← get
  return s.loops = 0 && s.complaints.isEmpty

/-- Reads an expression if there is one before the end of the statement. -/
def readOptional (fuel : Nat) : Reader (Option Expression) := do
  if (← peek).token.isSeparator then return none
  else some <$> readExpression fuel anywhere 0

mutual

/-- Reads a statement; if that fails, it is skipped. -/
def readStatement : Nat → Reader Statement
  | 0 => refuse
  | fuel + 1 =>
      tryCatch (readWhole fuel) fun h => do
        match h with
        | .over => throw .over
        | .misread => do
            skipStatement fuel
            return .nothing

/-- Reads a statement. -/
def readWhole : Nat → Reader Statement
  | 0 => refuse
  | fuel + 1 => do
      let l ← peek
      match l.token with
      | .sign "\x7b" => readBlock fuel
      | .keyword "if" => do
          discard advance
          expect "("
          let e ← readExpression fuel anywhere 0
          expect ")"
          skipLine
          let yes ← readStatement fuel
          if ← isKeyword "else" then
            discard advance
            return .choose e yes (← readStatement fuel)
          else return .choose e yes .nothing
      | .keyword "while" => do
          discard advance
          expect "("
          let e ← readExpression fuel anywhere 0
          expect ")"
          skipLine
          return .while_ e (← inLoop (readStatement fuel))
      | .keyword "do" => do
          discard advance
          let body ← inLoop (readStatement fuel)
          readDoEnd fuel body
      | .keyword "for" => do
          discard advance
          expect "("
          readFor fuel
      | .keyword "break" => do
          discard advance
          expectEnd
          if (← isLoose) then complainHere "break statement outside of loop"
          return .break_
      | .keyword "continue" => do
          discard advance
          expectEnd
          if (← isLoose) then complainHere "continue statement outside of loop"
          return .continue_
      | .keyword "next" => do
          discard advance
          if !(← get).inRule then complainHere "improper use of next"
          expectEnd
          return .next
      | .keyword "nextfile" => do
          discard advance
          if !(← get).inRule then complainHere "improper use of nextfile"
          expectEnd
          return .nextFile
      | .keyword "exit" => do
          discard advance
          let e ← readOptional fuel
          expectEnd
          return .exit e
      | .keyword "return" => do
          discard advance
          if (← get).caller.isNone then complainHere "return outside function body"
          let e ← readOptional fuel
          expectEnd
          return .return_ e
      | .keyword "delete" => do
          discard advance
          match (← peek).token with
          | .name n => do
              discard advance
              let lookup ← use n .lookup
              let indices ← if ← accept "[" then some <$> readList fuel anywhere "]" else pure none
              expectEnd
              return .delete lookup indices
          | _ => refuse
      | .keyword "print" => do
          discard advance
          let es ← readPrinted fuel
          let destination ← readDestination fuel
          expectEnd
          return .print es destination
      | .keyword "printf" => do
          discard advance
          let es ← readPrinted fuel
          let destination ← readDestination fuel
          if es.isEmpty then complainHere "no arguments in call to printf"
          expectEnd
          return .printFormatted es destination
      | t =>
          if t.isSeparator then do
            discard advance
            return .nothing
          else do
            let e ← readExpression fuel anywhere 0
            expectEnd
            return .evaluate e

/-- Reads the condition of a loop after its body; what is skipped if that
    fails counts as a body again. -/
def readDoEnd : Nat → Statement → Reader Statement
  | 0, _ => refuse
  | fuel + 1, body => do
      let ending : Reader Statement := do
        if !(← isKeyword "while") then refuse
        discard advance
        expect "("
        let e ← readExpression fuel anywhere 0
        expect ")"
        expectEnd
        return .doWhile body e
      tryCatch ending fun h => do
        match h with
        | .over => throw .over
        | .misread => do
            skipStatement fuel
            readDoEnd fuel .nothing

/-- Reads a loop with a counter after its parenthesis. -/
def readFor : Nat → Reader Statement
  | 0 => refuse
  | fuel + 1 => do
      see 4
      let s ← get
      let ahead : List Token := (s.rest.take 4).map (·.token)
      match ahead with
      | [.name n, .keyword "in", .name l, .sign ")"] => do
          for _ in [0, 1, 2, 3] do
            discard advance
          let lookup ← use l .lookup
          let counter ← use n .datum
          skipLine
          return .forEach counter lookup (← inLoop (readStatement fuel))
      | _ => do
          let part : Reader (Option Expression) := do
            match (← peek).token with
            | .semicolon => do
                discard advance
                return none
            | _ => do
                let e ← readExpression fuel anywhere 0
                match (← peek).token with
                | .semicolon => do
                    discard advance
                    return some e
                | _ => refuse
          let start ← part
          let condition ← part
          let step ← if ← accept ")" then pure none else do
            let e ← readExpression fuel anywhere 0
            expect ")"
            pure (some e)
          skipLine
          return .for_ start condition step (← inLoop (readStatement fuel))

/-- Reads statements in braces. -/
def readBlock : Nat → Reader Statement
  | 0 => refuse
  | fuel + 1 => do
      expect "\x7b"
      return .block (← readStatements fuel)

/-- Reads statements up to a closing brace. -/
def readStatements : Nat → Reader (List Statement)
  | 0 => refuse
  | fuel + 1 => do
      if ← accept "\x7d" then return []
      else
        match (← peek).token with
        | .finish => do
            -- Nothing can follow, so that nothing is skipped either.
            let told : Reader (List Statement) := refuse
            tryCatch told fun _ => throw .over
        | _ => do
            let s ← readStatement fuel
            return s :: (← readStatements fuel)

end

/-! ## Programs -/

/-- Reads the parameters of a function of some name. -/
def readParameters (name : String) : Nat → Parameters → Reader Parameters
  | 0, _ => refuse
  | fuel + 1, found => do
      match (← peek).token with
      | .name n => do
          discard advance
          if found.any fun (m, _) => m == n then
            complainHere (n ++ " is duplicated in argument list")
          let found := found ++ [(n, Kind.unknown)]
          if ← accept "," then readParameters name fuel found
          else do
            expect ")"
            return found
      | .function n => do
          if n == name then complainHere "function parameter cannot be the function"
          refuse
      | _ => refuse

/-- Reads a function. -/
def readRoutine (fuel : Nat) : Reader Unit := do
  match (← peek).token with
  | .function n => do
      discard advance
      let s ← get
      if s.routines.any fun (r, _) => r.name == n then complainHere ("redefinition of " ++ n)
      match s.shared.lookup n with
      | some .lookup => complainHere ("illegal reference to array " ++ n)
      | some _ => complainHere ("illegal reference to variable " ++ n)
      | none => pure ()
      expect "("
      let parameters ← if ← accept ")" then pure [] else readParameters n fuel []
      skipLine
      modify fun s => { s with parameters := parameters, caller := some n }
      let body ← readBlock fuel
      modify fun s => { s with
        routines := s.routines ++ [(⟨n, [], body⟩, s.parameters)]
        parameters := [], caller := none }
  | _ => refuse

/-- Skips up to the next block and reads it. -/
def skipItem : Nat → Reader Unit
  | 0 => throw .over
  | fuel + 1 => do
      match (← peek).token with
      | .finish => throw .over
      | .wrong c => do
          complain c
          throw .over
      | t =>
          if t.isSign "\x7b" then do
            modify fun s => { s with parameters := [], caller := none, loops := 0, inRule := true }
            discard (readBlock fuel)
          else do
            discard advance
            skipItem fuel

/-- Reads a rule, a function, or what is done before or after the input. -/
def readItem (fuel : Nat) (p : Program) : Reader Program := do
  modify fun s => { s with inRule := false, loops := 0 }
  match (← peek).token with
  | .keyword "BEGIN" => do
      discard advance
      return { p with beginning := p.beginning ++ [← readBlock fuel] }
  | .keyword "END" => do
      discard advance
      return { p with ending := p.ending ++ [← readBlock fuel] }
  | .keyword "function" => do
      discard advance
      readRoutine fuel
      return p
  | .sign "\x7b" => do
      modify fun s => { s with inRule := true }
      return { p with rules := p.rules ++ [⟨.always, ← readBlock fuel⟩] }
  | _ => do
      let first ← readExpression fuel anywhere 0
      let condition ← if ← accept "," then do
          let last ← readExpression fuel anywhere 0
          let s ← get
          set { s with ranges := s.ranges + 1 }
          pure (Condition.range s.ranges first last)
        else pure (.when first)
      modify fun s => { s with inRule := true }
      if ← isSign "\x7b" then return { p with rules := p.rules ++ [⟨condition, ← readBlock fuel⟩] }
      else do
        expectEnd
        return { p with rules := p.rules ++ [⟨condition, .print [] none⟩] }

/-- Reads all items. -/
def readItems : Nat → Program → Reader Program
  | 0, p => return p
  | fuel + 1, p => do
      match (← peek).token with
      | .finish => return p
      | _ => do
          let p ← tryCatch (readItem fuel p) fun h => do
            match h with
            | .over => throw .over
            | .misread => do
                skipItem fuel
                return p
          readItems fuel p

/-! ## Kinds of arguments -/

/-- What is known of all names: those of the program and the parameters of
    each function. -/
structure Kinds where
  shared : Parameters
  routines : Table Parameters

namespace Kinds

/-- What is known of a name in a function. -/
def find (k : Kinds) (caller : Option String) : Name → Kind
  | .shared n => (k.shared.lookup n).getD .unknown
  | .parameter i =>
      (((caller.bind k.routines.find?).bind (·[i]?)).map (·.2)).getD .unknown

/-- What is known of a parameter. -/
def parameter (k : Kinds) (callee : String) (i : Nat) : Kind := k.find (some callee) (.parameter i)

/-- Sets what is known of a name. -/
def set (k : Kinds) (caller : Option String) (n : Name) (kind : Kind) : Kinds :=
  match n with
  | .shared n => { k with shared := withKind k.shared n kind }
  | .parameter i =>
      match caller with
      | none => k
      | some c =>
          { k with routines := k.routines.map fun (name, ps) =>
              (name, if name == c then ps.modify i fun (p, _) => (p, kind) else ps) }

/-- What a call tells of its arguments and of the parameters. -/
def learn (k : Kinds) (c : CallNote) : Kinds :=
  c.arguments.zipIdx.foldl
    (fun k (a, i) =>
      match a with
      | none => if k.parameter c.callee i = .unknown then k.set (some c.callee) (.parameter i) .datum else k
      | some n =>
          match k.find c.caller n, k.parameter c.callee i with
          | .unknown, .unknown => k
          | .unknown, kind => k.set c.caller n kind
          | kind, .unknown => k.set (some c.callee) (.parameter i) kind
          | _, _ => k)
    k

/-- What all calls tell, gone through some number of times. -/
def learnAll (calls : List CallNote) : Nat → Kinds → Kinds
  | 0, k => k
  | fuel + 1, k => learnAll calls fuel (calls.foldl learn k)

end Kinds

/-- Looks at a call when everything is known. -/
def checkCall (k : Kinds) (c : CallNote) : Reader Unit := do
  match k.routines.find? c.callee with
  | none => return ()
  | some ps =>
      if ps.length < c.arguments.length then
        complain ("line " ++ toString c.line ++ ": too many arguments in call to " ++ c.callee)
      else
        for (a, i) in c.arguments.zipIdx do
          let actual := match a with
            | none => Kind.datum
            | some n => k.find c.caller n
          let complainOf := fun (what : String) =>
            complain ("line " ++ toString c.line ++ ": type error in arg(" ++ toString (i + 1)
              ++ ") in call to " ++ c.callee ++ " (actual local " ++ what ++ ")")
          match actual, k.parameter c.callee i with
          | .datum, .lookup => complainOf "variable vs local array"
          | .lookup, .datum => complainOf "array vs local variable"
          | _, _ => pure ()

/-- Reads a program. -/
def readProgram (fuel : Nat) : Reader Program := do
  let p ← readItems fuel ⟨[], [], [], [], []⟩
  let s ← get
  let line := (← peek).line
  let k : Kinds := ⟨s.shared, s.routines.map fun (r, ps) => (r.name, ps)⟩
  let calls := s.calls.reverse
  let k := Kinds.learnAll calls (calls.length + 1) k
  let isDefined := fun (name : String) => (k.routines.find? name).isSome
  if !s.complaints.isEmpty then throw .over
  -- The last call is looked at first.
  for name in (s.calls.map (·.callee)).filter fun name => !isDefined name do
    complain ("line " ++ toString line ++ ": function " ++ name ++ " never defined")
  for c in calls do
    checkCall k c
  return { p with
    lookups := (k.shared.filter fun (_, kind) => kind = .lookup).map (·.1)
    functions := s.routines.map fun (r, _) =>
      { r with parameters := ((k.routines.find? r.name).getD []).map (·.2) } }

end Reader

/-- The program that a text spells, or what is wrong with it. -/
def programOf (label : String) (t : Octets) : Except (List String) Program :=
  let start : Draft :=
    { label := label, source := scanOf t, rest := [], line := 1,
      complaints := [], shared := Reader.knownNames, parameters := [], caller := none, inRule := false, loops := 0,
      ranges := 0, calls := [], routines := [] }
  let (outcome, s) := (Reader.readProgram (40 * t.length + 200)).run start
  match outcome, s.complaints with
  | .ok p, [] => .ok p
  | _, complaints => .error complaints.reverse

end HermesBundle.Shell.Records
