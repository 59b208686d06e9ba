import HermesBundle.Shell.Octets

/-! # Shell arithmetic — integer expressions of scripts

    Expressions have the operators of C on signed words.  Names stand for
    the values of variables and can be assigned to.  What an operator
    decides not to look at is read and not evaluated. -/

namespace HermesBundle.Shell

/-- Half the number of the values of a signed word. -/
def wordHalf : Nat := Nat.pow 2 63

/-- An integer brought into the range of signed words. -/
def wrapped (i : Int) : Int := Int.bmod i (2 * wordHalf)

/-- An integer as an unsigned word. -/
def unsigned (i : Int) : Nat := (i % (2 * wordHalf : Nat)).toNat

/-- An integer cut to the range of signed words. -/
def clamped (i : Int) : Int := max (-(wordHalf : Int)) (min (wordHalf - 1 : Nat) i)

/-- A number at the start of octets and what follows it: decimal, octal
    after a zero, hexadecimal after `0x`. -/
def leadingNumber (t : Octets) : Nat × Octets :=
  let take := fun (base : Nat) (t : Octets) =>
    let digits := t.takeWhile fun c => digitValue c < base
    (valueOfDigits base digits, t.drop digits.length)
  match t with
  | '0' :: x :: rest =>
      if (x == 'x' || x == 'X') && ((rest.head?.map isHexadecimal).getD false) then take 16 rest
      else take 8 (x :: rest)
  | _ => take 10 t

/-- An integer at the start of octets, after blanks and a sign, and what
    follows it.  If there are no digits, nothing is taken. -/
def leadingInteger (t : Octets) : Int × Octets :=
  let bare := t.dropWhile isSpace
  let (isNegative, digits) :=
    match bare with
    | '-' :: rest => (true, rest)
    | '+' :: rest => (false, rest)
    | _ => (false, bare)
  if (digits.head?.map isDigit).getD false then
    let (n, rest) := leadingNumber digits
    (if isNegative then -(n : Int) else n, rest)
  else (0, t)

/-- The integer that the value of a variable stands for; an empty value is
    zero. -/
def integerOf (t : Octets) : Option Int :=
  let (i, rest) := leadingInteger t
  if (rest.dropWhile isSpace).isEmpty && clamped i == i then some i else none

/-- The integer that decimal digits spell, with blanks around them and a
    sign in front. -/
def decimalInteger (t : Octets) : Option Int :=
  let bare := t.dropWhile isSpace
  let (isNegative, digits) :=
    match bare with
    | '-' :: rest => (true, rest)
    | '+' :: rest => (false, rest)
    | _ => (false, bare)
  let taken := digits.takeWhile isDigit
  let n : Int := valueOfDigits 10 taken
  let i := if isNegative then -n else n
  if taken.isEmpty || !((digits.drop taken.length).dropWhile isSpace).isEmpty then none
  else if clamped i == i then some i
  else none

/-- Why an expression has no value. -/
inductive ArithmeticFault where
  | noPrimary
  | noEnd
  | noColon
  | noParenthesis
  | divisionByZero
  /-- The value of a name is no number. -/
  | noNumber (value : String)
  /-- The quotient is no word. -/
  | overflow

/-- What is said of a fault of an expression. -/
def ArithmeticFault.message (fault : ArithmeticFault) (expression : String) : String :=
  let about := fun what : String =>
    "arithmetic expression: " ++ what ++ ": \x22" ++ expression ++ "\x22"
  match fault with
  | .noPrimary => about "expecting primary"
  | .noEnd => about "expecting EOF"
  | .noColon => about "expecting \x27:\x27"
  | .noParenthesis => about "expecting \x27)\x27"
  | .divisionByZero => about "division by zero"
  | .noNumber value => "Illegal number: " ++ value
  | .overflow => about "overflow"

/-- A part of an expression. -/
inductive ArithmeticToken where
  | number (i : Int)
  | name (s : String)
  | operator (s : String)
  /-- An assignment, joined with an operator if there is one. -/
  | assignment (operator : String)
  | bad
  | finish
deriving DecidableEq

/-- The state of an evaluation: what is left of the expression, the last
    token, the variables and what was assigned, the latest first. -/
structure Calculation where
  rest : Octets
  last : ArithmeticToken
  valueOf : String → Option String
  assigned : List (String × Int)

/-- A step of an evaluation. -/
abbrev Calculate (α : Type) := StateT Calculation (Except ArithmeticFault) α

/-- The operators, the longer ones first; those that can be joined with an
    assignment are marked. -/
def arithmeticOperators : List (String × Bool) :=
  [("<<", true), (">>", true), ("<=", false), (">=", false), ("==", false), ("!=", false),
   ("&&", false), ("||", false), ("+", true), ("-", true), ("*", true), ("/", true),
   ("%", true), ("&", true), ("|", true), ("^", true), ("<", false), (">", false),
   ("!", false), ("~", false), ("(", false), (")", false), ("?", false), (":", false)]

/-- The token at the start of octets, and what follows it. -/
def arithmeticToken (t : Octets) : ArithmeticToken × Octets :=
  let t := t.dropWhile fun c => c == ' ' || c == '\t' || c == '\n'
  match t with
  | [] => (.finish, [])
  | c :: rest =>
      if isDigit c then
        let (n, rest) := leadingNumber t
        (.number (clamped n), rest)
      else if isNameStart c then
        let name := t.takeWhile isNameInside
        (.name (String.ofList name), t.drop name.length)
      else
        match arithmeticOperators.find? fun (o, _) => o.toList.isPrefixOf t with
        | some (o, joins) =>
            match joins, t.drop o.length with
            | true, '=' :: after => (.assignment o, after)
            | _, after => (.operator o, after)
        | none => if c == '=' then (.assignment "", rest) else (.bad, t)

/-- Takes the next token. -/
def takeArithmetic : Calculate ArithmeticToken := do
  let s ← get
  let (token, rest) := arithmeticToken s.rest
  set { s with rest := rest }
  return token

/-- Notes the token that comes after what has been evaluated. -/
def setLast (token : ArithmeticToken) : Calculate Unit := modify fun s => { s with last := token }

/-- Truth as a number. -/
def truth (b : Bool) : Int := if b then 1 else 0

/-- How tightly binary operators bind, the tightest first. -/
def precedenceOf : String → Option Nat
  | "*" => some 0
  | "/" => some 0
  | "%" => some 0
  | "+" => some 1
  | "-" => some 1
  | "<<" => some 2
  | ">>" => some 2
  | "<" => some 3
  | "<=" => some 3
  | ">" => some 3
  | ">=" => some 3
  | "==" => some 4
  | "!=" => some 4
  | "&" => some 5
  | "^" => some 6
  | "|" => some 7
  | _ => none

/-- The precedence of the binary operator that a token is. -/
def tokenPrecedence : ArithmeticToken → Option Nat
  | .operator o => precedenceOf o
  | _ => none

/-- The value of a binary operation. -/
def applyOperator (operator : String) (a b : Int) : Except ArithmeticFault Int :=
  let factor : Int := (Nat.pow 2 (unsigned b % 64) : Nat)
  match operator with
  | "|" => .ok (wrapped (unsigned a ||| unsigned b : Nat))
  | "^" => .ok (wrapped (Nat.xor (unsigned a) (unsigned b) : Nat))
  | "&" => .ok (wrapped (unsigned a &&& unsigned b : Nat))
  | "==" => .ok (truth (a == b))
  | "!=" => .ok (truth (a != b))
  | "<=" => .ok (truth (a ≤ b))
  | ">=" => .ok (truth (a ≥ b))
  | "<" => .ok (truth (a < b))
  | ">" => .ok (truth (a > b))
  | "<<" => .ok (wrapped (a * factor))
  | ">>" => .ok (Int.fdiv a factor)
  | "+" => .ok (wrapped (a + b))
  | "-" => .ok (wrapped (a - b))
  | "*" => .ok (wrapped (a * b))
  | "/" =>
      if b = 0 then .error .divisionByZero
      else if wrapped (Int.tdiv a b) = Int.tdiv a b then .ok (Int.tdiv a b)
      else .error .overflow
  | _ =>
      if b = 0 then .error .divisionByZero
      else if wrapped (Int.tdiv a b) = Int.tdiv a b then .ok (Int.tmod a b)
      else .error .overflow

/-- The number that a name stands for; a name that is not set is zero. -/
def valueOfName (name : String) : Calculate Int := do
  let s ← get
  match s.assigned.lookup name with
  | some i => return i
  | none =>
      match s.valueOf name with
      | none => return 0
      | some t =>
          match integerOf t.toList with
          | some i => return i
          | none => throw (.noNumber t)

/-- An operation, if it is evaluated. -/
def operate (skips : Bool) (operator : String) (a b : Int) : Calculate Int :=
  if skips then return b
  else
    match applyOperator operator a b with
    | .ok i => return i
    | .error fault => throw fault

mutual

/-- Evaluates an expression that starts with a token, assignments
    included. -/
def evaluate : Nat → Bool → ArithmeticToken → Calculate Int
  | 0, _, _ => throw .noPrimary
  | fuel + 1, skips, token => do
      let after ← takeArithmetic
      match token, after with
      | .name name, .assignment operator => do
          let right ← evaluate fuel skips (← takeArithmetic)
          if skips then return right
          else do
            let value ←
              if operator.isEmpty then pure right
              else operate false operator (← valueOfName name) right
            modify fun s => { s with assigned := (name, value) :: s.assigned }
            return value
      | _, _ => evaluateChoice fuel skips token after

/-- Evaluates a choice between two expressions, or what it would be made
    on. -/
def evaluateChoice : Nat → Bool → ArithmeticToken → ArithmeticToken → Calculate Int
  | 0, _, _, _ => throw .noPrimary
  | fuel + 1, skips, token, after => do
      let a ← evaluateOr fuel skips token after
      if (← get).last != .operator "?" then return a
      else do
        let b ← evaluate fuel (skips || a == 0) (← takeArithmetic)
        if (← get).last != .operator ":" then throw .noColon
        let token ← takeArithmetic
        let c ← evaluateChoice fuel (skips || a != 0) token (← takeArithmetic)
        return if a != 0 then b else c

/-- Evaluates a disjunction. -/
def evaluateOr : Nat → Bool → ArithmeticToken → ArithmeticToken → Calculate Int
  | 0, _, _, _ => throw .noPrimary
  | fuel + 1, skips, token, after => do
      let a ← evaluateAnd fuel skips token after
      if (← get).last != .operator "||" then return a
      else do
        let token ← takeArithmetic
        let b ← evaluateOr fuel (skips || a != 0) token (← takeArithmetic)
        return truth (a != 0 || b != 0)

/-- Evaluates a conjunction. -/
def evaluateAnd : Nat → Bool → ArithmeticToken → ArithmeticToken → Calculate Int
  | 0, _, _, _ => throw .noPrimary
  | fuel + 1, skips, token, after => do
      let a ← evaluatePrimary fuel skips token after
      let a ←
        match tokenPrecedence (← get).last with
        | none => pure a
        | some _ => evaluateOperations fuel skips a (← get).last 8
      if (← get).last != .operator "&&" then return a
      else do
        let token ← takeArithmetic
        let b ← evaluateAnd fuel (skips || a == 0) token (← takeArithmetic)
        return truth (a != 0 && b != 0)

/-- Continues a row of operations that bind tighter than a limit. -/
def evaluateOperations : Nat → Bool → Int → ArithmeticToken → Nat → Calculate Int
  | 0, _, _, _, _ => throw .noPrimary
  | fuel + 1, skips, a, operator, limit => do
      let token ← takeArithmetic
      let b ← evaluatePrimary fuel skips token (← takeArithmetic)
      let here := (tokenPrecedence operator).getD 0
      let following := (← get).last
      let b ←
        match tokenPrecedence following with
        | some p => if p < here then evaluateOperations fuel skips b following here else pure b
        | none => pure b
      let value ←
        match operator with
        | .operator o => operate skips o a b
        | _ => pure b
      let next := (← get).last
      match tokenPrecedence next with
      | some p => if p < limit then evaluateOperations fuel skips value next limit else return value
      | none => return value

/-- Evaluates a number, a name, a sign or a parenthesis; the token after it
    becomes the last one. -/
def evaluatePrimary : Nat → Bool → ArithmeticToken → ArithmeticToken → Calculate Int
  | 0, _, _, _ => throw .noPrimary
  | fuel + 1, skips, token, after =>
      match token with
      | .number i => do
          setLast after
          return i
      | .name name => do
          setLast after
          if skips then return 0 else valueOfName name
      | .operator "(" => do
          let value ← evaluate fuel skips after
          if (← get).last != .operator ")" then throw .noParenthesis
          setLast (← takeArithmetic)
          return value
      | .operator "+" => do evaluatePrimary fuel skips after (← takeArithmetic)
      | .operator "-" => do
          return wrapped (-(← evaluatePrimary fuel skips after (← takeArithmetic)))
      | .operator "!" => do
          return truth ((← evaluatePrimary fuel skips after (← takeArithmetic)) == 0)
      | .operator "~" => do
          return -(← evaluatePrimary fuel skips after (← takeArithmetic)) - 1
      | _ => throw .noPrimary

end

/-- The value of a whole expression and what was assigned, in order. -/
def calculate (valueOf : String → Option String) (source : Octets) :
    Except ArithmeticFault (Int × List (String × Int)) := do
  let piece : Calculate Int := do
    let value ← evaluate (8 * source.length + 20) false (← takeArithmetic)
    if (← get).last = .finish then return value else throw .noEnd
  let (value, after) ← piece.run ⟨source, .finish, valueOf, []⟩
  return (value, after.assigned.reverse)

end HermesBundle.Shell
