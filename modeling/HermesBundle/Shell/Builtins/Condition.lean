import HermesBundle.Shell.Builtins.Arguments
import HermesBundle.Shell.Disk

/-! # Conditions — tests of texts, numbers and files

    A condition is a row of words.  Some words are operators, unless their
    neighbours show that they stand for themselves.  Words are read from
    the left, one at a time; the current word is the first of those that
    are left. -/

namespace HermesBundle.Shell.Builtin

/-- A word of a condition. -/
inductive ConditionToken where
  | finish
  | operand
  | unary (operator : Char)
  | binary (operator : String)
  | negation
  | conjunction
  | disjunction
  | opening
  | closing
deriving DecidableEq

/-- The letters of the tests of one operand. -/
def unaryLetters : Octets := "rwxefdcbpugkstznhOGLS".toList

/-- The tests of two operands. -/
def binaryOperators : List String :=
  ["=", "!=", "<", ">", "-eq", "-ne", "-ge", "-gt", "-le", "-lt", "-nt", "-ot", "-ef"]

/-- What a word means where its neighbours allow that. -/
def operatorMeaning (word : String) : Option ConditionToken :=
  if word == "!" then some .negation
  else if word == "-a" then some .conjunction
  else if word == "-o" then some .disjunction
  else if word == "(" then some .opening
  else if word == ")" then some .closing
  else if binaryOperators.contains word then some (.binary word)
  else
    match word.toList with
    | ['-', letter] => if unaryLetters.contains letter then some (.unary letter) else none
    | _ => none

/-- Whether a word is a test of two operands. -/
def isBinary (word : String) : Bool := binaryOperators.contains word

/-- What the first of some words means. -/
def conditionToken (words : List String) : ConditionToken :=
  match words with
  | [] => .finish
  | word :: rest =>
      match operatorMeaning word with
      | none => .operand
      | some (.unary letter) =>
          match rest with
          | [] => .operand
          | [_] => .unary letter
          | next :: _ :: _ => if isBinary next then .operand else .unary letter
      | some .opening => if rest.isEmpty then .operand else .opening
      | some token => token

/-- A condition is refused. -/
def refuseCondition {α : Type} (operator reason : String) : Run α :=
  Run.fail (if operator.isEmpty then reason else operator ++ ": " ++ reason)

/-- Whether a file passes a test. -/
def testFile (letter : Char) (path : String) : Run Bool := do
  match ← Run.status (letter != 'h' && letter != 'L') path with
  | .error _ => return false
  | .ok f =>
      return match letter with
      | 'f' => f.kind == .regular
      | 'd' => f.kind == .directory
      | 'c' => f.kind == .device
      | 'p' => f.kind == .pipe
      | 'b' => false
      | 'S' => false
      | 'u' => f.mode &&& 0o4000 != 0
      | 'g' => f.mode &&& 0o2000 != 0
      | 'k' => f.mode &&& 0o1000 != 0
      | 's' => f.size != 0
      | 'x' => f.kind == .directory || mayExecute f.mode
      | 'h' => isLink f.kind
      | 'L' => isLink f.kind
      | _ => true
where
  /-- Whether a file is a symbolic link. -/
  isLink : FileKind → Bool
    | .link _ => true
    | _ => false

/-- Whether a text or a file passes a test of one operand. -/
def testUnary (letter : Char) (operand : String) : Run Bool := do
  match letter with
  | 'z' => return operand.isEmpty
  | 'n' => return !operand.isEmpty
  | 't' => do
      let _ ← integerArgumentOf operand
      return false
  | _ => testFile letter operand

/-- Whether two files pass a test, given what is known of them. -/
def compareFiles (a b : String) (holds : FileStatus → FileStatus → Bool) : Run Bool := do
  match ← Run.status true a, ← Run.status true b with
  | .ok x, .ok y => return holds x y
  | _, _ => return false

/-- Whether two names belong to one file. -/
def isSameFile (x y : FileStatus) : Bool :=
  x.location == y.location || (x.node.isSome && x.node == y.node)

/-- Whether two operands pass a test. -/
def testBinary (operator a b : String) : Run Bool := do
  let numbers := fun holds : Int → Int → Bool => do
    let x ← integerArgumentOf a
    let y ← integerArgumentOf b
    return holds x y
  match operator with
  | "=" => return a == b
  | "!=" => return a != b
  | "<" => return precedes a.toList b.toList
  | ">" => return precedes b.toList a.toList
  | "-eq" => numbers fun x y => x == y
  | "-ne" => numbers fun x y => x != y
  | "-ge" => numbers fun x y => x ≥ y
  | "-gt" => numbers fun x y => x > y
  | "-le" => numbers fun x y => x ≤ y
  | "-lt" => numbers fun x y => x < y
  | "-nt" => compareFiles a b fun x y => y.modified < x.modified
  | "-ot" => compareFiles a b fun x y => x.modified < y.modified
  | _ => compareFiles a b isSameFile

mutual

/-- A row of alternatives; the words that are left start with the last one
    that was used. -/
def testAlternatives : Nat → ConditionToken → List String → Bool → Run (Bool × List String)
  | 0, _, words, found => return (found, words)
  | fuel + 1, token, words, found => do
      let (holds, words) ← testConjunction fuel token words true
      let found := found || holds
      if conditionToken (words.drop 1) = .disjunction then
        testAlternatives fuel (conditionToken (words.drop 2)) (words.drop 2) found
      else return (found, words)

/-- A row of conditions that are all to hold. -/
def testConjunction : Nat → ConditionToken → List String → Bool → Run (Bool × List String)
  | 0, _, words, found => return (found, words)
  | fuel + 1, token, words, found => do
      let (holds, words) ← testNegation fuel token words
      let found := found && holds
      if conditionToken (words.drop 1) = .conjunction then
        testConjunction fuel (conditionToken (words.drop 2)) (words.drop 2) found
      else return (found, words)

/-- A condition that may be negated. -/
def testNegation : Nat → ConditionToken → List String → Run (Bool × List String)
  | 0, _, words => return (false, words)
  | fuel + 1, token, words => do
      if token = .negation then
        let next := conditionToken (words.drop 1)
        let (holds, words) ←
          testNegation fuel next (if next = .finish then words else words.drop 1)
        return (!holds, words)
      else testPrimary fuel token words

/-- A single condition. -/
def testPrimary : Nat → ConditionToken → List String → Run (Bool × List String)
  | 0, _, words => return (false, words)
  | fuel + 1, token, words => do
      match token with
      | .finish => return (false, words)
      | .opening => do
          let inner := words.drop 1
          let token := conditionToken inner
          if token = .closing then return (false, inner)
          else do
            let (holds, words) ← testAlternatives fuel token inner false
            let words := words.drop 1
            if conditionToken words = .closing then return (holds, words)
            else refuseCondition "" "closing paren expected"
      | .unary letter =>
          match words.drop 1 with
          | [] => refuseCondition (String.ofList ['-', letter]) "argument expected"
          | operand :: rest => do
              let holds ← testUnary letter operand
              return (holds, operand :: rest)
      | _ =>
          match conditionToken (words.drop 1) with
          | .binary operator =>
              match words with
              | a :: _ :: b :: rest => do
                  let holds ← testBinary operator a b
                  return (holds, b :: rest)
              | _ => refuseCondition operator "argument expected"
          | _ => return (!(words.headD "").isEmpty, words)

end

/-- Evaluates a condition, of which up to four words are read in fixed
    ways. -/
def evaluateCondition : Nat → Bool → List String → Run Bool
  | 0, negated, _ => return negated
  | fuel + 1, negated, words => do
      let whole := fun (token : ConditionToken) (words : List String) => do
        let (holds, rest) ← testAlternatives (4 * words.length + 8) token words false
        match rest with
        | word :: _ :: _ => refuseCondition word "unexpected operator"
        | _ => return holds != negated
      let enclosed := words.head? == some "(" && words.getLast? == some ")"
      match words with
      | [] => return negated
      | [_, operator, _] =>
          if isBinary operator then whole .operand words
          else if enclosed then whole (conditionToken (words.drop 1).dropLast) (words.drop 1).dropLast
          else if words.head? == some "!" then evaluateCondition fuel true (words.drop 1)
          else whole (conditionToken words) words
      | [_, _, _, _] =>
          if enclosed then whole (conditionToken (words.drop 1).dropLast) (words.drop 1).dropLast
          else if words.head? == some "!" then evaluateCondition fuel true (words.drop 1)
          else whole (conditionToken words) words
      | _ => whole (conditionToken words) words

/-- Tests a condition, which may have to be closed by a bracket. -/
def test (isBracket : Bool) : Builtin := fun arguments => do
  if isBracket && arguments.getLast? != some "]" then Run.fail "missing ]"
  else
    let words := if isBracket then arguments.dropLast else arguments
    let holds ← evaluateCondition 8 false words
    return if holds then 0 else 1

end HermesBundle.Shell.Builtin
