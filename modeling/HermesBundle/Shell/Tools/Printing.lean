import HermesBundle.Shell.Builtins.Condition
import HermesBundle.Shell.Format
import HermesBundle.Shell.Tools.Invocation

/-! # Printing and testing — small programs that shells have as well

    They do what the builtins of the same names do, but know other escapes
    and complain in their own words. -/

namespace HermesBundle.Shell.Tool

/-! ## Printing -/

/-- What the options in front of the arguments of a program that writes them
    say: whether the line is ended and whether escapes are read.  An argument
    with other letters is no option. -/
def takeEchoOptions : List String → Bool → Bool → Bool × Bool × List String
  | [], endsLine, escapes => (endsLine, escapes, [])
  | argument :: rest, endsLine, escapes =>
      match argument.toList with
      | '-' :: c :: letters =>
          let all := c :: letters
          if all.all fun l => "neE".toList.contains l then
            let escapes := all.foldl
              (fun e l => if l == 'e' then true else if l == 'E' then false else e) escapes
            takeEchoOptions rest (endsLine && !all.contains 'n') escapes
          else (endsLine, escapes, argument :: rest)
      | _ => (endsLine, escapes, argument :: rest)

/-- Writes its arguments. -/
def echo : Tool := fun arguments => do
  let (endsLine, escapes, operands) := takeEchoOptions arguments true false
  let mut isFirst := true
  for operand in operands do
    if !isFirst then Run.print [' ']
    isFirst := false
    if escapes then
      let u := unescaped .systemEcho operand.toList
      Run.print u.text
      if u.stops then return 0
    else Run.print operand.toList
  if endsLine then Run.print ['\n']
  return 0

/-- The formats of the system. -/
def systemFormatter (isUtf8 : Bool) : Formatter where
  isShell := false
  form := .extended
  warn argument conversion := do
    let shown ← Run.inQuotes (String.ofList argument)
    Run.objection (shown ++ ": " ++ match conversion with
      | .nothing => "expected a numeric value"
      | .partly => "value not completely converted"
      | .outOfRange => "Numerical result out of range"
      | .whole => "")
  refuse t := Run.objection t
  quote := some fun t => if needsQuotes isUtf8 t then shellQuoted isUtf8 t else t

/-- Writes its arguments through a format. -/
def printf : Tool := fun arguments => do
  let operands := if arguments.head? == some "--" then arguments.drop 1 else arguments
  match operands with
  | [] => Run.missing 1 "operand"
  | format :: rest => do
      let f := systemFormatter (← Run.isUtf8)
      let filling ← fillAll f format.toList (rest.length + 2) ⟨rest, 0, false⟩
      match filling.stops, filling.arguments with
      | false, first :: _ =>
          Run.objection ("warning: ignoring excess arguments, starting with " ++ (← Run.inQuotes first))
      | _, _ => pure ()
      return filling.status

/-! ## Testing -/

/-- The tests of two operands. -/
def comparisons : List String :=
  ["=", "==", "!=", "-nt", "-ot", "-ef", "-eq", "-ne", "-lt", "-le", "-gt", "-ge"]

/-- Whether a word compares two operands. -/
def isComparison (words : List String) : Bool := comparisons.contains (words.headD "")

/-- A condition is refused. -/
def refuseTest {α : Type} (t : String) : Run α := Run.quit 2 t

/-- A condition ends too early; the last word is named. -/
def refuseEnd {α : Type} (last : String) : Run α := do
  refuseTest ("missing argument after " ++ (← Run.inQuotes last))

/-- The number that a word of a condition is. -/
def testedNumber (t : String) : Run Int := do
  match integer? (trimmed t.toList) with
  | some n => return n
  | none => refuseTest ("invalid integer " ++ (← Run.inQuotes t))

/-- Compares two operands. -/
def compareOperands (operator a b : String) : Run Bool := do
  let numbers := fun holds : Int → Int → Bool => do
    let x ← testedNumber a
    let y ← testedNumber b
    return holds x y
  match operator with
  | "==" => return a == b
  | "-eq" => numbers fun x y => x == y
  | "-ne" => numbers fun x y => x != y
  | "-ge" => numbers fun x y => x ≥ y
  | "-gt" => numbers fun x y => x > y
  | "-le" => numbers fun x y => x ≤ y
  | "-lt" => numbers fun x y => x < y
  | _ => Builtin.testBinary operator a b

/-- A test of one operand, and the words after it. -/
def testOperand (last operator : String) (rest : List String) : Run (Bool × List String) := do
  match operator.toList with
  | ['-', letter] =>
      if "efrwxNOGdsScbpLhugktnz".toList.contains letter then
        match rest with
        | [] => refuseEnd last
        | operand :: rest => do
            let holds ←
              if letter == 't' then do
                let _ ← testedNumber operand
                pure false
              else if letter == 'N' then pure false
              else Builtin.testUnary letter operand
            return (holds, rest)
      else refuseTest ((← Run.inQuotes operator) ++ ": unary operator expected")
  | _ => return (!operator.isEmpty, rest)

mutual

/-- Reads a condition of a known number of words in the way that its number
    asks for; the words after it are returned. -/
def testWords : Nat → String → Nat → List String → Run (Bool × List String)
  | 0, _, _, words => return (false, words)
  | fuel + 1, last, count, words =>
      match count, words with
      | 1, word :: rest => return (!word.isEmpty, rest)
      | 2, a :: b :: rest =>
          if a == "!" then return (b.isEmpty, rest)
          else
            match a.toList with
            | ['-', _] => testOperand last a (b :: rest)
            | _ => refuseEnd last
      | 3, a :: b :: c :: rest => do
          if comparisons.contains b then return (← compareOperands b a c, rest)
          else if a == "!" then
            let (holds, rest) ← testWords fuel last 2 (b :: c :: rest)
            return (!holds, rest)
          else if a == "(" && c == ")" then return (!b.isEmpty, rest)
          else if b == "-a" || b == "-o" then testAny fuel last words false
          else refuseTest ((← Run.inQuotes b) ++ ": binary operator expected")
      | 4, a :: b :: c :: d :: rest => do
          if a == "!" then
            let (holds, rest) ← testWords fuel last 3 (b :: c :: d :: rest)
            return (!holds, rest)
          else if a == "(" && d == ")" then
            let (holds, rest) ← testWords fuel last 2 (b :: c :: d :: rest)
            return (holds, rest.drop 1)
          else testAny fuel last words false
      | _, words => testAny fuel last words false

/-- Alternatives. -/
def testAny : Nat → String → List String → Bool → Run (Bool × List String)
  | 0, _, words, found => return (found, words)
  | fuel + 1, last, words, found => do
      let (holds, rest) ← testAll fuel last words true
      match rest with
      | "-o" :: rest => testAny fuel last rest (found || holds)
      | _ => return (found || holds, rest)

/-- Conditions that are all to hold. -/
def testAll : Nat → String → List String → Bool → Run (Bool × List String)
  | 0, _, words, found => return (found, words)
  | fuel + 1, last, words, found => do
      let (holds, rest) ← testOne fuel last words false
      match rest with
      | "-a" :: rest => testAll fuel last rest (found && holds)
      | _ => return (found && holds, rest)

/-- A single condition, which may be negated. -/
def testOne : Nat → String → List String → Bool → Run (Bool × List String)
  | 0, _, words, negated => return (negated, words)
  | fuel + 1, last, words, negated => do
      match words with
      | [] => refuseEnd last
      | "!" :: rest =>
          if rest.isEmpty then refuseEnd last else testOne fuel last rest (!negated)
      | "(" :: inner => do
          if inner.isEmpty then refuseEnd last
          let before := ((inner.drop 1).takeWhile (· != ")")).length + 1
          let count := if before ≥ 4 || before ≥ inner.length then inner.length else before
          let (holds, rest) ← testWords fuel last count inner
          match rest with
          | ")" :: rest => return (holds != negated, rest)
          | [] => refuseTest ((← Run.inQuotes ")") ++ " expected")
          | word :: _ =>
              refuseTest ((← Run.inQuotes ")") ++ " expected, found " ++ (← Run.inQuotes word))
      | word :: rest => do
          if words.length ≥ 3 && isComparison rest then
            let holds ← compareOperands (rest.headD "") word ((rest.drop 1).headD "")
            return (holds != negated, rest.drop 2)
          else
            match word.toList with
            | ['-', _] => do
                let (holds, rest) ← testOperand last word rest
                return (holds != negated, rest)
            | _ => return (!word.isEmpty != negated, rest)

end

/-- Tests a condition. -/
def test : Tool := fun arguments => do
  match arguments with
  | [] => return 1
  | _ => do
      let last := arguments.getLast?.getD ""
      let (holds, rest) ←
        testWords (4 * arguments.length + 8) last arguments.length arguments
      match rest with
      | [] => return if holds then 0 else 1
      | word :: _ => refuseTest ("extra argument " ++ (← Run.inQuotes word))

/-- Tests a condition that is closed by a bracket. -/
def bracket : Tool := fun arguments => do
  if arguments.getLast? == some "]" then test arguments.dropLast
  else refuseTest ("missing " ++ (← Run.inQuotes "]"))

end HermesBundle.Shell.Tool
