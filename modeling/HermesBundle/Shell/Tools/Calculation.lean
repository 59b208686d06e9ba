import HermesBundle.Shell.Regex.Notation
import HermesBundle.Shell.Tools.Passing

/-! # Calculation — expressions whose parts are arguments

    An expression is a sequence of words.  Operators bind in six levels;
    what decides nothing any more is read but not computed.  Numbers have
    no bounds. -/

namespace HermesBundle.Shell.Tool

/-- A value: a number or a text. -/
inductive CalcValue where
  | integer (n : Int)
  | text (t : Octets)

namespace CalcValue

/-- A value as a text. -/
def octets : CalcValue → Octets
  | .integer n => signedDecimal n
  | .text t => t

/-- The number that a text is. -/
def integerOf (t : Octets) : Option Int :=
  match t with
  | '-' :: digits => (decimal? digits).map fun n => -(n : Int)
  | digits => (decimal? digits).map fun n => (n : Int)

/-- A value as a number, if it is one. -/
def integer? : CalcValue → Option Int
  | .integer n => some n
  | .text t => integerOf t

/-- Whether a value counts as nothing. -/
def isNothing (v : CalcValue) : Bool :=
  match v with
  | .integer n => n == 0
  | .text [] => true
  | .text t => integerOf t == some 0

end CalcValue

/-- What is wrong with an expression. -/
inductive CalcFault where
  | missingAfter (word : String)
  | unexpected (word : String)
  | unclosedAfter (word : String)
  | unclosedBefore (word : String)
  | loneClosing
  | notInteger
  | byZero
  | regex (e : RegexFault)

/-- The words of an expression that are left, and the one before them. -/
structure CalcWords where
  before : String
  rest : List String

/-- A part of an expression: its value and the words behind it. -/
abbrev CalcStep := Except CalcFault (CalcValue × CalcWords)

/-- The operators of a level, the weakest first. -/
def calcOperators (level : Nat) : List String :=
  match level with
  | 0 => ["|"]
  | 1 => ["&"]
  | 2 => ["<", "<=", "=", "==", "!=", ">=", ">"]
  | 3 => ["+", "-"]
  | 4 => ["*", "/", "%"]
  | _ => [":"]

/-- What the start of a text matches. -/
def matchedStart (isUtf8 : Bool) (t pattern : Octets) : Except CalcFault CalcValue :=
  match Search.ofOctets .calculation isUtf8 ⟨false, false⟩ pattern with
  | .error e => .error (.regex e)
  | .ok search =>
      let s := Subject.ofOctets isUtf8 t
      match search.matchAt s 0 with
      | none => .ok (if search.groups > 0 then .text [] else .integer 0)
      | some f =>
          if search.groups > 0 then
            match f.groups.lookup 1 with
            | some (i, j) => .ok (.text (s.slice i j))
            | none => .ok (.text [])
          else .ok (.integer (f.finish - f.start : Nat))

/-- The order of two values. -/
def calcOrder (a b : CalcValue) : Ordering :=
  let s := a.octets
  let t := b.octets
  match CalcValue.integerOf s, CalcValue.integerOf t with
  | some m, some n => compare m n
  | _, _ => if s < t then .lt else if t < s then .gt else .eq

/-- The value of an operator. -/
def calcApply (isUtf8 : Bool) (operator : String) (a b : CalcValue) : Except CalcFault CalcValue :=
  let decided := fun (holds : Bool) => Except.ok (CalcValue.integer (if holds then 1 else 0))
  let computed := fun (f : Int → Int → Except CalcFault Int) =>
    match a.integer?, b.integer? with
    | some m, some n => (f m n).map CalcValue.integer
    | _, _ => .error .notInteger
  match operator with
  | "<" => decided (calcOrder a b == .lt)
  | "<=" => decided (calcOrder a b != .gt)
  | "=" => decided (calcOrder a b == .eq)
  | "==" => decided (calcOrder a b == .eq)
  | "!=" => decided (calcOrder a b != .eq)
  | ">=" => decided (calcOrder a b != .lt)
  | ">" => decided (calcOrder a b == .gt)
  | "+" => computed fun m n => .ok (m + n)
  | "-" => computed fun m n => .ok (m - n)
  | "*" => computed fun m n => .ok (m * n)
  | "/" => computed fun m n => if n = 0 then .error .byZero else .ok (Int.tdiv m n)
  | "%" => computed fun m n => if n = 0 then .error .byZero else .ok (Int.tmod m n)
  | _ => matchedStart isUtf8 a.octets b.octets

/-- The characters of a text that a program tells apart. -/
def unitsOf (isUtf8 : Bool) (t : Octets) : List Octets :=
  if isUtf8 then characters t else t.map fun c => [c]

/-- The place of the first character of a text that is among others, from 1
    on; 0 if there is none. -/
def calcIndex (isUtf8 : Bool) (t others : Octets) : Nat :=
  match (unitsOf isUtf8 t).findIdx? fun c => (unitsOf isUtf8 others).contains c with
  | some i => i + 1
  | none => 0

/-- A part of a text. -/
def calcPart (isUtf8 : Bool) (t : Octets) (start count : CalcValue) : Octets :=
  match start.integer?, count.integer? with
  | some i, some n =>
      if i ≤ 0 || n ≤ 0 then []
      else (((unitsOf isUtf8 t).drop (i.toNat - 1)).take n.toNat).flatten
  | _, _ => []

mutual

/-- Reads an expression of a level. -/
def calcLevel (isUtf8 : Bool) : Nat → Nat → Bool → CalcWords → CalcStep
  | 0, _, _, w => .error (.missingAfter w.before)
  | fuel + 1, level, computes, w =>
      if 6 ≤ level then calcCall isUtf8 fuel computes w
      else
        match calcLevel isUtf8 fuel (level + 1) computes w with
        | .error e => .error e
        | .ok (a, w) => calcRest isUtf8 fuel level computes a w

/-- Reads the operators of a level behind a value. -/
def calcRest (isUtf8 : Bool) : Nat → Nat → Bool → CalcValue → CalcWords → CalcStep
  | 0, _, _, a, w => .ok (a, w)
  | fuel + 1, level, computes, a, w =>
      match w.rest with
      | [] => .ok (a, w)
      | operator :: rest =>
          if !(calcOperators level).contains operator then .ok (a, w)
          else
            let needs :=
              if level = 0 then computes && a.isNothing
              else if level = 1 then computes && !a.isNothing
              else computes
            match calcLevel isUtf8 fuel (level + 1) needs ⟨operator, rest⟩ with
            | .error e => .error e
            | .ok (b, w) =>
                let value : Except CalcFault CalcValue :=
                  if level = 0 then
                    .ok (if !a.isNothing then a else if b.isNothing then .integer 0 else b)
                  else if level = 1 then .ok (if a.isNothing || b.isNothing then .integer 0 else a)
                  else if computes then calcApply isUtf8 operator a b
                  else .ok a
                match value with
                | .error e => .error e
                | .ok a => calcRest isUtf8 fuel level computes a w

/-- Reads a function with its arguments, or a single value. -/
def calcCall (isUtf8 : Bool) : Nat → Bool → CalcWords → CalcStep
  | 0, _, w => .error (.missingAfter w.before)
  | fuel + 1, computes, w =>
      let next := calcCall isUtf8 fuel computes
      match w.rest with
      | [] => .error (.missingAfter w.before)
      | "+" :: rest =>
          match rest with
          | [] => .error (.missingAfter "+")
          | word :: rest => .ok (.text word.toList, ⟨word, rest⟩)
      | "length" :: rest => do
          let (a, w) ← next ⟨"length", rest⟩
          .ok (.integer ((unitsOf isUtf8 a.octets).length : Nat), w)
      | "match" :: rest => do
          let (a, w) ← next ⟨"match", rest⟩
          let (b, w) ← next w
          if computes then
            let v ← matchedStart isUtf8 a.octets b.octets
            .ok (v, w)
          else .ok (a, w)
      | "index" :: rest => do
          let (a, w) ← next ⟨"index", rest⟩
          let (b, w) ← next w
          .ok (.integer (calcIndex isUtf8 a.octets b.octets : Nat), w)
      | "substr" :: rest => do
          let (a, w) ← next ⟨"substr", rest⟩
          let (b, w) ← next w
          let (c, w) ← next w
          .ok (.text (calcPart isUtf8 a.octets b c), w)
      | "(" :: rest => do
          let (a, w) ← calcLevel isUtf8 fuel 0 computes ⟨"(", rest⟩
          match w.rest with
          | [] => .error (.unclosedAfter w.before)
          | ")" :: rest => .ok (a, ⟨")", rest⟩)
          | word :: _ => .error (.unclosedBefore word)
      | ")" :: _ => .error .loneClosing
      | word :: rest => .ok (.text word.toList, ⟨word, rest⟩)

end

/-- What is said of a fault. -/
def calcFaultText : CalcFault → Run String
  | .missingAfter word => do return "syntax error: missing argument after " ++ (← Run.inQuotes word)
  | .unexpected word => do return "syntax error: unexpected argument " ++ (← Run.inQuotes word)
  | .unclosedAfter word => do
      return "syntax error: expecting \x27)\x27 after " ++ (← Run.inQuotes word)
  | .unclosedBefore word => do
      return "syntax error: expecting \x27)\x27 instead of " ++ (← Run.inQuotes word)
  | .loneClosing => return "syntax error: unexpected \x27)\x27"
  | .notInteger => return "non-integer argument"
  | .byZero => return "division by zero"
  | .regex e => return e.text

/-- Computes an expression. -/
def expr : Tool := fun arguments => do
  let words := match arguments with
    | "--" :: rest => rest
    | words => words
  let isUtf8 ← Run.isUtf8
  if words.isEmpty then Run.missing 2 "operand"
  else
    match calcLevel isUtf8 (20 * words.length + 40) 0 true ⟨"", words⟩ with
    | .error e => do Run.quit 2 (← calcFaultText e)
    | .ok (v, w) => do
        match w.rest with
        | word :: _ => Run.quit 2 (← calcFaultText (.unexpected word))
        | [] => do
            Run.printLine v.octets
            return if v.isNothing then 1 else 0

end HermesBundle.Shell.Tool
