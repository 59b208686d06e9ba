import HermesBundle.Shell.Regex.Matching

/-! # Notation — how regular expressions are written

    In the basic notation groups, intervals and choices are marked by
    backslashes; in the extended one they stand alone.  Programs differ in
    what they make of operators that have nothing to work on, of intervals
    that are none and of brackets without a partner. -/

namespace HermesBundle.Shell

/-- Why a text is no regular expression. -/
inductive RegexFault where
  | trailingBackslash
  | openSet
  /-- A set that ends before its first member. -/
  | missingSet
  | openGroup
  | openInterval
  | loneClosing
  | wrongInterval
  | wrongRange
  | wrongKind
  | wrongCollation
  | wrongReference
  | loneOperator
  | tooBig
  /-- A set that looks like the name of a kind. -/
  | bareKind
  | missingOperand
  | doubledAnchor
deriving DecidableEq

namespace RegexFault

/-- What is said of a fault. -/
def text : RegexFault → String
  | .trailingBackslash => "Trailing backslash"
  | .openSet => "Unmatched [, [^, [:, [., or [="
  | .missingSet => "Invalid regular expression"
  | .openGroup => "Unmatched ( or \\("
  | .openInterval => "Unmatched \\\x7b"
  | .loneClosing => "Unmatched ) or \\)"
  | .wrongInterval => "Invalid content of \\\x7b\\\x7d"
  | .wrongRange => "Invalid range end"
  | .wrongKind => "Invalid character class name"
  | .wrongCollation => "Invalid collation character"
  | .wrongReference => "Invalid back reference"
  | .loneOperator => "Invalid preceding regular expression"
  | .tooBig => "Regular expression too big"
  | .bareKind => "character class syntax is [[:space:]], not [:space:]"
  | .missingOperand => "missing operand"
  | .doubledAnchor => "syntax error ^* or ^+"

end RegexFault

/-- A way to write regular expressions. -/
structure RegexNotation where
  isExtended : Bool
  /-- Whether operators without an operand are refused. -/
  refusesLoneOperators : Bool
  /-- Whether operators without an operand are passed over. -/
  dropsLoneOperators : Bool
  /-- Whether repetitions of repetitions are refused. -/
  refusesDoubledRepeats : Bool
  /-- Whether what is no interval stands for itself. -/
  keepsWrongIntervals : Bool
  /-- Whether a closing parenthesis without a partner stands for itself. -/
  keepsLoneClosing : Bool
  allowsEmptyRanges : Bool
  /-- Whether operands have to be there, and a backslash escapes in sets. -/
  isStrict : Bool
  refusesBareKinds : Bool

namespace RegexNotation

/-- The basic notation of searches for lines. -/
def basicLines : RegexNotation :=
  ⟨false, false, false, false, false, false, false, false, true⟩

/-- The extended notation of searches for lines. -/
def extendedLines : RegexNotation :=
  ⟨true, false, true, false, true, true, false, false, true⟩

/-- The basic notation of editing. -/
def basicEditing : RegexNotation :=
  ⟨false, false, false, true, false, false, false, false, true⟩

/-- The extended notation of editing. -/
def extendedEditing : RegexNotation :=
  ⟨true, true, false, false, false, false, false, false, true⟩

/-- The notation of patterns in calculations. -/
def calculation : RegexNotation :=
  ⟨false, false, false, false, false, false, true, false, false⟩

/-- The notation of programs that go through records. -/
def recordPrograms : RegexNotation :=
  ⟨true, false, false, false, true, true, false, true, false⟩

end RegexNotation

namespace Regex

/-- The characters of a notation by their numbers. -/
abbrev Codes := List Nat

/-- A sign of a notation. -/
inductive Sign where
  | plain (code : Nat)
  | any
  | set
  | star
  | plus
  | question
  | interval
  | closeInterval
  | openGroup
  | closeGroup
  | bar
  | edge (e : Edge)
  | again (n : Nat)
  | kind (negated : Bool) (holds : Nat → Bool)
  | finish
  | brokenBackslash

/-- A number of a character. -/
def codeFor (c : Char) : Nat := c.toNat

/-- Whether codes go on with a character, marked by a backslash in the
    basic notation. -/
def startsWith (n : RegexNotation) (c : Char) (t : Codes) : Bool :=
  if n.isExtended then t.head? == some (codeFor c)
  else t.take 2 == [codeFor '\\', codeFor c]

/-- The sign at the start of codes and what follows it.  `caretHere` says
    that a line could start here. -/
def nextSign (n : RegexNotation) (caretHere : Bool) (t : Codes) : Sign × Codes :=
  match t with
  | [] => (.finish, [])
  | 0x5C :: [] => (if n.isStrict then .plain 0x5C else .brokenBackslash, [])
  | 0x5C :: c :: rest =>
      let sign : Sign :=
        if !n.isExtended && c == codeFor '(' then .openGroup
        else if !n.isExtended && c == codeFor ')' then .closeGroup
        else if !n.isExtended && c == 0x7B then .interval
        else if !n.isExtended && c == 0x7D then .closeInterval
        else if !n.isExtended && c == codeFor '|' then .bar
        else if !n.isExtended && c == codeFor '+' then .plus
        else if !n.isExtended && c == codeFor '?' then .question
        else if n.isStrict then .plain c
        else if codeFor '1' ≤ c && c ≤ codeFor '9' then .again (c - codeFor '0')
        else if c == codeFor '<' then .edge .wordStart
        else if c == codeFor '>' then .edge .wordEnd
        else if c == codeFor 'b' then .edge .wordEdge
        else if c == codeFor 'B' then .edge .wordInside
        else if c == 0x60 then .edge .textStart
        else if c == 0x27 then .edge .textEnd
        else if c == codeFor 'w' then .kind false isWordCode
        else if c == codeFor 'W' then .kind true isWordCode
        else if c == codeFor 's' then .kind false ((codeKind "space").getD fun _ => false)
        else if c == codeFor 'S' then .kind true ((codeKind "space").getD fun _ => false)
        else .plain c
      (sign, rest)
  | c :: rest =>
      let sign : Sign :=
        if c == codeFor '.' then .any
        else if c == codeFor '[' then .set
        else if c == codeFor '*' then .star
        else if n.isExtended && c == codeFor '+' then .plus
        else if n.isExtended && c == codeFor '?' then .question
        else if n.isExtended && c == 0x7B then .interval
        else if n.isExtended && c == 0x7D then .closeInterval
        else if n.isExtended && c == codeFor '(' then .openGroup
        else if n.isExtended && c == codeFor ')' then .closeGroup
        else if n.isExtended && c == codeFor '|' then .bar
        else if c == 0x5E then if n.isExtended || caretHere then .edge .lineStart else .plain c
        else if c == codeFor '$' then
          if n.isExtended || rest.isEmpty || startsWith n ')' rest || startsWith n '|' rest then
            .edge .lineEnd
          else .plain c
        else .plain c
      (sign, rest)

/-! ## Sets -/

/-- The text up to a mark and a closing bracket, and what follows. -/
def upToMark (mark : Nat) : Codes → Codes → Option (Codes × Codes)
  | found, c :: 0x5D :: rest =>
      if c == mark then some (found.reverse, rest) else upToMark mark (c :: found) (0x5D :: rest)
  | found, c :: rest => upToMark mark (c :: found) rest
  | _, [] => none

/-- A member of a set: a character or a kind of characters. -/
inductive SetItem where
  | code (c : Nat)
  | kind (holds : Nat → Bool)

/-- The member at the start of codes and what follows it. -/
def setItem (n : RegexNotation) (t : Codes) : Except RegexFault (SetItem × Codes) :=
  match t with
  | [] => .error .openSet
  | 0x5B :: mark :: rest =>
      if mark == codeFor ':' then
        match upToMark mark [] rest with
        | none => .error .openSet
        | some (name, after) =>
            match codeKind (String.ofList (name.map Char.ofNat)) with
            | some holds => .ok (.kind holds, after)
            | none => .error (if n.isStrict then .openSet else .wrongKind)
      else if (mark == codeFor '=' || mark == codeFor '.') && !n.isStrict then
        match upToMark mark [] rest with
        | none => .error .openSet
        | some ([c], after) => .ok (.code c, after)
        | some _ => .error .wrongCollation
      else .ok (.code 0x5B, mark :: rest)
  | 0x5C :: c :: rest =>
      if n.isStrict then .ok (.code c, rest) else .ok (.code 0x5C, c :: rest)
  | c :: rest => .ok (.code c, rest)

/-- The members of a set up to its closing bracket, and what follows.
    `isFirst` says that a bracket here belongs to the set. -/
def setParts (n : RegexNotation) : Nat → Bool → Codes → List SetPart →
    Except RegexFault (List SetPart × Codes)
  | 0, _, _, _ => .error .openSet
  | fuel + 1, isFirst, t, found =>
      match t with
      | [] => .error (if isFirst then .missingSet else .openSet)
      | 0x5D :: rest =>
          if isFirst then partFrom fuel t found else .ok (found.reverse, rest)
      | _ => partFrom fuel t found
where
  /-- The end of a range. -/
  rangeEnd (t : Codes) : Except RegexFault (SetItem × Codes) :=
    match t with
    | 0x5B :: rest => if n.isStrict then .ok (.code 0x5B, rest) else setItem n t
    | t => setItem n t
  /-- One member or range, and the others. -/
  partFrom (fuel : Nat) (t : Codes) (found : List SetPart) :
      Except RegexFault (List SetPart × Codes) :=
    match setItem n t with
    | .error e => .error e
    | .ok (item, rest) =>
        match rest with
        | 0x2D :: 0x5D :: _ =>
            setParts n fuel false rest ((match item with
              | .code c => .range c c
              | .kind holds => .kind holds) :: found)
        | 0x2D :: after =>
            match item, rangeEnd after with
            | _, .error e => .error e
            | .code low, .ok (.code high, rest) =>
                if high < low && n.isStrict then
                  -- What would be an empty range are two ends and what is between.
                  setParts n fuel false after (.range 0x2D 0x2D :: .range low low :: found)
                else if high < low && !n.allowsEmptyRanges then .error .wrongRange
                else setParts n fuel false rest (.range low high :: found)
            | .kind holds, .ok _ =>
                if n.isStrict then
                  setParts n fuel false after (.range 0x2D 0x2D :: .kind holds :: found)
                else .error .wrongRange
            | _, .ok _ => .error .wrongRange
        | _ =>
            setParts n fuel false rest ((match item with
              | .code c => .range c c
              | .kind holds => .kind holds) :: found)

/-- Whether a set looks like the name of a kind: it starts and ends with a
    colon and has no ranges or kinds. -/
def looksLikeKind (t : Codes) : Bool :=
  let body := t.takeWhile (· != 0x5D)
  body.length > 2 && body.head? == some (codeFor ':') && body.getLast? == some (codeFor ':')
    && !body.contains 0x5B && !body.contains 0x2D && (t.drop body.length).head? == some 0x5D

/-- The set after its opening bracket, and what follows it. -/
def readSet (n : RegexNotation) (t : Codes) : Except RegexFault (Regex × Codes) :=
  let negated := t.head? == some 0x5E
  let body := if negated then t.drop 1 else t
  if n.refusesBareKinds && looksLikeKind body then .error .bareKind
  else
    match setParts n (body.length + 2) true body [] with
    | .error e => .error e
    | .ok (parts, rest) => .ok (.set negated parts, rest)

/-! ## Intervals -/

/-- The greatest number of repetitions. -/
def repeatLimit : Nat := 32767

/-- What comes of reading an interval. -/
inductive IntervalReading where
  | interval (least : Nat) (most : Option Nat) (rest : Codes)
  | fault (e : RegexFault)
  /-- It is none, but may stand for itself. -/
  | none (e : RegexFault)

/-- The interval after its opening brace. -/
def readInterval (n : RegexNotation) (t : Codes) : IntervalReading :=
  let isDigitCode := fun (c : Nat) => codeFor '0' ≤ c && c ≤ codeFor '9'
  let value := fun (ds : Codes) => ds.foldl (fun v d => min 100000 (v * 10 + (d - codeFor '0'))) 0
  let closes := fun (t : Codes) =>
    if n.isExtended then if t.head? == some 0x7D then some (t.drop 1) else Option.none
    else if t.take 2 == [0x5C, 0x7D] then some (t.drop 2) else Option.none
  let wrong := fun (rest : Codes) =>
    -- An interval that is never closed is told from one with other content.
    let body := if n.isExtended then rest.contains 0x7D
      else (rest.zip (rest.drop 1)).contains (0x5C, 0x7D)
    if rest.isEmpty || (!body && !n.isExtended) || (!body && n.isExtended && rest.all fun c => isDigitCode c || c == 0x2C)
      then IntervalReading.none .openInterval else IntervalReading.none .wrongInterval
  let first := t.takeWhile isDigitCode
  let rest := t.drop first.length
  let checked := fun (least : Nat) (most : Option Nat) (rest : Codes) =>
    if most.any fun m => m < least then IntervalReading.fault .wrongInterval
    else if repeatLimit < (most.getD least) && !n.isStrict then IntervalReading.fault .tooBig
    else IntervalReading.interval least most rest
  match closes rest with
  | some after =>
      if first.isEmpty then .none .wrongInterval
      else checked (value first) (some (value first)) after
  | Option.none =>
      match rest with
      | 0x2C :: more =>
          let second := more.takeWhile isDigitCode
          let rest := more.drop second.length
          match closes rest with
          | some after => checked (value first) (if second.isEmpty then Option.none else some (value second)) after
          | Option.none => wrong rest
      | _ => wrong rest

/-! ## Expressions -/

/-- How far a notation has been read. -/
structure Reading where
  rest : Codes
  /-- How many groups have been opened, and which ones have been closed. -/
  opened : Nat
  closed : List Nat
  /-- What is said of the notation without refusing it. -/
  remarks : List String

/-- The text of an operator in a remark. -/
def operatorText : Sign → String
  | .star => "*"
  | .plus => "+"
  | .question => "?"
  | _ => "\x7b...\x7d"

/-- The repetition that a sign stands for after an operand; none if it is no
    repetition. -/
def repetition (n : RegexNotation) (sign : Sign) (rest : Codes) :
    Option (IntervalReading) :=
  match sign with
  | .star => some (.interval 0 none rest)
  | .plus => some (.interval 1 none rest)
  | .question => some (.interval 0 (some 1) rest)
  | .interval => some (readInterval n rest)
  | _ => none

/-- Reads the repetitions after an operand. -/
def readRepeats (n : RegexNotation) : Nat → Bool → Regex → Reading → Except RegexFault (Regex × Reading)
  | 0, _, r, s => .ok (r, s)
  | fuel + 1, isRepeated, r, s =>
      let (sign, after) := nextSign n false s.rest
      match repetition n sign after with
      | none => .ok (r, s)
      | some reading =>
          let isDoubled := isRepeated && n.refusesDoubledRepeats &&
            match sign with
            | .star => true
            | .interval => true
            | _ => false
          if isDoubled then .error .loneOperator
          else
            match reading with
            | .interval least most rest =>
                readRepeats n fuel true (.repeated r least most) { s with rest := rest }
            | .fault e => .error e
            | .none e => if n.keepsWrongIntervals then .ok (r, s) else .error e

mutual

/-- Reads choices up to the end or the end of a group. -/
def readEither (n : RegexNotation) : Nat → Nat → Reading → Except RegexFault (Regex × Reading)
  | 0, _, _ => .error .tooBig
  | fuel + 1, depth, s => do
      let (r, s) ← readRow n fuel depth true none s
      let (sign, rest) := nextSign n true s.rest
      match sign with
      | .bar => do
          if n.isStrict && r.isNone then throw .missingOperand
          let (other, s) ← readEither n fuel depth { s with rest := rest }
          return (.either (r.getD .empty) other, s)
      | sign =>
          if n.isStrict && r.isNone then
            match sign with
            | .finish => throw (if 0 < depth then .openGroup else .missingOperand)
            | _ => throw .missingOperand
          return (r.getD .empty, s)

/-- Reads expressions in a row. -/
def readRow (n : RegexNotation) : Nat → Nat → Bool → Option Regex → Reading →
    Except RegexFault (Option Regex × Reading)
  | 0, _, _, _, _ => .error .tooBig
  | fuel + 1, depth, isFirst, found, s => do
      let (sign, rest) := nextSign n isFirst s.rest
      match sign with
      | .finish => return (found, s)
      | .bar => return (found, s)
      | .closeGroup =>
          if depth > 0 then return (found, s)
          else if n.keepsLoneClosing then do
            let (r, s) ← readRepeats n fuel false (.char (codeFor ')')) { s with rest := rest }
            readRow n fuel depth false (some (match found with
              | some f => .seq f r
              | none => r)) s
          else throw .loneClosing
      | sign => do
          let (r, s, wasEdge) ← readOne n fuel depth sign rest isFirst s
          let joined := match found, r with
            | some f, some r => some (Regex.seq f r)
            | none, r => r
            | f, none => f
          let (next, _) := nextSign n false s.rest
          -- After an edge, operators have nothing to work on.
          match wasEdge, n.isStrict, next with
          | true, true, .star => throw .doubledAnchor
          | true, true, .plus => throw .doubledAnchor
          | _, _, _ => readRow n fuel depth (wasEdge || r.isNone) joined s

/-- Reads one expression with its repetitions; the sign it starts with has
    been read.  The result tells whether it was an edge. -/
def readOne (n : RegexNotation) : Nat → Nat → Sign → Codes → Bool → Reading →
    Except RegexFault (Option Regex × Reading × Bool)
  | 0, _, _, _, _, _ => .error .tooBig
  | fuel + 1, depth, sign, rest, isFirst, s =>
      let after := { s with rest := rest }
      let repeated := fun (r : Regex) (s : Reading) => do
        let (r, s) ← readRepeats n fuel false r s
        return (some r, s, false)
      let lone := fun (text : Nat) =>
        if n.isStrict && isFirst then
          match sign with
          | .interval => repeated (.char text) after
          | _ => .error .missingOperand
        else if n.refusesLoneOperators then .error .loneOperator
        else if n.dropsLoneOperators then
          -- The operator is passed over.
          let skipped :=
            match repetition n sign rest with
            | some (.interval _ _ r) => r
            | _ => rest
          .ok (none, { after with rest := skipped, remarks := s.remarks ++ [operatorText sign ++ " at start of expression"] }, false)
        else repeated (.char text) after
      match sign with
      | .plain c => repeated (.char c) after
      | .any => repeated .any after
      | .kind negated holds => repeated (.set negated [.kind holds]) after
      | .set => do
          let (r, rest) ← readSet n rest
          repeated r { s with rest := rest }
      | .edge e => .ok (some (.edge e), after, true)
      | .again k =>
          if s.closed.contains k then repeated (.again k) after else .error .wrongReference
      | .openGroup => do
          let number := s.opened + 1
          let (inner, s) ← readEither n fuel (depth + 1) { after with opened := number }
          let (close, rest) := nextSign n false s.rest
          match close with
          | .closeGroup =>
              repeated (.group number inner) { s with rest := rest, closed := number :: s.closed }
          | _ => .error .openGroup
      | .star => lone (codeFor '*')
      | .plus => lone (codeFor '+')
      | .question => lone (codeFor '?')
      | .interval =>
          if n.refusesDoubledRepeats then .error .loneOperator
          else
            match readInterval n rest with
            | .interval _ _ _ => lone 0x7B
            | _ =>
                if n.refusesLoneOperators then .error .loneOperator else repeated (.char 0x7B) after
      | .closeInterval => repeated (.char 0x7D) after
      | .brokenBackslash => .error .trailingBackslash
      | _ => .ok (none, after, false)

end

/-- The regular expression that codes spell, and remarks about it. -/
def ofCodes (n : RegexNotation) (t : Codes) : Except RegexFault (Regex × List String) :=
  match readEither n (4 * t.length + 10) 0 ⟨t, 0, [], []⟩ with
  | .error e => .error e
  | .ok (r, s) => .ok (r, s.remarks)

end Regex

namespace Search

/-- The search for an expression in a notation, and remarks about it. -/
def ofOctetsWith (n : RegexNotation) (isUtf8 : Bool) (mode : SearchMode) (t : Octets) :
    Except RegexFault (Search × List String) :=
  match Regex.ofCodes n (Subject.ofOctets isUtf8 t).codes.toList with
  | .error e => .error e
  | .ok (r, remarks) => .ok (⟨r, mode, r.groups⟩, remarks)

/-- The search for an expression in a notation. -/
def ofOctets (n : RegexNotation) (isUtf8 : Bool) (mode : SearchMode) (t : Octets) :
    Except RegexFault Search :=
  (ofOctetsWith n isUtf8 mode t).map (·.1)

end Search

end HermesBundle.Shell
