import HermesBundle.Shell.Records.Program

/-! # Tokens — the words of a program for records

    The text of a program is a row of tokens.  A slash divides where a
    value has just ended and begins a regular expression elsewhere.  Ends
    of lines are tokens, except where more has to follow, and before a
    closing brace there is always something that ends a statement. -/

namespace HermesBundle.Shell.Records

/-- A token of a program. -/
inductive Token where
  | number (x : Float) (source : Octets)
  | text (t : Octets)
  | regex (source : Octets)
  | name (name : String)
  | function (name : String)
  | builtin (b : Builtin) (name : String)
  | keyword (name : String)
  /-- An operator or a bracket. -/
  | sign (text : String)
  | newline
  | semicolon
  /-- The end of a statement before a brace. -/
  | impliedEnd
  | finish
  /-- An octet that no token starts with. -/
  | unexpected (c : Char)
  /-- A token that does not end, with what is said of it. -/
  | wrong (complaint : String)

namespace Token

/-- How a token is named in complaints. -/
def shown : Token → String
  | .number _ s => String.ofList s
  | .text s => String.ofList s
  | .regex s => "/" ++ String.ofList s ++ "/"
  | .name n => n
  | .function n => n
  | .builtin _ n => n
  | .keyword n => n
  | .sign s => if s == ">>" then ">" else s
  | .newline => "end of line"
  | .semicolon => ";"
  | .impliedEnd => "\x7d"
  | .finish => "end of file"
  | .unexpected c => String.singleton c
  | .wrong c => c

/-- Whether a token is some sign. -/
def isSign (t : Token) (word : String) : Bool :=
  match t with
  | .sign s => s == word
  | _ => false

/-- Whether a token is some keyword. -/
def isKeyword (t : Token) (word : String) : Bool :=
  match t with
  | .keyword k => k == word
  | _ => false

/-- Whether a token ends a statement. -/
def isSeparator : Token → Bool
  | .newline => true
  | .semicolon => true
  | .impliedEnd => true
  | _ => false

/-- Whether a value can end in a token, so that a slash after it divides. -/
def endsValue : Token → Bool
  | .number _ _ => true
  | .text _ => true
  | .regex _ => true
  | .name _ => true
  | .function _ => false
  | .keyword k => k == "getline"
  | .sign s => [")", "]", "++", "--"].contains s
  | _ => false

/-- Whether a token makes something one more or less. -/
def isStep (t : Token) : Bool := t.isSign "++" || t.isSign "--"

end Token

/-- A token with its place. -/
structure Lexeme where
  token : Token
  line : Nat
  /-- How many parentheses and braces are open after it. -/
  parens : Nat
  braces : Nat
  /-- What is wrong with it or with what stands before it, with the line. -/
  faults : List (Nat × String)

/-- The words with a meaning of their own. -/
def keywordNames : List String :=
  ["print", "printf", "do", "while", "for", "break", "continue", "if", "else", "in", "delete",
   "split", "match", "BEGIN", "END", "exit", "next", "nextfile", "return", "getline", "sub", "gsub",
   "function"]

/-- The functions that are always there. -/
def builtinNames : List (String × Builtin) :=
  [("length", .length), ("index", .index), ("substr", .substr), ("sprintf", .sprintf),
   ("sin", .sin), ("cos", .cos), ("atan2", .atan2), ("exp", .exp), ("log", .log), ("int", .int),
   ("sqrt", .sqrt), ("rand", .rand), ("srand", .srand), ("close", .close), ("system", .system),
   ("toupper", .toupper), ("tolower", .tolower), ("fflush", .fflush), ("mktime", .mktime),
   ("strftime", .strftime), ("systime", .systime)]

/-- The signs, longer ones before those that they start with. -/
def signTexts : List String :=
  ["++", "+=", "--", "-=", "*=", "/=", "%=", "\x5e=", "==", "!=", "!~", "<=", ">=", ">>", "||", "&&",
   "+", "-", "*", "/", "%", "\x5e", "=", "!", "~", "<", ">", "|", "?", ":", "(", ")", "[", "]", ",", "$"]

/-! ## Escapes -/

/-- The escapes of one letter in texts. -/
def textEscape : Char → Option Char
  | '\x22' => some '\x22'
  | '\\' => some '\\'
  | 'a' => some '\x07'
  | 'b' => some '\x08'
  | 'f' => some '\x0c'
  | 'n' => some '\n'
  | 'r' => some '\r'
  | 't' => some '\t'
  | 'v' => some '\x0b'
  | _ => none

/-- A text with its escapes read; the result is gathered in reverse. -/
def readEscapes : Nat → Octets → Octets → Octets
  | 0, t, done => done.reverse ++ t
  | _, [], done => done.reverse
  | fuel + 1, '\\' :: c :: rest, done =>
      match textEscape c with
      | some d => readEscapes fuel rest (d :: done)
      | none =>
          let octal := ((c :: rest).take 3).takeWhile isOctal
          let hexadecimal := (rest.take 2).takeWhile isHexadecimal
          if !octal.isEmpty then
            readEscapes fuel ((c :: rest).drop octal.length)
              (Char.ofNat (valueOfDigits 8 octal % 256) :: done)
          else if c == 'x' && !hexadecimal.isEmpty then
            readEscapes fuel (rest.drop hexadecimal.length)
              (Char.ofNat (valueOfDigits 16 hexadecimal) :: done)
          else readEscapes fuel rest (c :: '\\' :: done)
  | fuel + 1, c :: rest, done => readEscapes fuel rest (c :: done)

/-- A text with its escapes read. -/
def withoutEscapes (t : Octets) : Octets := readEscapes (t.length + 1) t []

/-! ## Reading -/

/-- How far a program has been divided into tokens. -/
structure Scan where
  rest : Octets
  line : Nat
  /-- The tokens that nobody has taken yet, the latest first. -/
  found : List Lexeme
  last : Option Token
  parens : Nat
  braces : Nat
  /-- The names of functions so far. -/
  functions : List String
  /-- The complaints that no token carries yet, the latest first. -/
  complaints : List (Nat × String)

namespace Scan

/-- Adds a token that starts on some line; `rest` is what follows it. -/
def push (s : Scan) (line : Nat) (t : Token) (rest : Octets) : Scan :=
  { s with
    rest := rest, complaints := [], last := some t
    found := ⟨t, line, s.parens, s.braces, s.complaints.reverse⟩ :: s.found }

/-- Skips blanks, comments and ends of lines. -/
def skipLines : Nat → Scan → Scan
  | 0, s => s
  | fuel + 1, s =>
      match s.rest with
      | '\n' :: rest => skipLines fuel { s with rest := rest, line := s.line + 1 }
      | '#' :: rest => skipLines fuel { s with rest := rest.dropWhile (· != '\n') }
      | '\\' :: '\n' :: rest => skipLines fuel { s with rest := rest, line := s.line + 1 }
      | c :: rest => if isGap c then skipLines fuel { s with rest := rest } else s
      | [] => s

/-- Skips blanks, comments and ends of lines. -/
def afterLines (s : Scan) : Scan := s.skipLines (s.rest.length + 1)

/-- Where in a regular expression its end is looked for. -/
inductive Enclosure where
  | outside
  /-- In a set of which nothing has been seen, or only its caret. -/
  | opened (hasCaret : Bool)
  | inside
  /-- In the name of a kind of characters. -/
  | inKind

/-- Where the octet after some octet is. -/
def Enclosure.after (e : Enclosure) (c : Char) (rest : Octets) : Enclosure :=
  let opensKind := c == '[' && rest.head?.any fun d => ":.=".toList.contains d
  match e with
  | .outside => if c == '[' then .opened false else .outside
  | .opened false =>
      if c == '\x5e' then .opened true else if opensKind then .inKind else .inside
  | .opened true => if opensKind then .inKind else .inside
  | .inside => if c == ']' then .outside else if opensKind then .inKind else .inside
  | .inKind => if c == ']' then .inside else .inKind

/-- What is between two quotes or slashes, with its end of lines joined;
    what was there so far if there is no second one on the line.  A slash in a set of
    characters does not count.  The result is gathered in reverse, and how
    many lines were joined is counted. -/
def delimited (mark : Char) :
    Nat → Octets → Octets → Nat → Enclosure → Except Octets (Octets × Octets × Nat)
  | 0, _, done, _, _ => .error done.reverse
  | _, [], done, _, _ => .error done.reverse
  | _, '\n' :: _, done, _, _ => .error done.reverse
  | fuel + 1, '\\' :: '\n' :: rest, done, lines, e => delimited mark fuel rest done (lines + 1) e
  | fuel + 1, '\\' :: c :: rest, done, lines, e =>
      let e := match e with
        | .opened _ => .inside
        | e => e
      if c == mark && mark == '/' then delimited mark fuel rest (c :: done) lines e
      else delimited mark fuel rest (c :: '\\' :: done) lines e
  | fuel + 1, c :: rest, done, lines, e =>
      match e with
      | .outside =>
          if c == mark then .ok (done.reverse, rest, lines)
          else delimited mark fuel rest (c :: done) lines (if mark == '/' then e.after c rest else e)
      | e => delimited mark fuel rest (c :: done) lines (e.after c rest)

/-- A number at the start of the text. -/
def numberAt (t : Octets) : Octets :=
  let whole := t.takeWhile isDigit
  let after := t.drop whole.length
  let fraction := match after with
    | '.' :: rest => '.' :: rest.takeWhile isDigit
    | _ => []
  let after := after.drop fraction.length
  let exponent := match after with
    | e :: sign :: rest =>
        if e == 'e' || e == 'E' then
          if isDigit sign then e :: (sign :: rest).takeWhile isDigit
          else if (sign == '+' || sign == '-') && rest.head?.any isDigit then
            e :: sign :: rest.takeWhile isDigit
          else []
        else []
    | _ => []
  whole ++ fraction ++ exponent

/-- Takes a name.  One with a parenthesis after it is a function, unless it
    is known as something else. -/
def takeName (isKnown : String → Bool) (s : Scan) (t : Octets) : Scan :=
  let name := leadingName t
  let rest := t.drop name.length
  let word := String.ofList name
  if keywordNames.contains word then
    let s := s.push s.line (.keyword word) rest
    if word == "do" || word == "else" then s.afterLines else s
  else
    match builtinNames.lookup word with
    | some b => s.push s.line (.builtin b word) rest
    | none =>
        let isDefined := s.last.any fun t => t.isKeyword "function"
        let isCalled := !isKnown word && (s.functions.contains word || rest.head? == some '(')
        if isDefined || isCalled then
          { s.push s.line (.function word) rest with
            functions := if s.functions.contains word then s.functions else word :: s.functions }
        else s.push s.line (.name word) rest

/-- Takes a closing brace.  What ends a statement is put before it. -/
def takeBrace (s : Scan) (rest : Octets) : Scan :=
  match s.braces with
  | 0 =>
      let s := { s with complaints := (s.line, "extra \x27\x7d\x27") :: s.complaints, rest := rest }
      (dropSemicolon s)
  | braces + 1 =>
      let isEnded := s.last.any fun t => t.isSeparator || t.isSign "\x7d"
      let s := if isEnded then s else s.push s.line .impliedEnd s.rest
      let s := { s with braces := braces }
      let s := s.push s.line (.sign "\x7d") rest
      let s := if braces = 0 then dropSemicolon s else s
      s.afterLines
where
  /-- Skips a semicolon. -/
  dropSemicolon (s : Scan) : Scan :=
    match s.rest.dropWhile isGap with
    | ';' :: rest => { s with rest := rest }
    | _ => s

/-- A number as complaints show it. -/
def shownShort (x : Float) : String := String.ofList (shownNumber [] 0 none 'g' [] x)

/-- Notes a number of a field that is no integer. -/
def checkField (s : Scan) (rest : Octets) : Scan :=
  let source := numberAt (rest.dropWhile isGap)
  let x := leadingNumber source
  if source.any isDigit && floatOf (wordOf x) != x then
    { s with complaints := (s.line, "$" ++ shownShort x ++ " is invalid field index") :: s.complaints }
  else s

/-- Takes a sign. -/
def takeSign (s : Scan) (t : Octets) : Scan :=
  let isAllowed := fun (sign : String) =>
    sign.toList.isPrefixOf t
  match signTexts.find? isAllowed with
  | none =>
      -- With a point that starts no number, the octet after it is lost.
      let c := t.headD ' '
      s.push s.line (.unexpected c) (t.drop (if c == '.' then 2 else 1))
  | some sign =>
      let rest := t.drop sign.length
      if sign == ")" && s.parens = 0 then
        { s with complaints := (s.line, "extra \x27)\x27") :: s.complaints, rest := rest }
      else
        let s := { s with
          parens := if sign == "(" then s.parens + 1 else if sign == ")" then s.parens - 1 else s.parens }
        let s := if sign == "$" then s.checkField rest else s
        let s := s.push s.line (.sign sign) rest
        if ["||", "&&", ","].contains sign then s.afterLines else s

/-- Takes a regular expression or a text after its first mark. -/
def takeDelimited (s : Scan) (mark : Char) (what : String) (t : Octets) (make : Octets → Token) : Scan :=
  match delimited mark (t.length + 1) t [] 0 .outside with
  | .ok (inner, rest, lines) =>
      let line := s.line
      { s.push line (make inner) rest with line := line + lines }
  | .error line =>
      { s.push s.line
          (.wrong ("line " ++ toString s.line ++ ": runaway " ++ what ++ " "
            ++ String.ofList (mark :: line.take 10) ++ " ...")) []
        with rest := [] }

/-- Takes a token. -/
def step (isKnown : String → Bool) (s : Scan) : Scan :=
  match s.rest with
  | [] => s
  | c :: rest =>
      if isGap c then { s with rest := rest }
      else if c == '#' then { s with rest := rest.dropWhile (· != '\n') }
      else if c == '\n' then ({ s with line := s.line + 1 }.push s.line .newline rest).afterLines
      else if c == '\\' && rest.head? == some '\n' then
        { s with rest := rest.drop 1, line := s.line + 1 }
      else if c == '\\' && rest.isEmpty then { s with rest := [] }
      else if c == ';' then (s.push s.line .semicolon rest).afterLines
      else if c == '\x22' then
        s.takeDelimited '\x22' "string constant" rest fun t => .text (withoutEscapes t)
      else if c == '/' && !(s.last.any Token.endsValue) then
        s.takeDelimited '/' "regular expression" rest .regex
      else if c == '/' && s.last.any Token.isStep then
        -- After a step a slash does not divide, and what follows it is lost.
        s.takeDelimited '/' "regular expression" (if rest.head? == some '=' then rest else rest.drop 1)
          .regex
      else if isDigit c || (c == '.' && rest.head?.any isDigit) then
        let source := numberAt s.rest
        let x := leadingNumber source
        let s :=
          if x.isInf then
            { s with complaints :=
                (s.line, String.ofList source ++ " : decimal overflow") :: s.complaints }
          else s
        s.push s.line (.number x source) (s.rest.drop source.length)
      else if isNameStart c then s.takeName isKnown s.rest
      else if c == '\x7b' then
        ({ s with braces := s.braces + 1 }.push s.line (.sign "\x7b") rest).afterLines
      else if c == '\x7d' then s.takeBrace rest
      else s.takeSign s.rest

/-- Goes on up to the next token. -/
def advance (isKnown : String → Bool) : Nat → Scan → Scan
  | 0, s => s.push s.line .finish []
  | fuel + 1, s =>
      if !s.found.isEmpty then s
      else if s.rest.isEmpty then s.push s.line .finish []
      else advance isKnown fuel (s.step isKnown)

/-- The next tokens, of which there is at least one, and what follows. -/
def next (isKnown : String → Bool) (s : Scan) : List Lexeme × Scan :=
  let s := s.advance isKnown (2 * s.rest.length + 2)
  (s.found.reverse, { s with found := [] })

end Scan

/-- The text of a program of which no token has been taken. -/
def scanOf (t : Octets) : Scan :=
  let start : Scan :=
    { rest := t ++ ['\n'], line := 1, found := [], last := none, parens := 0, braces := 0,
      functions := [], complaints := [] }
  start.afterLines

end HermesBundle.Shell.Records
