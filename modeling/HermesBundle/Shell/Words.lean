import HermesBundle.Shell.Source

/-! # Words of scripts — quotes, parameters and substitutions

    A word is read piece by piece.  What a character means depends on the
    quotes it stands in and on the braces that are open.  Commands inside a
    word are read by a reader that is given from outside. -/

namespace HermesBundle.Shell

/-- The quotes that characters stand in. -/
inductive Quoting where
  | plain
  | double
  /-- Input given in the script, in which quotes stand for themselves. -/
  | document
deriving DecidableEq

/-- What ends a row of pieces. -/
inductive Ender where
  /-- A blank or an operator. -/
  | word
  | quote
  | brace
  | finish
deriving DecidableEq

/-- Pieces that have been read, in reverse, and the literal that is being
    read. -/
structure Draft where
  pieces : List Piece
  text : Octets
  isQuoted : Bool
  isOpen : Bool

namespace Draft

/-- Nothing has been read. -/
def empty : Draft := ⟨[], [], false, false⟩

/-- Ends the literal that is being read. -/
def close (d : Draft) : Draft :=
  if d.isOpen then
    ⟨.literal (String.ofList d.text.reverse) d.isQuoted :: d.pieces, [], false, false⟩
  else d

/-- A character has been read. -/
def add (d : Draft) (isQuoted : Bool) (c : Char) : Draft :=
  if d.isOpen && d.isQuoted == isQuoted then { d with text := c :: d.text }
  else ⟨d.close.pieces, [c], isQuoted, true⟩

/-- A piece has been read. -/
def push (d : Draft) (piece : Piece) : Draft :=
  let closed := d.close
  { closed with pieces := piece :: closed.pieces }

/-- A quotation mark has been met. -/
def mark (d : Draft) : Draft := d.push .mark

/-- The word that has been read. -/
def word (d : Draft) : Word := d.close.pieces.reverse

end Draft

/-- A blank or an operator, which ends a word. -/
def endsWord (c : Char) : Bool :=
  c == ' ' || c == '\t' || c == '\n' || c == ';' || c == '&' || c == '|' || c == '<' || c == '>'
    || c == '(' || c == ')'

/-- A character that names a special parameter. -/
def isSpecialParameter (c : Char) : Bool :=
  c == '@' || c == '*' || c == '#' || c == '?' || c == '$' || c == '!' || c == '-' || isDigit c

/-- A reader of the commands of a substitution. -/
abbrev CommandsReader := Reader (List Command)

/-- Reads the source of commands in backquotes, in which some escapes are
    taken back. -/
def readBackquoted (isQuoted : Bool) : Nat → Octets → Reader Octets
  | 0, found => return found.reverse
  | fuel + 1, found => do
      match ← Reader.takeJoined with
      | none => Reader.refuse "EOF in backquote substitution"
      | some '\x60' => return found.reverse
      | some '\\' => do
          match ← Reader.take with
          | none => Reader.refuse "EOF in backquote substitution"
          | some c =>
              if c == '\\' || c == '\x60' || c == '$' || (isQuoted && c == '\x22') then
                readBackquoted isQuoted fuel (c :: found)
              else readBackquoted isQuoted fuel (c :: '\\' :: found)
      | some c => readBackquoted isQuoted fuel (c :: found)

/-- Reads commands from a source of their own. -/
def readApart (commands : CommandsReader) (t : Octets) : Reader (List Command) := do
  let s ← get
  match commands.run (Source.ofOctets 1 s.aliases s.nextDocument t) with
  | .error refusal => throw refusal
  | .ok (body, inner) => do
      set { s with
        documents := inner.documents ++ s.documents, nextDocument := inner.nextDocument }
      return body

/-- Reads the commands of a substitution up to the closing parenthesis.
    Inputs announced outside come later. -/
def readEnclosed (commands : CommandsReader) (next : Reader Token) : Reader (List Command) := do
  let announced := (← get).announced
  modify fun s => { s with announced := [] }
  let body ← commands
  match ← next with
  | .operator ")" => do
      modify fun s => { s with announced := announced }
      return body
  | token => Reader.refuseToken token (some (.operator ")"))

/-- The operator of an expansion in braces, and the word it is read with. -/
inductive Operator where
  | ready (change : Change)
  /-- The word is read in the quotes around the braces. -/
  | needsWord (change : Word → Change)
  /-- The word is read as if there were no quotes. -/
  | needsPattern (change : Word → Change)
  | unknown

/-- The operator that a character names. -/
def operatorOf (alsoEmpty : Bool) (c : Char) : Operator :=
  if c == '-' then .needsWord (.orElse alsoEmpty)
  else if c == '=' then .needsWord (.orSet alsoEmpty)
  else if c == '?' then .needsWord (.orFail alsoEmpty)
  else if c == '+' then .needsWord (.ifSet alsoEmpty)
  else if c == '\x7d' then
    if alsoEmpty then .needsWord fun _ => .keep else .ready .keep
  else .unknown

/-- Reads the operator after the name of a parameter. -/
def readOperator : Reader Operator := do
  match ← Reader.takeJoined with
  | none => return .unknown
  | some ':' => do
      match ← Reader.takeJoined with
      | some c => return operatorOf true c
      | none => return .unknown
  | some '#' => do
      let longest ← Reader.takeIf '#'
      return .needsPattern (.dropHead longest)
  | some '%' => do
      let longest ← Reader.takeIf '%'
      return .needsPattern (.dropTail longest)
  | some c => return operatorOf false c

/-- Reads the name of a parameter that is no special one. -/
def readName (fuel : Nat) : Reader (Option String) := do
  match ← Reader.peekJoined with
  | some c =>
      if isNameStart c then return some (String.ofList (← Reader.takeWhile isNameInside fuel []))
      else if isDigit c then return some (String.ofList (← Reader.takeWhile isDigit fuel []))
      else return none
  | none => return none

/-- Reads what stands between opening braces and the word of an expansion:
    the parameter, if it can be one, and the operator. -/
def readBraced (fuel : Nat) : Reader (String × Operator) := do
  match ← readName fuel with
  | some name => return (name, ← readOperator)
  | none => do
      match ← Reader.peekJoined with
      | none => return ("", .unknown)
      | some '\x7d' => return ("", .unknown)
      | some '#' => do
          let _ ← Reader.take
          match ← readName fuel with
          | some name =>
              if (← Reader.peekJoined) == some '\x7d' then
                let _ ← Reader.take
                return (name, .ready .length)
              else return (name, .unknown)
          | none => do
              match ← Reader.peekJoined with
              | some c => do
                  let follows := do
                    match (← get).rest with
                    | _ :: d :: _ => pure (some d)
                    | _ => pure none
                  if c != '\x7d' && (← follows) == some '\x7d' then
                    let _ ← Reader.take
                    if isSpecialParameter c then
                      let _ ← Reader.take
                      return (String.singleton c, .ready .length)
                    else return ("#", .unknown)
                  else return ("#", ← readOperator)
              | none => return ("#", .unknown)
      | some c => do
          let _ ← Reader.take
          if isSpecialParameter c then return (String.singleton c, ← readOperator)
          else return ("", .unknown)

/-- Reads what stands between single quotes. -/
def readSingleQuoted : Nat → Draft → Reader Draft
  | 0, d => return d
  | fuel + 1, d => do
      match ← Reader.take with
      | none => Reader.refuse "Unterminated quoted string"
      | some '\x27' => return d
      | some c => readSingleQuoted fuel (d.add true c)

/-- Whether a backslash takes the meaning from a character in double quotes
    or in a document. -/
def isEscapable (quoting : Quoting) (ender : Ender) (c : Char) : Bool :=
  c == '\\' || c == '\x60' || c == '$'
    || (c == '\x22' && (quoting = .double || ender = .brace))
    || (c == '\x7d' && ender = .brace)

/-- What a source that ends inside a word is refused for. -/
def unendedReason (quoting : Quoting) (ender : Ender) : String :=
  if ender = .brace && quoting != .double then "Missing \x27\x7d\x27"
  else "Unterminated quoted string"

mutual

/-- Reads pieces up to what ends them, which is taken unless it ends a
    word. -/
def readPieces (commands : CommandsReader) (next : Reader Token) (quoting : Quoting)
    (ender : Ender) : Nat → Draft → Reader Draft
  | 0, d => return d
  | fuel + 1, d => do
      let isQuoted := quoting != .plain
      match ← Reader.peekJoined with
      | none =>
          if ender = .word || ender = .finish then return d
          else Reader.refuse (unendedReason quoting ender)
      | some c =>
          if ender = .word && endsWord c then return d
          else do
            let _ ← Reader.take
            match c with
            | '\\' => do
                match ← Reader.peek with
                | none =>
                    readPieces commands next quoting ender fuel (d.add true '\\')
                | some e => do
                    let _ ← Reader.take
                    let d := if isQuoted && !isEscapable quoting ender e then
                      d.add true '\\' else d
                    readPieces commands next quoting ender fuel (d.add true e)
            | '\x27' => do
                if isQuoted then
                  readPieces commands next quoting ender fuel (d.add true c)
                else
                  let d ← readSingleQuoted (← get).left.succ d.mark
                  readPieces commands next quoting ender fuel d.mark
            | '\x22' => do
                if ender = .quote then return d
                else if quoting = .document && ender = .finish then
                  readPieces commands next quoting ender fuel (d.add true c)
                else
                  let d ← readPieces commands next .double .quote fuel d.mark
                  readPieces commands next quoting ender fuel d.mark
            | '\x7d' => do
                if ender = .brace then return d
                else readPieces commands next quoting ender fuel (d.add isQuoted c)
            | '\x60' => do
                let source ← readBackquoted (quoting = .double) (← get).left.succ []
                let body ← readApart commands source
                readPieces commands next quoting ender fuel (d.push (.output body isQuoted))
            | '$' => do
                let d ← readDollar commands next quoting fuel d
                readPieces commands next quoting ender fuel d
            | _ => readPieces commands next quoting ender fuel (d.add isQuoted c)

/-- Reads what follows a dollar sign. -/
def readDollar (commands : CommandsReader) (next : Reader Token) (quoting : Quoting) :
    Nat → Draft → Reader Draft
  | 0, d => return d
  | fuel + 1, d => do
      let isQuoted := quoting != .plain
      match ← Reader.peekJoined with
      | some '(' => do
          let _ ← Reader.take
          if ← Reader.takeIf '(' then
            let inner ← readArithmetic commands next 0 fuel Draft.empty
            return d.push (.arithmetic inner.word isQuoted)
          else
            let body ← readEnclosed commands next
            return d.push (.output body isQuoted)
      | some '\x7b' => do
          let _ ← Reader.take
          let (name, operator) ← readBraced (← get).left
          match operator with
          | .ready change => return d.push (.parameter name change isQuoted)
          | .needsWord change => do
              let inner ← readPieces commands next quoting .brace fuel Draft.empty
              return d.push (.parameter name (change inner.word) isQuoted)
          | .needsPattern change => do
              let inner ← readPieces commands next .plain .brace fuel Draft.empty
              return d.push (.parameter name (change inner.word) isQuoted)
          | .unknown => do
              let _ ← readPieces commands next quoting .brace fuel Draft.empty
              return d.push .unknown
      | some c =>
          if isNameStart c then
            let name ← Reader.takeWhile isNameInside (← get).left []
            return d.push (.parameter (String.ofList name) .keep isQuoted)
          else if isSpecialParameter c then do
            let _ ← Reader.take
            return d.push (.parameter (String.singleton c) .keep isQuoted)
          else return d.add isQuoted '$'
      | none => return d.add isQuoted '$'

/-- Reads an arithmetic expression up to the two parentheses that close
    it.  `depth` parentheses are open inside it. -/
def readArithmetic (commands : CommandsReader) (next : Reader Token) (depth : Nat) :
    Nat → Draft → Reader Draft
  | 0, d => return d
  | fuel + 1, d => do
      match ← Reader.takeJoined with
      | none => Reader.refuse "Missing \x27))\x27"
      | some c =>
          match c with
          | '\\' => do
              match ← Reader.take with
              | none => readArithmetic commands next depth fuel (d.add true '\\')
              | some e =>
                  let d := if isEscapable .double .quote e then d else d.add true '\\'
                  readArithmetic commands next depth fuel (d.add true e)
          | '(' => readArithmetic commands next (depth + 1) fuel (d.add true c)
          | ')' => do
              if depth = 0 then
                if ← Reader.takeIf ')' then return d
                else readArithmetic commands next 0 fuel (d.add true c)
              else readArithmetic commands next (depth - 1) fuel (d.add true c)
          | '\x60' => do
              let source ← readBackquoted true (← get).left.succ []
              let body ← readApart commands source
              readArithmetic commands next depth fuel (d.push (.output body true))
          | '$' => do
              let d ← readDollar commands next .double fuel d
              readArithmetic commands next depth fuel d
          | _ => readArithmetic commands next depth fuel (d.add true c)

end

/-- Reads a word. -/
def readWord (commands : CommandsReader) (next : Reader Token) : Reader Word := do
  let d ← readPieces commands next .plain .word (2 * (← get).left + 2) Draft.empty
  return d.word

/-- Reads the pieces of a word up to its end, in which nothing is
    replaced. -/
def readDelimiter : Nat → Octets → Bool → Reader (Octets × Bool)
  | 0, found, isQuoted => return (found.reverse, isQuoted)
  | fuel + 1, found, isQuoted => do
      match ← Reader.peekJoined with
      | none => return (found.reverse, isQuoted)
      | some c =>
          if endsWord c then return (found.reverse, isQuoted)
          else do
            let _ ← Reader.take
            match c with
            | '\\' => do
                match ← Reader.take with
                | none => return ((c :: found).reverse, true)
                | some e => readDelimiter fuel (e :: found) true
            | '\x27' => do
                let d ← readSingleQuoted (← get).left.succ Draft.empty
                readDelimiter fuel (d.text ++ found) true
            | '\x22' => do
                let inner ← readQuotedDelimiter (← get).left.succ []
                readDelimiter fuel (inner ++ found) true
            | _ => readDelimiter fuel (c :: found) isQuoted
where
  /-- Reads up to the closing double quote; the result is in reverse. -/
  readQuotedDelimiter : Nat → Octets → Reader Octets
    | 0, found => return found
    | fuel + 1, found => do
        match ← Reader.takeJoined with
        | none => Reader.refuse "Unterminated quoted string"
        | some '\x22' => return found
        | some '\\' => do
            match ← Reader.take with
            | none => return found
            | some e =>
                if isEscapable .double .quote e then readQuotedDelimiter fuel (e :: found)
                else readQuotedDelimiter fuel (e :: '\\' :: found)
        | some c => readQuotedDelimiter fuel (c :: found)

/-- Reads the inputs that have been announced, which start here. -/
def readDocuments (commands : CommandsReader) (next : Reader Token) : Reader Unit := do
  let s ← get
  set { s with announced := [] }
  for a in s.announced do
    let line := (← get).line
    let lines ← Reader.takeDocument a (← get).left.succ false []
    let text := lines.reverse.flatten
    let word ←
      if a.isQuoted then pure [Piece.literal (String.ofList text) true]
      else do
        let s ← get
        let inner := Source.ofOctets line s.aliases s.nextDocument text
        match (readPieces commands next .document .finish (2 * text.length + 2) Draft.empty).run
            inner with
        | .error refusal => throw refusal
        | .ok (d, after) => do
            set { s with
              documents := after.documents ++ s.documents, nextDocument := after.nextDocument }
            pure d.word
    modify fun s => { s with documents := (a.number, word) :: s.documents }

end HermesBundle.Shell
