import HermesBundle.Json.Value

/-! # Reading JSON — from a text to a value or the first fault

    The reader accepts the standard grammar and the three names `NaN`,
    `Infinity` and `-Infinity`.  Each fault carries the position at which
    reading stopped; its line and column are computed from the text. -/

namespace HermesBundle.Json

/-- Why a text is not a JSON document. -/
inductive Fault where
  | expectingValue
  | expectingName
  | expectingColon
  | expectingComma
  | unterminatedString
  | controlCharacter
  | badEscape
  | badUnicodeEscape
  | extraData
  | byteOrderMark

/-- A reading failure: a fault at a position of the text, an integer with
    more digits than are converted, or values nested deeper than are
    followed. -/
inductive ReadError where
  | syntaxFault (fault : Fault) (text : Text) (position : Nat)
  | tooManyDigits (count : Nat)
  | tooDeep

/-- What was expected or found. -/
def Fault.describe : Fault → String
  | .expectingValue => "Expecting value"
  | .expectingName => "Expecting property name enclosed in double quotes"
  | .expectingColon => "Expecting \x27:\x27 delimiter"
  | .expectingComma => "Expecting \x27,\x27 delimiter"
  | .unterminatedString => "Unterminated string starting at"
  | .controlCharacter => "Invalid control character at"
  | .badEscape => "Invalid \\escape"
  | .badUnicodeEscape => "Invalid \\uXXXX escape"
  | .extraData => "Extra data"
  | .byteOrderMark => "Unexpected UTF-8 BOM (decode using utf-8-sig)"

/-- Line and column of a position, both counted from 1. -/
def lineAndColumn (text : Text) (position : Nat) : Nat × Nat :=
  let before := text.take position
  let line := before.countP (· == CodePoint.ofChar '\n')
  let column := (before.reverse.takeWhile (· != .ofChar '\n')).length
  (line + 1, column + 1)

/-- The wording of a failure. -/
def ReadError.message : ReadError → Text
  | .syntaxFault fault text position =>
      let (line, column) := lineAndColumn text position
      Text.ofString fault.describe ++ Text.ofString ": line " ++ Text.ofNat line
        ++ Text.ofString " column " ++ Text.ofNat column
        ++ Text.ofString " (char " ++ Text.ofNat position ++ Text.ofString ")"
  | .tooManyDigits count =>
      Text.ofString "Exceeds the limit (" ++ Text.ofNat digitLimit
        ++ Text.ofString " digits) for integer string conversion: value has "
        ++ Text.ofNat count
        ++ Text.ofString " digits; use sys.set_int_max_str_digits() to increase the limit"
  | .tooDeep => "maximum recursion depth exceeded"

/-- The text still to be read and the position of its start. -/
structure Input where
  rest : Text
  position : Nat

/-- A failure before the whole text is attached to it. -/
inductive Stop where
  | fault (fault : Fault) (position : Nat)
  | tooManyDigits (count : Nat)
  | tooDeep

/-- The result of reading one piece. -/
abbrev Step (α : Type) := Except Stop (α × Input)

/-- Stops with a fault at a position. -/
def stop {α : Type} (fault : Fault) (position : Nat) : Except Stop α :=
  .error (.fault fault position)

/-- White space of the grammar. -/
def isSpace (c : CodePoint) : Bool :=
  c.val == 0x20 || c.val == 0x09 || c.val == 0x0A || c.val == 0x0D

/-- Skips white space. -/
def skipSpace (input : Input) : Input :=
  let spaces := input.rest.takeWhile isSpace
  ⟨input.rest.drop spaces.length, input.position + spaces.length⟩

/-- Drops some code points. -/
def Input.skip (input : Input) (n : Nat) : Input :=
  ⟨input.rest.drop n, input.position + n⟩

/-- The number of four hexadecimal digits at the start of a text. -/
def fourHex? (t : Text) : Option Nat :=
  match t with
  | a :: b :: c :: d :: _ => do
      let a ← a.hexValue?
      let b ← b.hexValue?
      let c ← c.hexValue?
      let d ← d.hexValue?
      return ((a * 16 + b) * 16 + c) * 16 + d
  | _ => none

/-- The code point of a short escape. -/
def shortEscape? (c : CodePoint) : Option CodePoint :=
  if c.val = 0x22 || c.val = 0x5C || c.val = 0x2F then some c
  else if c = CodePoint.ofChar 'b' then some (.ofNat 0x08)
  else if c = CodePoint.ofChar 'f' then some (.ofNat 0x0C)
  else if c = CodePoint.ofChar 'n' then some (.ofNat 0x0A)
  else if c = CodePoint.ofChar 'r' then some (.ofNat 0x0D)
  else if c = CodePoint.ofChar 't' then some (.ofNat 0x09)
  else none

/-- The code point that a pair of surrogates stands for. -/
def joinSurrogates (high low : Nat) : CodePoint :=
  .ofNat (0x10000 + (high - 0xD800) * 0x400 + (low - 0xDC00))

/-- What a four-digit escape at some position yields: the code point and
    how many code points after the `u` it took.  `after` is the text after
    the `u`.  A text that ends with the digits is at fault, for the closing
    quote is missing. -/
def unicodeEscape (after : Text) (position : Nat) : Except Stop (CodePoint × Nat) :=
  if after.length < 5 then stop .badUnicodeEscape position
  else
    match fourHex? after with
    | none => stop .badUnicodeEscape position
    | some high =>
        let tail := after.drop 4
        if 0xD800 ≤ high && high ≤ 0xDBFF && 7 ≤ tail.length
            && Text.startsWith tail "\\u" then
          match fourHex? (tail.drop 2) with
          | none => stop .badUnicodeEscape (position + 6)
          | some low =>
              if 0xDC00 ≤ low && low ≤ 0xDFFF then .ok (joinSurrogates high low, 10)
              else .ok (.ofNat high, 4)
        else .ok (.ofNat high, 4)

/-- Reads a string whose opening quote stood at `start`; `skip` code
    points belong to an escape that has been read. -/
def readString (start : Nat) (taken : Text) (skip position : Nat) : Text → Step Text
  | [] => stop .unterminatedString start
  | c :: rest =>
      match skip with
      | skip + 1 => readString start taken skip (position + 1) rest
      | 0 =>
          if c.val = 0x22 then .ok (taken.reverse, ⟨rest, position + 1⟩)
          else if c.val = 0x5C then
            match rest with
            | [] => stop .unterminatedString start
            | d :: after =>
                if d = CodePoint.ofChar 'u' then
                  match unicodeEscape after (position + 1) with
                  | .error e => .error e
                  | .ok (point, used) =>
                      readString start (point :: taken) (used + 1) (position + 1) rest
                else
                  match shortEscape? d with
                  | none => stop .badEscape position
                  | some point => readString start (point :: taken) 1 (position + 1) rest
          else if c.val < 0x20 then stop .controlCharacter position
          else readString start (c :: taken) 0 (position + 1) rest

/-- The value of a row of decimal digits. -/
def digitsValue (digits : Text) : Nat :=
  digits.foldl (fun n c => n * 10 + (c.val - 0x30)) 0

/-- The fraction and the exponent that follow the digits of a number: both
    rows of digits, and how many code points they take.  A point or an `e`
    without digits is left alone. -/
def fractionAndExponent (t : Text) : Text × Int × Nat :=
  let (fraction, afterFraction, used) :=
    match t with
    | c :: rest =>
        let digits := rest.takeWhile CodePoint.isDigit
        if c = CodePoint.ofChar '.' && !digits.isEmpty then
          (digits, rest.drop digits.length, digits.length + 1)
        else ([], t, 0)
    | [] => ([], t, 0)
  match afterFraction with
  | c :: rest =>
      if c = CodePoint.ofChar 'e' || c = CodePoint.ofChar 'E' then
        let (negative, body, signLength) :=
          match rest with
          | s :: more =>
              if s = CodePoint.ofChar '-' then (true, more, 1)
              else if s = CodePoint.ofChar '+' then (false, more, 1)
              else (false, rest, 0)
          | [] => (false, rest, 0)
        let digits := body.takeWhile CodePoint.isDigit
        if digits.isEmpty then (fraction, 0, used)
        else
          let size : Int := digitsValue digits
          (fraction, if negative then -size else size, used + 1 + signLength + digits.length)
      else (fraction, 0, used)
  | [] => (fraction, 0, used)

/-- Reads a number. -/
def readNumber (input : Input) : Step Json :=
  let negative := Text.startsWith input.rest "-"
  let body := if negative then input.rest.drop 1 else input.rest
  let run := body.takeWhile CodePoint.isDigit
  let whole := if Text.startsWith run "0" then run.take 1 else run
  if whole.isEmpty then stop .expectingValue input.position
  else
    let after := body.drop whole.length
    let used := whole.length + if negative then 1 else 0
    let (fraction, exponent, more) := fractionAndExponent after
    if more = 0 then
      if whole.length > digitLimit then .error (.tooManyDigits whole.length)
      else
        let size : Int := digitsValue whole
        .ok (.int (if negative then -size else size), input.skip used)
    else
      let digits := whole ++ fraction
      let double := Double.ofDecimal negative (digitsValue digits)
        (digits.dropWhile (· == CodePoint.ofChar '0')).length (exponent - fraction.length)
      .ok (.float double, input.skip (used + more))

/-- The values that are written as a name. -/
def names : List (String × Json) :=
  [("null", .null), ("true", .bool true), ("false", .bool false), ("NaN", .float .nan),
   ("Infinity", .float (.infinite false)), ("-Infinity", .float (.infinite true))]

/-- The named value at the start of the input. -/
def readName? (input : Input) : Option (Json × Input) :=
  (names.find? fun (name, _) => Text.startsWith input.rest name).map
    fun (name, value) => (value, input.skip name.length)

mutual

/-- Reads one value.  The fuel bounds the number of items read, the room
    how many more arrays and objects may be opened. -/
def readValue : Nat → Nat → Input → Step Json
  | 0, _, input => stop .expectingValue input.position
  | fuel + 1, room, input =>
      match input.rest with
      | [] => stop .expectingValue input.position
      | c :: rest =>
          if c.val = 0x22 then
            match readString input.position [] 0 (input.position + 1) rest with
            | .error e => .error e
            | .ok (t, next) => .ok (.str t, next)
          else if c.val = 0x7B then
            match room with
            | 0 => .error .tooDeep
            | room + 1 =>
                let next := skipSpace (input.skip 1)
                if Text.startsWith next.rest [.ofNat 0x7D] then .ok (.obj [], next.skip 1)
                else readMembers fuel room [] next
          else if c.val = 0x5B then
            match room with
            | 0 => .error .tooDeep
            | room + 1 =>
                let next := skipSpace (input.skip 1)
                if Text.startsWith next.rest "]" then .ok (.arr [], next.skip 1)
                else readItems fuel room [] next
          else
            match readName? input with
            | some found => .ok found
            | none => readNumber input

/-- Reads the items of an array after the ones already taken, in reverse. -/
def readItems : Nat → Nat → List Json → Input → Step Json
  | 0, _, _, input => stop .expectingValue input.position
  | fuel + 1, room, taken, input =>
      match readValue fuel room input with
      | .error e => .error e
      | .ok (item, next) =>
          let next := skipSpace next
          if Text.startsWith next.rest "]" then .ok (.arr (item :: taken).reverse, next.skip 1)
          else if Text.startsWith next.rest "," then
            readItems fuel room (item :: taken) (skipSpace (next.skip 1))
          else stop .expectingComma next.position

/-- Reads the members of an object after the ones already taken. -/
def readMembers : Nat → Nat → List (Text × Json) → Input → Step Json
  | 0, _, _, input => stop .expectingValue input.position
  | fuel + 1, room, taken, input =>
      match input.rest with
      | [] => stop .expectingName input.position
      | c :: rest =>
          if c.val = 0x22 then
            match readString input.position [] 0 (input.position + 1) rest with
            | .error e => .error e
            | .ok (name, next) =>
                let next := skipSpace next
                if Text.startsWith next.rest ":" then
                  match readValue fuel room (skipSpace (next.skip 1)) with
                  | .error e => .error e
                  | .ok (value, next) =>
                      let next := skipSpace next
                      let members := Entries.set taken name value
                      if Text.startsWith next.rest [.ofNat 0x7D] then
                        .ok (.obj members, next.skip 1)
                      else if Text.startsWith next.rest "," then
                        readMembers fuel room members (skipSpace (next.skip 1))
                      else stop .expectingComma next.position
                else stop .expectingColon next.position
          else stop .expectingName input.position

end

/-- Reads a whole document. -/
def read (text : Text) : Except ReadError Json :=
  let attach := fun s : Stop =>
    match s with
    | .fault fault position => ReadError.syntaxFault fault text position
    | .tooManyDigits count => ReadError.tooManyDigits count
    | .tooDeep => ReadError.tooDeep
  if Text.startsWith text [.ofNat 0xFEFF] then .error (.syntaxFault .byteOrderMark text 0)
  else
    match readValue (2 * text.length + 2) depthLimit (skipSpace ⟨text, 0⟩) with
    | .error s => .error (attach s)
    | .ok (value, next) =>
        let next := skipSpace next
        if next.rest.isEmpty then .ok value
        else .error (.syntaxFault .extraData text next.position)

end HermesBundle.Json
