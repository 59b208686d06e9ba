import HermesBundle.Text.CodePoint

/-! # UTF-8 — texts as bytes

    Decoding runs a machine one byte at a time.  It splits the bytes
    into pieces: a code point, or a maximal run of bytes that starts no
    character.  Strict reading, reading with replacement marks and the
    reading of file names differ only in what they make of a bad piece. -/

namespace HermesBundle.Utf8

/-- The bytes of one code point; a lone surrogate has none. -/
def encodePoint (c : CodePoint) : Option Bytes :=
  if c.val < 0x80 then some [UInt8.ofNat c.val]
  else if c.val < 0x800 then
    some [UInt8.ofNat (0xC0 + c.val / 0x40), UInt8.ofNat (0x80 + c.val % 0x40)]
  else if c.isSurrogate then none
  else if c.val < 0x10000 then
    some [UInt8.ofNat (0xE0 + c.val / 0x1000),
      UInt8.ofNat (0x80 + c.val / 0x40 % 0x40), UInt8.ofNat (0x80 + c.val % 0x40)]
  else
    some [UInt8.ofNat (0xF0 + c.val / 0x40000),
      UInt8.ofNat (0x80 + c.val / 0x1000 % 0x40),
      UInt8.ofNat (0x80 + c.val / 0x40 % 0x40), UInt8.ofNat (0x80 + c.val % 0x40)]

/-- The bytes of a text, unless it holds a lone surrogate. -/
def encode? (t : Text) : Option Bytes := do
  let parts ← t.mapM encodePoint
  return parts.flatten

/-- One piece of a byte sequence. -/
inductive Piece where
  /-- A well-formed character. -/
  | point (c : CodePoint)
  /-- Bytes that begin no character, as many as belong together. -/
  | bad (bytes : Bytes)

/-- Where the machine stands between two bytes. -/
inductive State where
  /-- Between characters. -/
  | start
  /-- Inside one: how many bytes are owed, the range of the next one, the
      value so far and the bytes already taken. -/
  | owing (count low high value : Nat) (taken : Bytes)

/-- What the first byte of a character does. -/
def first (b : UInt8) : List Piece × State :=
  let n := b.toNat
  if n < 0x80 then ([.point (.ofNat n)], .start)
  else if 0xC2 ≤ n && n ≤ 0xDF then ([], .owing 1 0x80 0xBF (n % 0x20) [b])
  else if n == 0xE0 then ([], .owing 2 0xA0 0xBF 0 [b])
  else if n == 0xED then ([], .owing 2 0x80 0x9F 0xD [b])
  else if 0xE1 ≤ n && n ≤ 0xEF then ([], .owing 2 0x80 0xBF (n % 0x10) [b])
  else if n == 0xF0 then ([], .owing 3 0x90 0xBF 0 [b])
  else if 0xF1 ≤ n && n ≤ 0xF3 then ([], .owing 3 0x80 0xBF (n % 8) [b])
  else if n == 0xF4 then ([], .owing 3 0x80 0x8F 4 [b])
  else ([.bad [b]], .start)

/-- One step: the pieces that end with this byte, and the next state. -/
def step : State → UInt8 → List Piece × State
  | .start, b => first b
  | .owing count low high value taken, b =>
      if low ≤ b.toNat && b.toNat ≤ high then
        let value := value * 0x40 + b.toNat % 0x40
        if count ≤ 1 then ([.point (.ofNat value)], .start)
        else ([], .owing (count - 1) 0x80 0xBF value (taken ++ [b]))
      else
        let (pieces, next) := first b
        (.bad taken :: pieces, next)

/-- The pieces of a byte sequence, read from a given state. -/
def piecesFrom : State → Bytes → List Piece
  | .start, [] => []
  | .owing _ _ _ _ taken, [] => [.bad taken]
  | state, b :: rest =>
      let (pieces, next) := step state b
      pieces ++ piecesFrom next rest

/-- The pieces of a byte sequence. -/
def pieces (bytes : Bytes) : List Piece := piecesFrom .start bytes

/-- Strict decoding: nothing but well-formed characters. -/
def decode? (bytes : Bytes) : Option Text :=
  (pieces bytes).mapM fun
    | .point c => some c
    | .bad _ => none

/-- Decoding that puts one replacement mark for each bad piece. -/
def decodeReplacing (bytes : Bytes) : Text :=
  (pieces bytes).map fun
    | .point c => c
    | .bad _ => .replacement

/-- A byte that is part of no character, kept as a trailing surrogate. -/
def escapedByte (b : UInt8) : CodePoint := .ofNat (0xDC00 + b.toNat)

/-- Decoding of file names: bytes of bad pieces are kept one by one, so
    that every byte sequence has a name. -/
def decodeName (bytes : Bytes) : Text :=
  (pieces bytes).flatMap fun
    | .point c => [c]
    | .bad taken => taken.map escapedByte

/-- Whether a code point of a file name stands for a byte. -/
def isEscapedByte (c : CodePoint) : Bool := 0xDC80 ≤ c.val && c.val ≤ 0xDCFF

/-- The bytes of one code point of a file name. -/
def encodeNamePoint (c : CodePoint) : Option Bytes :=
  if isEscapedByte c then some [UInt8.ofNat (c.val - 0xDC00)] else encodePoint c

/-- The bytes of a file name, unless it holds a surrogate that stands for
    no byte. -/
def encodeName? (t : Text) : Option Bytes := do
  let parts ← t.mapM encodeNamePoint
  return parts.flatten

/-- The text that the bytes of a file name are read as.  Escaped bytes that
    together are a character become that character. -/
def settledName (t : Text) : Text :=
  if t.any isEscapedByte then ((encodeName? t).map decodeName).getD t else t

end HermesBundle.Utf8

namespace HermesBundle.Text

/-- Line ends brought to one form: a carriage return, alone or before a
    line feed, becomes a line feed. -/
def unifyNewlines : Text → Text
  | [] => []
  | c :: rest =>
      if c = .ofChar '\r' then
        match rest with
        | d :: more =>
            if d = .ofChar '\n' then d :: unifyNewlines more
            else .ofChar '\n' :: unifyNewlines (d :: more)
        | [] => [.ofChar '\n']
      else c :: unifyNewlines rest
termination_by t => t.length

/-- The bytes of a plain text; lone surrogates become replacement marks. -/
def bytes (t : Text) : Bytes :=
  t.flatMap fun c => (Utf8.encodePoint c).getD [0xEF, 0xBF, 0xBD]

end HermesBundle.Text
