/-! # Code points — the alphabet of texts

    A text is a list of code points.  Surrogates are allowed to stand
    alone, because a JSON document may escape one without its partner
    and such a text has to survive reading and writing unchanged. -/

namespace HermesBundle

/-- A number of the Unicode code space, lone surrogates included. -/
structure CodePoint where
  val : Nat
  isLt : val < 0x110000
deriving DecidableEq

namespace CodePoint

/-- The code point of a character. -/
def ofChar (c : Char) : CodePoint :=
  ⟨c.toNat, by
    have h := c.valid
    simp only [UInt32.isValidChar, Nat.isValidChar] at h
    show c.val.toNat < 0x110000
    omega⟩

instance : Coe Char CodePoint := ⟨ofChar⟩

/-- The mark that stands for what cannot be decoded. -/
def replacement : CodePoint := ⟨0xFFFD, by decide⟩

instance : Inhabited CodePoint := ⟨replacement⟩

/-- The code point with a given number; numbers outside the code space
    give the replacement mark. -/
def ofNat (n : Nat) : CodePoint :=
  if h : n < 0x110000 then ⟨n, h⟩ else replacement

theorem ofChar_inj {c d : Char} : ofChar c = ofChar d ↔ c = d := by
  constructor
  · intro h
    have hv : c.val.toNat = d.val.toNat := congrArg CodePoint.val h
    exact Char.ext (UInt32.toNat_inj.mp hv)
  · intro h
    rw [h]

/-- One half of a surrogate pair. -/
def isSurrogate (c : CodePoint) : Bool :=
  0xD800 ≤ c.val && c.val ≤ 0xDFFF

/-- One of the ten digits `0` to `9`. -/
def isDigit (c : CodePoint) : Bool :=
  0x30 ≤ c.val && c.val ≤ 0x39

/-- The value of a hexadecimal digit, in either case. -/
def hexValue? (c : CodePoint) : Option Nat :=
  if 0x30 ≤ c.val && c.val ≤ 0x39 then some (c.val - 0x30)
  else if 0x61 ≤ c.val && c.val ≤ 0x66 then some (c.val - 0x61 + 10)
  else if 0x41 ≤ c.val && c.val ≤ 0x46 then some (c.val - 0x41 + 10)
  else none

/-- The lower-case hexadecimal digit of a value below sixteen. -/
def ofHexValue (n : Nat) : CodePoint :=
  if n < 10 then ofNat (0x30 + n) else ofNat (0x61 + (n - 10))

end CodePoint

/-- A text: code points in reading order. -/
abbrev Text := List CodePoint

namespace Text

/-- The text of a string. -/
def ofString (s : String) : Text := s.toList.map CodePoint.ofChar

instance : Coe String Text := ⟨ofString⟩

theorem ofString_inj {s t : String} : ofString s = ofString t ↔ s = t := by
  constructor
  · intro h
    have hinj : Function.Injective CodePoint.ofChar :=
      fun _ _ hc => CodePoint.ofChar_inj.mp hc
    have hl : s.toList = t.toList := by
      unfold ofString at h
      revert h
      generalize s.toList = l
      generalize t.toList = k
      intro h
      induction l generalizing k with
      | nil =>
          cases k with
          | nil => rfl
          | cons _ _ => simp at h
      | cons a l ih =>
          cases k with
          | nil => simp at h
          | cons b k =>
              simp only [List.map_cons, List.cons.injEq] at h
              rw [hinj h.1, ih k h.2]
    exact String.toList_inj.mp hl
  · intro h
    rw [h]

/-- The string of a text; a lone surrogate, which no string can hold,
    becomes the replacement mark. -/
def toPlain (t : Text) : String :=
  String.ofList (t.map fun c =>
    if c.isSurrogate then Char.ofNat 0xFFFD else Char.ofNat c.val)

/-- Decimal digits of a natural number. -/
def ofNat (n : Nat) : Text := (Nat.toDigits 10 n).map CodePoint.ofChar

/-- Decimal digits of an integer, with a leading minus sign below zero. -/
def ofInt : Int → Text
  | .ofNat n => ofNat n
  | .negSucc n => CodePoint.ofChar '-' :: ofNat (n + 1)

/-- A number in lower-case hexadecimal, padded with zeros to a width. -/
def hex (width n : Nat) : Text :=
  match width with
  | 0 => []
  | w + 1 => hex w (n / 16) ++ [CodePoint.ofHexValue (n % 16)]

/-- Texts joined with a separator between neighbours. -/
def join (separator : Text) : List Text → Text
  | [] => []
  | [t] => t
  | t :: rest => t ++ separator ++ join separator rest

/-- The pieces between the occurrences of a separating code point; there
    is one piece more than there are separators. -/
def splitOn (separator : CodePoint) : Text → List Text
  | [] => [[]]
  | c :: rest =>
      if c = separator then [] :: splitOn separator rest
      else
        match splitOn separator rest with
        | [] => [[c]]
        | piece :: pieces => (c :: piece) :: pieces

/-- Whether one text starts with another. -/
def startsWith (t head : Text) : Bool := head.isPrefixOf t

/-- Whether one text occurs inside another. -/
def contains (t part : Text) : Bool :=
  match t with
  | [] => part.isEmpty
  | c :: rest => startsWith (c :: rest) part || contains rest part

/-- The order of texts by code point. -/
def less : Text → Text → Bool
  | _, [] => false
  | [], _ :: _ => true
  | a :: s, b :: t => a.val < b.val || (a.val == b.val && less s t)

end Text

/-- The content of a file or of a stream. -/
abbrev Bytes := List UInt8

/-- Bytes as lower-case hexadecimal digits, two for each byte. -/
def Bytes.hex (bytes : Bytes) : Text :=
  bytes.flatMap fun b => Text.hex 2 b.toNat

/-- The bytes of a text of hexadecimal digit pairs. -/
def Bytes.ofHex? : Text → Option Bytes
  | [] => some []
  | [_] => none
  | a :: b :: rest => do
      let high ← a.hexValue?
      let low ← b.hexValue?
      let tail ← Bytes.ofHex? rest
      return UInt8.ofNat (16 * high + low) :: tail

end HermesBundle
