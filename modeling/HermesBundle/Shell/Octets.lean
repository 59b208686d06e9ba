import HermesBundle.Text.Utf8

/-! # Octets — bytes as characters

    Scripts and the programs of the system work on bytes.  A byte is the
    character of its number, so that a sequence of bytes can be read like
    a text.  Names and arguments are strings of such characters; what
    flows through files and pipes are lists of them. -/

namespace HermesBundle.Shell

/-- The sum of sizes. -/
def totalSize (sizes : List Nat) : Nat := sizes.foldl (· + ·) 0

/-- A sequence of bytes, each as the character of its number. -/
abbrev Octets := List Char

namespace Octets

/-- The octets of bytes. -/
def ofBytes (bytes : Bytes) : Octets := bytes.map fun b => Char.ofNat b.toNat

/-- The bytes of octets. -/
def toBytes (t : Octets) : Bytes := t.map fun c => UInt8.ofNat c.toNat

/-- The octets of a stored sequence of bytes. -/
def ofArray (a : ByteArray) : Octets := ofBytes a.toList

/-- A stored sequence of bytes with octets at its end. -/
def appendTo (a : ByteArray) (t : Octets) : ByteArray :=
  t.foldl (fun a c => a.push (UInt8.ofNat c.toNat)) a

/-- Octets as a stored sequence of bytes. -/
def toArray (t : Octets) : ByteArray := appendTo ByteArray.empty t

/-- The octets of a text in UTF-8. -/
def ofText (t : Text) : Octets := ofBytes ((Utf8.encodeName? t).getD t.bytes)

end Octets

/-- The octets of a text in UTF-8, as a string. -/
def octetString (t : Text) : String := String.ofList (Octets.ofText t)

/-- The file name that octets stand for. -/
def fileName (t : String) : Text := Utf8.decodeName (Octets.toBytes t.toList)

/-- The octets of a string in UTF-8. -/
def utf8 (s : String) : String := octetString (Text.ofString s)

/-! ## Kinds of characters -/

/-- A space or a tab. -/
def isBlank (c : Char) : Bool := c == ' ' || c == '\t'

/-- White space. -/
def isSpace (c : Char) : Bool := c == ' ' || ('\t' ≤ c && c ≤ '\r')

/-- A letter. -/
def isLetter (c : Char) : Bool := ('a' ≤ c && c ≤ 'z') || ('A' ≤ c && c ≤ 'Z')

/-- A decimal digit. -/
def isDigit (c : Char) : Bool := '0' ≤ c && c ≤ '9'

/-- An octal digit. -/
def isOctal (c : Char) : Bool := '0' ≤ c && c ≤ '7'

/-- A letter or a digit. -/
def isAlphanumeric (c : Char) : Bool := isLetter c || isDigit c

/-- A printable character of ASCII. -/
def isPrintable (c : Char) : Bool := ' ' ≤ c && c ≤ '~'

/-- A printable character other than letters, digits and the space. -/
def isPunctuation (c : Char) : Bool := isPrintable c && c != ' ' && !isAlphanumeric c

/-- A character that does not print. -/
def isControl (c : Char) : Bool := c < ' ' || c == '\x7F'

/-- The value of a digit to a base of at most 36. -/
def digitValue (c : Char) : Nat :=
  if isDigit c then c.toNat - 0x30
  else if 'a' ≤ c && c ≤ 'z' then c.toNat - 0x61 + 10
  else if 'A' ≤ c && c ≤ 'Z' then c.toNat - 0x41 + 10
  else 36

/-- A hexadecimal digit. -/
def isHexadecimal (c : Char) : Bool := digitValue c < 16

/-- The small letter of a capital one. -/
def lowered (c : Char) : Char := if 'A' ≤ c && c ≤ 'Z' then Char.ofNat (c.toNat + 32) else c

/-- The capital letter of a small one. -/
def raised (c : Char) : Char := if 'a' ≤ c && c ≤ 'z' then Char.ofNat (c.toNat - 32) else c

/-- A character that can start a name. -/
def isNameStart (c : Char) : Bool := isLetter c || c == '_'

/-- A character that can be inside a name. -/
def isNameInside (c : Char) : Bool := isNameStart c || isDigit c

/-- The name at the start of octets, empty if there is none. -/
def leadingName (t : Octets) : Octets :=
  match t with
  | c :: _ => if isNameStart c then t.takeWhile isNameInside else []
  | [] => []

/-- Whether a string is a name. -/
def isName (s : String) : Bool :=
  match s.toList with
  | c :: rest => isNameStart c && rest.all isNameInside
  | [] => false

/-! ## Numbers in octets -/

/-- The value of digits to a base. -/
def valueOfDigits (base : Nat) (digits : Octets) : Nat :=
  digits.foldl (fun n c => n * base + digitValue c) 0

/-- The number that octets are, if they are decimal digits. -/
def decimal? (t : Octets) : Option Nat :=
  if !t.isEmpty && t.all isDigit then some (valueOfDigits 10 t) else none

/-- The integer that octets are, if they are decimal digits after at most
    one sign. -/
def integer? (t : Octets) : Option Int :=
  match t with
  | '-' :: rest => (decimal? rest).map fun n => -(n : Int)
  | '+' :: rest => (decimal? rest).map fun n => (n : Int)
  | _ => (decimal? t).map fun n => (n : Int)

/-- The digits of a number to a base. -/
def digitsOf (base n : Nat) : Octets := Nat.toDigits base n

/-- Decimal digits of a number. -/
def decimal (n : Nat) : Octets := Nat.toDigits 10 n

/-- Decimal digits of an integer, after a minus sign below zero. -/
def signedDecimal (i : Int) : Octets :=
  if i < 0 then '-' :: decimal i.natAbs else decimal i.natAbs

/-! ## Layout -/

/-- Octets filled up on the left to a width. -/
def padLeft (fill : Char) (width : Nat) (t : Octets) : Octets :=
  List.replicate (width - t.length) fill ++ t

/-- Octets filled up on the right to a width. -/
def padRight (fill : Char) (width : Nat) (t : Octets) : Octets :=
  t ++ List.replicate (width - t.length) fill

/-- A number in digits to a base, filled up with zeros. -/
def zeroPadded (base width n : Nat) : Octets := padLeft '0' width (digitsOf base n)

/-- The pieces between the occurrences of a character, gathered in
    reverse. -/
def splitLoop (separator : Char) : Octets → Octets → List Octets → List Octets
  | [], piece, pieces => (piece.reverse :: pieces).reverse
  | c :: rest, piece, pieces =>
      if c == separator then splitLoop separator rest [] (piece.reverse :: pieces)
      else splitLoop separator rest (c :: piece) pieces

/-- The pieces between the occurrences of a character; there is one piece
    more than there are separators. -/
def splitOn (separator : Char) (t : Octets) : List Octets := splitLoop separator t [] []

/-- The lines of octets without their ends; a last line that is not ended
    counts as one. -/
def linesOf (t : Octets) : List Octets :=
  let pieces := splitOn '\n' t
  match pieces.getLast? with
  | some [] => pieces.dropLast
  | _ => pieces

/-- Octets joined with a separator between neighbours. -/
def joinWith (separator : Octets) (parts : List Octets) : Octets :=
  (parts.intersperse separator).flatten

/-- Whether octets end in others. -/
def endsWith (t tail : Octets) : Bool := tail.reverse.isPrefixOf t.reverse

/-- Octets without the white space at both ends. -/
def trimmed (t : Octets) : Octets :=
  ((t.dropWhile isSpace).reverse.dropWhile isSpace).reverse

/-- The order of octets by number. -/
def precedes : Octets → Octets → Bool
  | _, [] => false
  | [], _ :: _ => true
  | a :: s, b :: t => a < b || (a == b && precedes s t)

/-! ## Characters of UTF-8 -/

/-- The length of the character of UTF-8 at the start of octets; octets
    that start none stand alone. -/
def characterLength (t : Octets) : Nat :=
  match t with
  | [] => 0
  | c :: rest =>
      let n := c.toNat
      let follows := fun (low high : Nat) (d : Char) => low ≤ d.toNat && d.toNat ≤ high
      let tail := follows 0x80 0xBF
      if n < 0xC2 || n > 0xF4 then 1
      else if n < 0xE0 then
        match rest with
        | a :: _ => if tail a then 2 else 1
        | [] => 1
      else if n < 0xF0 then
        match rest with
        | a :: b :: _ =>
            let low := if n == 0xE0 then 0xA0 else 0x80
            let high := if n == 0xED then 0x9F else 0xBF
            if follows low high a && tail b then 3 else 1
        | _ => 1
      else
        match rest with
        | a :: b :: d :: _ =>
            let low := if n == 0xF0 then 0x90 else 0x80
            let high := if n == 0xF4 then 0x8F else 0xBF
            if follows low high a && tail b && tail d then 4 else 1
        | _ => 1

/-- Whether a character of UTF-8 is well formed. -/
def isWellFormed (character : Octets) : Bool :=
  match character with
  | [c] => c.toNat < 0x80
  | [] => false
  | _ => true

/-- The characters of UTF-8 in octets, gathered in reverse. -/
def charactersLoop : Nat → Octets → List Octets → List Octets
  | 0, _, found => found.reverse
  | _, [], found => found.reverse
  | fuel + 1, t, found =>
      let n := max 1 (characterLength t)
      charactersLoop fuel (t.drop n) (t.take n :: found)

/-- The characters of UTF-8 in octets. -/
def characters (t : Octets) : List Octets := charactersLoop t.length t []

/-- The number of the code point that a well-formed character stands
    for. -/
def codePointOf (character : Octets) : Nat :=
  match character.map Char.toNat with
  | [a] => a
  | [a, b] => (a % 0x20) * 0x40 + b % 0x40
  | [a, b, c] => ((a % 0x10) * 0x40 + b % 0x40) * 0x40 + c % 0x40
  | [a, b, c, d] => (((a % 8) * 0x40 + b % 0x40) * 0x40 + c % 0x40) * 0x40 + d % 0x40
  | _ => 0

/-! ## Tables by name -/

/-- Values under names, in the order of their first setting. -/
abbrev Table (β : Type) := List (String × β)

namespace Table

/-- The value under a name. -/
def find? {β : Type} (t : Table β) (name : String) : Option β := t.lookup name

/-- Sets the value under a name, which keeps its place. -/
def set {β : Type} (t : Table β) (name : String) (value : β) : Table β :=
  if t.any fun (n, _) => n == name then
    t.map fun (n, v) => if n == name then (n, value) else (n, v)
  else t ++ [(name, value)]

/-- Removes a name. -/
def erase {β : Type} (t : Table β) (name : String) : Table β :=
  t.filter fun (n, _) => n != name

end Table

end HermesBundle.Shell
