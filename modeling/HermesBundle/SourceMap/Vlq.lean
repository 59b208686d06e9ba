import HermesBundle.SourceMap.Fault

/-! # Variable-length quantities — integers as base64 digits

    An integer is written in groups of five bits, the least significant
    group first.  The lowest bit of the first group is the sign; a sixth
    bit in each digit says that more groups follow.  A code therefore
    ends by itself, and codes can be written one after another. -/

namespace HermesBundle.SourceMap.Vlq

/-- The digit with a value below 64. -/
def digit (n : Nat) : CodePoint :=
  if n < 26 then .ofNat (0x41 + n)
  else if n < 52 then .ofNat (0x61 + (n - 26))
  else if n < 62 then .ofNat (0x30 + (n - 52))
  else if n = 62 then .ofNat 0x2B
  else .ofNat 0x2F

/-- The value of a digit. -/
def digitValue? (c : CodePoint) : Option Nat :=
  if 0x41 ≤ c.val && c.val ≤ 0x5A then some (c.val - 0x41)
  else if 0x61 ≤ c.val && c.val ≤ 0x7A then some (c.val - 0x61 + 26)
  else if 0x30 ≤ c.val && c.val ≤ 0x39 then some (c.val - 0x30 + 52)
  else if c.val = 0x2B then some 62
  else if c.val = 0x2F then some 63
  else none

/-- An integer with its sign in the lowest bit. -/
def foldSign (i : Int) : Nat :=
  if i < 0 then 2 * i.natAbs + 1 else 2 * i.natAbs

/-- The integer whose sign is in the lowest bit. -/
def unfoldSign (n : Nat) : Int :=
  if n % 2 = 1 then -((n / 2 : Nat) : Int) else ((n / 2 : Nat) : Int)

/-- The digits of a natural number, the least significant group first. -/
def encodeNat (n : Nat) : Text :=
  if n < 32 then [digit n]
  else digit (n % 32 + 32) :: encodeNat (n / 32)
termination_by n
decreasing_by omega

/-- The code of an integer. -/
def encode (i : Int) : Text := encodeNat (foldSign i)

/-- Reads codes up to the end of a piece.  `value` and `shift` belong to
    the code that has begun; `piece` is the whole text, for the report. -/
def decodeFrom (piece : Text) (value shift : Nat) : Text → Except Fault (List Int)
  | [] => if shift = 0 then .ok [] else .error (.truncatedSegment piece)
  | c :: rest =>
      match digitValue? c with
      | none => .error (.invalidDigit c)
      | some d =>
          let value := value + d % 32 * Nat.pow 2 shift
          if 32 ≤ d then decodeFrom piece value (shift + 5) rest
          else
            match decodeFrom piece 0 0 rest with
            | .error e => .error e
            | .ok values => .ok (unfoldSign value :: values)

/-- The integers of a run of codes. -/
def decode (piece : Text) : Except Fault (List Int) := decodeFrom piece 0 0 piece

end HermesBundle.SourceMap.Vlq
