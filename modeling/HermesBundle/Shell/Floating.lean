import HermesBundle.Shell.Octets

/-! # Floating numbers — reading and writing them with exact digits

    A number is a mantissa times a power of two.  Reading rounds a decimal
    once, to some number of binary digits; writing rounds the exact value
    once, to some number of decimal digits.  Both go to the nearer
    neighbour, and to the even one of two that are equally near. -/

namespace HermesBundle.Shell

/-- A floating number. -/
inductive Floating where
  | finite (negative : Bool) (mantissa : Nat) (exponent : Int)
  | infinite (negative : Bool)
  | nan (negative : Bool)
deriving DecidableEq

/-- The quotient rounded to the nearest integer, a half to the even one. -/
def roundedQuotient (num den : Nat) : Nat :=
  let quotient := num / den
  let twice := 2 * (num % den)
  if twice < den then quotient
  else if twice > den then quotient + 1
  else if quotient % 2 = 0 then quotient
  else quotient + 1

/-- The number of binary digits. -/
def bitCount (n : Nat) : Nat := if n = 0 then 0 else n.log2 + 1

/-- How numbers are stored: the digits of a mantissa and the range of the
    exponents of its last digit. -/
structure FloatingForm where
  digits : Nat
  lowest : Int
  highest : Int

/-- Numbers of 64 bits. -/
def FloatingForm.double : FloatingForm := ⟨53, -1074, 971⟩

/-- Numbers of 80 bits. -/
def FloatingForm.extended : FloatingForm := ⟨64, -16445, 16320⟩

namespace Floating

/-- Zero. -/
def zero : Floating := .finite false 0 0

/-- A quotient of positive numbers in some form. -/
def ofQuotient (form : FloatingForm) (negative : Bool) (num den : Nat) : Floating :=
  if num = 0 then .finite negative 0 0
  else
    -- The exponent for which the mantissa has the wanted digits, or one more.
    let guess : Int := (bitCount num : Int) - bitCount den - form.digits
    let scaled := fun (e : Int) =>
      if 0 ≤ e then roundedQuotient num (den * Nat.pow 2 e.toNat)
      else roundedQuotient (num * Nat.pow 2 (-e).toNat) den
    let e := max guess form.lowest
    let (m, e) :=
      if bitCount (scaled e) ≤ form.digits then (scaled e, e)
      else if bitCount (scaled (e + 1)) ≤ form.digits then (scaled (e + 1), e + 1)
      else (Nat.pow 2 (form.digits - 1), e + 2)
    if form.highest < e || (form.highest = e && form.digits < bitCount m) then .infinite negative
    else .finite negative m e

/-- The number that bits of a double stand for. -/
def ofFloat (x : Float) : Floating :=
  let bits := x.toBits.toNat
  let negative := bits / Nat.pow 2 63 == 1
  let exponent := bits / Nat.pow 2 52 % 2048
  let fraction := bits % Nat.pow 2 52
  if exponent = 2047 then if fraction = 0 then .infinite negative else .nan negative
  else if exponent = 0 then .finite negative fraction (-1074)
  else .finite negative (fraction + Nat.pow 2 52) ((exponent : Int) - 1075)

/-- The double nearest to a number. -/
def toFloat (x : Floating) : Float :=
  match x with
  | .nan _ => 0.0 / 0.0
  | .infinite negative => if negative then -1.0 / 0.0 else 1.0 / 0.0
  | .finite negative m e =>
      let value := (Float.ofNat m).scaleB e
      if negative then -value else value

/-- Numerator and denominator of the size of a finite number. -/
def ratio (m : Nat) (e : Int) : Nat × Nat :=
  if 0 ≤ e then (m * Nat.pow 2 e.toNat, 1) else (m, Nat.pow 2 (-e).toNat)

/-! ## Writing -/

/-- The greatest power of ten that is at most a quotient, from a guess. -/
def adjustedExponent (num den : Nat) : Nat → Int → Int
  | 0, k => k
  | fuel + 1, k =>
      let atMost := fun (k : Int) =>
        if 0 ≤ k then den * Nat.pow 10 k.toNat ≤ num else den ≤ num * Nat.pow 10 (-k).toNat
      if !atMost k then adjustedExponent num den fuel (k - 1)
      else if atMost (k + 1) then adjustedExponent num den fuel (k + 1)
      else k

/-- The decimal exponent of a positive quotient. -/
def decimalExponent (num den : Nat) : Int :=
  let guess : Int := ((bitCount num : Int) - bitCount den) * 30103 / 100000
  adjustedExponent num den 8 guess

/-- The digits of a positive quotient, one before the point and some after
    it, and its decimal exponent. -/
def scientificDigits (num den places : Nat) : Octets × Int :=
  if num = 0 then (List.replicate (places + 1) '0', 0)
  else
    let k := decimalExponent num den
    let shift : Int := places - k
    let n :=
      if 0 ≤ shift then roundedQuotient (num * Nat.pow 10 shift.toNat) den
      else roundedQuotient num (den * Nat.pow 10 (-shift).toNat)
    let digits := decimal n
    if digits.length > places + 1 then (digits.take (places + 1), k + 1) else (digits, k)

/-- A sign for a negative number. -/
def signText (negative : Bool) : Octets := if negative then ['-'] else []

/-- The texts of numbers that are not finite. -/
def specialText (x : Floating) (isCapital : Bool) : Octets :=
  let t :=
    match x with
    | .nan negative => signText negative ++ "nan".toList
    | .infinite negative => signText negative ++ "inf".toList
    | .finite _ _ _ => []
  if isCapital then t.map raised else t

/-- A point and the digits after it, if there are any or the point is
    kept. -/
def afterPoint (keepsPoint : Bool) (digits : Octets) : Octets :=
  if digits.isEmpty && !keepsPoint then [] else '.' :: digits

/-- The size of a number with some number of places. -/
def fixedSize (m : Nat) (e : Int) (places : Nat) (keepsPoint : Bool) : Octets :=
  let (num, den) := ratio m e
  let n := roundedQuotient (num * Nat.pow 10 places) den
  let digits := zeroPadded 10 (places + 1) n
  digits.take (digits.length - places)
    ++ afterPoint keepsPoint (digits.drop (digits.length - places))

/-- An exponent as it is written. -/
def exponentText (letter : Char) (k : Int) : Octets :=
  [letter, if k < 0 then '-' else '+'] ++ zeroPadded 10 2 k.natAbs

/-- The size of a number with one digit before the point, some after it and
    an exponent. -/
def scientificSize (m : Nat) (e : Int) (places : Nat) (keepsPoint : Bool) (letter : Char) :
    Octets :=
  let (num, den) := ratio m e
  let (digits, k) := scientificDigits num den places
  digits.take 1 ++ afterPoint keepsPoint (digits.drop 1) ++ exponentText letter k

/-- Digits after the point without the zeros at their end. -/
def withoutFinalZeros (t : Octets) : Octets := (t.reverse.dropWhile (· == '0')).reverse

/-- The size of a number with some number of digits, with an exponent if it
    is very large or very small. -/
def generalSize (m : Nat) (e : Int) (count : Nat) (keepsZeros : Bool) (letter : Char) : Octets :=
  let count := max 1 count
  let (num, den) := ratio m e
  let (digits, k) := scientificDigits num den (count - 1)
  let shown := fun (whole tail : Octets) =>
    whole ++ afterPoint keepsZeros (if keepsZeros then tail else withoutFinalZeros tail)
  if -4 ≤ k && k < count then
    if 0 ≤ k then shown (digits.take (k.toNat + 1)) (digits.drop (k.toNat + 1))
    else shown ['0'] (List.replicate ((-k).toNat - 1) '0' ++ digits)
  else shown (digits.take 1) (digits.drop 1) ++ exponentText letter k

/-- The size of a number in hexadecimal digits. -/
def hexadecimalSize (m : Nat) (e : Int) (places : Option Nat) (keepsPoint : Bool) : Octets :=
  if m = 0 then "0x0".toList ++ afterPoint keepsPoint (List.replicate (places.getD 0) '0')
    ++ "p+0".toList
  else
    let bits := bitCount m
    -- A mantissa of 53 binary digits has one before the point.
    let m := if bits < 53 then m * Nat.pow 2 (53 - bits) else m
    let exponent : Int := e + bits - 1
    let (whole, fraction) :=
      match places with
      | none => (1, withoutFinalZeros (zeroPadded 16 13 (m % Nat.pow 2 52)))
      | some p =>
          if 13 ≤ p then
            (1, padRight '0' p (zeroPadded 16 13 (m % Nat.pow 2 52)))
          else
            let n := roundedQuotient m (Nat.pow 16 (13 - p))
            (n / Nat.pow 16 p, if p = 0 then [] else zeroPadded 16 p (n % Nat.pow 16 p))
    "0x".toList ++ decimal whole ++ afterPoint keepsPoint fraction ++ ['p']
      ++ (if exponent < 0 then ['-'] else ['+']) ++ decimal exponent.natAbs

/-- The text of the size of a finite number in one of the ways to print
    it. -/
def sizeText (m : Nat) (e : Int) (kind : Char) (precision : Option Nat) (isMarked : Bool) :
    Octets :=
  let places := precision.getD 6
  match kind with
  | 'f' => fixedSize m e places isMarked
  | 'F' => fixedSize m e places isMarked
  | 'e' => scientificSize m e places isMarked 'e'
  | 'E' => scientificSize m e places isMarked 'E'
  | 'g' => generalSize m e places isMarked 'e'
  | 'G' => generalSize m e places isMarked 'E'
  | 'a' => hexadecimalSize m e precision isMarked
  | _ => (hexadecimalSize m e precision isMarked).map raised

/-! ## Reading -/

/-- An exponent after its letter, if there is one, and what follows. -/
def readExponent (letter : Char) (t : Octets) : Option (Int × Octets) :=
  match t with
  | c :: rest =>
      if lowered c == letter then
        let (negative, digits) :=
          match rest with
          | '-' :: r => (true, r)
          | '+' :: r => (false, r)
          | r => (false, r)
        let taken := digits.takeWhile isDigit
        if taken.isEmpty then none
        else
          let n := valueOfDigits 10 taken
          let n := min n 100000
          some (if negative then -(n : Int) else n, digits.drop taken.length)
      else none
  | [] => none

/-- Digits with a point among them: their value, how many stand after the
    point, and what follows them; none if there are no digits. -/
def readDigits (base : Nat) (t : Octets) : Option (Nat × Nat × Octets) :=
  let inBase := fun c => digitValue c < base
  let whole := t.takeWhile inBase
  let after := t.drop whole.length
  let (fraction, rest) :=
    match after with
    | '.' :: r =>
        let f := r.takeWhile inBase
        if whole.isEmpty && f.isEmpty then ([], after) else (f, r.drop f.length)
    | r => ([], r)
  if whole.isEmpty && fraction.isEmpty then none
  else some (valueOfDigits base (whole ++ fraction), fraction.length, rest)

/-- The number at the start of octets, after blanks and a sign, and what
    follows it. -/
def read (form : FloatingForm) (t : Octets) : Option (Floating × Octets) :=
  let bare := t.dropWhile isSpace
  let (negative, t) :=
    match bare with
    | '-' :: rest => (true, rest)
    | '+' :: rest => (false, rest)
    | _ => (false, bare)
  let startsWord := fun (word : String) =>
    word.toList == (t.take word.length).map lowered
  if startsWord "infinity" then some (.infinite negative, t.drop 8)
  else if startsWord "inf" then some (.infinite negative, t.drop 3)
  else if startsWord "nan" then some (.nan negative, t.drop 3)
  else
    let isHexadecimal := startsWord "0x"
    match if isHexadecimal then readDigits 16 (t.drop 2) else none with
    | some (n, places, rest) =>
        let (k, rest) := (readExponent 'p' rest).getD (0, rest)
        let e := k - 4 * (places : Int)
        let value :=
          if 0 ≤ e then ofQuotient form negative (n * Nat.pow 2 e.toNat) 1
          else ofQuotient form negative n (Nat.pow 2 (-e).toNat)
        some (value, rest)
    | none =>
        match readDigits 10 t with
        | none => none
        | some (n, places, rest) =>
            let (k, rest) := (readExponent 'e' rest).getD (0, rest)
            let k := k - (places : Int)
            -- Exponents far out of range need no exact power.
            let k := max (-20000) (min 20000 k)
            let value :=
              if n = 0 then .finite negative 0 0
              else if 0 ≤ k then ofQuotient form negative (n * Nat.pow 10 k.toNat) 1
              else ofQuotient form negative n (Nat.pow 10 (-k).toNat)
            some (value, rest)

end Floating

end HermesBundle.Shell
