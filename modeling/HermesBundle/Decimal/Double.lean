import HermesBundle.Text.CodePoint

/-! # Doubles — binary floating point of 64 bits, unpacked

    A finite double is a mantissa below 2 ^ 53 times a power of two.  All
    arithmetic is exact on naturals and rounded once, to the nearest
    double and to the even one of two equally near. -/

namespace HermesBundle

/-- A double.  A finite one has the value `mantissa * 2 ^ (scale - 1074)`,
    negated if `negative`; the mantissa is at least 2 ^ 52 unless the scale
    is 0. -/
inductive Double where
  | nan
  | infinite (negative : Bool)
  | finite (negative : Bool) (mantissa scale : Nat)
deriving DecidableEq

namespace Double

/-- How many times the least double is contained in one. -/
def unitScale : Nat := Nat.pow 2 1074

theorem pow_two_pos (n : Nat) : 0 < Nat.pow 2 n := Nat.pow_pos (by decide)

theorem unitScale_pos : 0 < unitScale := by
  unfold unitScale
  generalize 1074 = n
  exact pow_two_pos n

/-- Number of binary digits. -/
def bitLength (n : Nat) : Nat := if n = 0 then 0 else n.log2 + 1

/-- The quotient rounded to the nearest integer, a half to the even one. -/
def divideRounding (num den : Nat) : Nat :=
  let quotient := num / den
  let twice := 2 * (num % den)
  if twice < den then quotient
  else if twice > den then quotient + 1
  else if quotient % 2 = 0 then quotient
  else quotient + 1

/-- A mantissa below or at 2 ^ 53 put into its final form. -/
def pack (negative : Bool) (mantissa scale : Nat) : Double :=
  let (mantissa, scale) :=
    if mantissa = Nat.pow 2 53 then (Nat.pow 2 52, scale + 1) else (mantissa, scale)
  if scale > 2045 then .infinite negative else .finite negative mantissa scale

/-- The double nearest to `num / den`, where `den` is not 0. -/
def ofRatio (negative : Bool) (num den : Nat) : Double :=
  if num = 0 then .finite negative 0 0
  else
    let scaled := num * unitScale
    let digits := bitLength scaled - bitLength den
    -- The quotient has `digits` or `digits + 1` binary digits.
    let wide := if scaled ≥ den * Nat.pow 2 digits then digits + 1 else digits
    let scale := wide - 53
    pack negative (divideRounding scaled (den * Nat.pow 2 scale)) scale

/-- The double nearest to an integer. -/
def ofInt (i : Int) : Double := ofRatio (i < 0) i.natAbs 1

/-- The double nearest to `digits * 10 ^ exponent`, where `digits` has
    `count` decimal digits.  Far exponents are decided by size alone. -/
def ofDecimal (negative : Bool) (digits count : Nat) (exponent : Int) : Double :=
  if digits = 0 then .finite negative 0 0
  else if (count : Int) + exponent > 400 then .infinite negative
  else if (count : Int) + exponent < -400 then .finite negative 0 0
  else
    match exponent with
    | .ofNat e => ofRatio negative (digits * Nat.pow 10 e) 1
    | .negSucc e => ofRatio negative digits (Nat.pow 10 (e + 1))

/-- The value of a finite double in units of the least one. -/
def units (negative : Bool) (mantissa scale : Nat) : Int :=
  let value := mantissa * Nat.pow 2 scale
  if negative then -(value : Int) else (value : Int)

/-- The sum of two doubles. -/
def add : Double → Double → Double
  | .nan, _ => .nan
  | _, .nan => .nan
  | .infinite a, .infinite b => if a = b then .infinite a else .nan
  | .infinite a, _ => .infinite a
  | _, .infinite b => .infinite b
  | .finite a m s, .finite b n t =>
      let sum := units a m s + units b n t
      if sum = 0 then .finite (a && b) 0 0
      else ofRatio (sum < 0) sum.natAbs unitScale

/-- Zero of either sign. -/
def isZero : Double → Bool
  | .finite _ 0 _ => true
  | _ => false

end Double

end HermesBundle
