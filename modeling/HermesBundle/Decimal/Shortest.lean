import HermesBundle.Decimal.Double

/-! # Shortest decimals — the fewest digits that read back

    A double is written with the least number of significant digits for
    which some decimal of that length still rounds to it; of several such
    decimals the nearest one is taken.  The layout of the digits is a
    record of its own. -/

namespace HermesBundle

namespace Double

/-- Whether `candidate / den` rounds to the double with the given mantissa
    and scale, all in units of the least double.  The interval of values
    that round to it is closed iff the mantissa is even. -/
def readsBack (mantissa scale candidate den : Nat) : Bool :=
  -- Quarter units keep the midpoints integral.
  let value := 4 * (mantissa * Nat.pow 2 scale)
  let step := Nat.pow 2 scale
  let above := value + 2 * step
  let below := if mantissa = Nat.pow 2 52 && scale > 0 then value - step else value - 2 * step
  let position := 4 * candidate
  if mantissa % 2 = 0 then below * den ≤ position && position ≤ above * den
  else below * den < position && position < above * den

/-- The grid of `10 ^ exponent` in units of the least double, as a
    fraction. -/
def gridUnit (exponent : Int) : Nat × Nat :=
  match exponent with
  | .ofNat e => (Nat.pow 10 e * unitScale, 1)
  | .negSucc e => (unitScale, Nat.pow 10 (e + 1))

/-- The nearest multiple of `10 ^ exponent` that reads back as the double,
    if a neighbour of its value on that grid does. -/
def onGrid? (mantissa scale : Nat) (exponent : Int) : Option Nat :=
  let value := mantissa * Nat.pow 2 scale
  let (num, den) := gridUnit exponent
  let low := value * den / num
  let fits := fun k : Nat => k > 0 && readsBack mantissa scale (k * num) den
  let nearLow := value * den - low * num
  let nearHigh := (low + 1) * num - value * den
  let lowFirst := nearLow < nearHigh || (nearLow == nearHigh && low % 2 == 0)
  if lowFirst then
    if fits low then some low else if fits (low + 1) then some (low + 1) else none
  else
    if fits (low + 1) then some (low + 1) else if fits low then some low else none

/-- Searches the grids from the coarsest to finer ones, `fuel` of them. -/
def searchGrids (mantissa scale : Nat) (exponent : Int) : Nat → Nat × Int
  | 0 => (0, 0)
  | fuel + 1 =>
      match onGrid? mantissa scale exponent with
      | some k => (k, exponent)
      | none => searchGrids mantissa scale (exponent - 1) fuel

/-- Removes trailing zeros of a decimal. -/
def normalise (digits : Nat) (exponent : Int) : Nat → Nat × Int
  | 0 => (digits, exponent)
  | fuel + 1 =>
      if digits % 10 = 0 && digits > 0 then normalise (digits / 10) (exponent + 1) fuel
      else (digits, exponent)

/-- The shortest decimal of a positive finite double: digits and
    exponent. -/
def shortest (mantissa scale : Nat) : Nat × Int :=
  let value := mantissa * Nat.pow 2 scale
  -- An upper bound of the decimal exponent of the value.
  let binary : Int := (bitLength value : Int) - 1074
  let top : Int := binary * 30103 / 100000 + 1
  let (digits, exponent) := searchGrids mantissa scale top 22
  normalise digits exponent 22

end Double

/-- How the digits of a double are laid out: from which decimal exponents
    on an exponent is written, and the names of the values that have no
    digits. -/
structure DoubleLayout where
  smallest : Int
  largest : Int
  exponentDigits : Nat
  nan : String
  infinity : String

/-- Zeros. -/
def Text.zeros (n : Nat) : Text := List.replicate n (.ofChar '0')

/-- The exponent part: sign and at least the given number of digits. -/
def DoubleLayout.exponentText (layout : DoubleLayout) (e : Int) : Text :=
  let digits := Text.ofNat e.natAbs
  Text.ofString (if e < 0 then "e-" else "e+")
    ++ Text.zeros (layout.exponentDigits - digits.length) ++ digits

/-- The text of a double. -/
def DoubleLayout.render (layout : DoubleLayout) : Double → Text
  | .nan => layout.nan
  | .infinite negative => Text.ofString (if negative then "-" else "") ++ Text.ofString layout.infinity
  | .finite negative mantissa scale =>
      let sign := Text.ofString (if negative then "-" else "")
      if mantissa = 0 then sign ++ Text.ofString "0.0"
      else
        let (number, exponent) := Double.shortest mantissa scale
        let digits := Text.ofNat number
        -- The decimal exponent of the first digit.
        let lead : Int := exponent + digits.length - 1
        if layout.smallest ≤ lead && lead < layout.largest then
          if exponent ≥ 0 then sign ++ digits ++ Text.zeros exponent.toNat ++ Text.ofString ".0"
          else if lead ≥ 0 then
            let whole := (lead + 1).toNat
            sign ++ digits.take whole ++ Text.ofString "." ++ digits.drop whole
          else sign ++ Text.ofString "0." ++ Text.zeros (-lead - 1).toNat ++ digits
        else
          match digits with
          | [] => sign
          | [d] => sign ++ [d] ++ layout.exponentText lead
          | d :: rest => sign ++ [d] ++ Text.ofString "." ++ rest ++ layout.exponentText lead

end HermesBundle
