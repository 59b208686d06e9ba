import HermesBundle.Shell.Tools.Invocation

/-! # Quantities — numbers with units in the arguments of programs

    Counts are decimal numbers that may end in a unit.  A letter alone or
    with `iB` stands for a power of 1024, one with `B` for a power of
    1000. -/

namespace HermesBundle.Shell

/-- Why a text is no quantity. -/
inductive QuantityFault where
  | invalid
  | tooLarge
deriving DecidableEq

/-- The greatest quantity. -/
def quantityLimit : Nat := Nat.pow 2 64 - 1

/-- The exponent that the letter of a unit stands for. -/
def unitPower (c : Char) : Option Nat :=
  match c with
  | 'k' => some 1
  | 'K' => some 1
  | 'M' => some 2
  | 'm' => some 2
  | 'G' => some 3
  | 'g' => some 3
  | 'T' => some 4
  | 't' => some 4
  | 'P' => some 5
  | 'E' => some 6
  | 'Z' => some 7
  | 'Y' => some 8
  | 'R' => some 9
  | 'Q' => some 10
  | _ => none

/-- The factor of a unit among those that are allowed. -/
def unitFactor (allowed : String) (unit : Octets) : Option Nat :=
  match unit with
  | [] => some 1
  | c :: rest =>
      if !allowed.toList.contains c then none
      else
        match c, rest with
        | 'b', [] => some 512
        | 'B', [] => some 1024
        | 'c', [] => some 1
        | 'w', [] => some 2
        | _, _ =>
            match unitPower c with
            | none => none
            | some power =>
                if rest.isEmpty || rest == "iB".toList then some (Nat.pow 1024 power)
                else if rest == ['B'] || rest == ['D'] then some (Nat.pow 1000 power)
                else none

/-- The units of most counts. -/
def countUnits : String := "bEGKkMmPQRTYZ"

/-- A quantity without a sign. -/
def quantityOf (allowed : String) (t : Octets) : Except QuantityFault Nat :=
  let bare := t.dropWhile isSpace
  let bare := if bare.head? == some '+' then bare.drop 1 else bare
  let digits := bare.takeWhile isDigit
  let unit := bare.drop digits.length
  if digits.isEmpty then
    -- A unit alone stands for one of it.
    match unitFactor allowed unit with
    | some factor => if unit.isEmpty then .error .invalid else .ok factor
    | none => .error .invalid
  else
    match unitFactor allowed unit with
    | none => .error .invalid
    | some factor =>
        let n := valueOfDigits 10 digits * factor
        if quantityLimit < n then .error .tooLarge else .ok n

/-- A decimal number, with nothing around it but blanks in front. -/
def plainQuantity (t : Octets) : Except QuantityFault Nat := quantityOf "" t

/-- What is said of a text that is no quantity. -/
def faultText : QuantityFault → String
  | .invalid => ""
  | .tooLarge => ": Value too large for defined data type"

/-- The quantity of an argument that has to lie between bounds; anything
    else ends the program. -/
def boundedArgument (status : Nat) (allowed : String) (low high : Nat) (what t : String) : Run Nat := do
  let refuse := fun (cause : String) => do Run.quit status (what ++ ": " ++ (← Run.inQuotes t) ++ cause)
  match quantityOf allowed t.toList with
  | .error e => refuse (faultText e)
  | .ok n =>
      if n < low then refuse ": Numerical result out of range"
      else if high < n then
        refuse (if n ≤ 1073741823 then ": Numerical result out of range" else faultText .tooLarge)
      else return n

/-- The integer of an argument; anything else ends the program. -/
def signedArgument (status : Nat) (what t : String) : Run Int := do
  let cs := t.toList.dropWhile isSpace
  match integer? cs with
  | some n =>
      if n.natAbs < Nat.pow 2 63 then return n
      else Run.quit status (what ++ ": " ++ (← Run.inQuotes t) ++ faultText .tooLarge)
  | none => do Run.quit status (what ++ ": " ++ (← Run.inQuotes t))

end HermesBundle.Shell
