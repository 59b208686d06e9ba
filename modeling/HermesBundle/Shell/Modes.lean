import HermesBundle.Shell.Octets

/-! # Modes — who may do what with a file

    A mode is given by octal digits, or by clauses that add, take away or
    set permissions for the owner, the group and all others. -/

namespace HermesBundle.Shell

/-- What a clause does with permissions. -/
inductive ModeChange where
  | adds
  | removes
  | sets
deriving DecidableEq

/-- A change of a mode by one operator of a clause. -/
structure ModeAction where
  /-- Which classes are meant, as bits of the mode; none if the clause says
      nothing. -/
  who : Option Nat
  change : ModeChange
  /-- The permissions as letters. -/
  permissions : Octets

/-- The permissions of all classes and the marks that belong to them. -/
def allClasses : Nat := 0o7777

/-- The bits that belong to a class. -/
def classBits : Char → Option Nat
  | 'u' => some 0o4700
  | 'g' => some 0o2070
  | 'o' => some 0o1007
  | 'a' => some allClasses
  | _ => none

/-- The operator of a letter. -/
def modeChange? : Char → Option ModeChange
  | '+' => some .adds
  | '-' => some .removes
  | '=' => some .sets
  | _ => none

/-- Reads the actions of a clause after its classes. -/
def readActions (who : Option Nat) : Nat → Octets → List ModeAction → Option (List ModeAction)
  | 0, _, _ => none
  | _, [], found => some found.reverse
  | fuel + 1, c :: rest, found => do
      let change ← modeChange? c
      let letters := rest.takeWhile fun d => "rwxXstugo".toList.contains d
      readActions who fuel (rest.drop letters.length) (⟨who, change, letters⟩ :: found)

/-- Reads a clause. -/
def readClause (t : Octets) : Option (List ModeAction) :=
  let classes := t.takeWhile fun c => (classBits c).isSome
  let who :=
    if classes.isEmpty then none
    else some (classes.foldl (fun bits c => bits ||| (classBits c).getD 0) 0)
  let rest := t.drop classes.length
  if rest.isEmpty then none else readActions who (rest.length + 1) rest []

/-- Reads clauses. -/
def readClauses (t : Octets) : Option (List ModeAction) :=
  (splitOn ',' t).foldl
    (fun found clause => do return (← found) ++ (← readClause clause))
    (some [])

/-- The bits that permissions stand for in all classes, given a mode. -/
def permissionBits (mode : Nat) (isDirectory : Bool) (letters : Octets) : Nat :=
  letters.foldl
    (fun bits c =>
      bits ||| match c with
        | 'r' => 0o444
        | 'w' => 0o222
        | 'x' => 0o111
        | 'X' => if isDirectory || mode &&& 0o111 != 0 then 0o111 else 0
        | 's' => 0o6000
        | 't' => 0o1000
        | 'u' => (mode / 0o100 % 8) * 0o111
        | 'g' => (mode / 0o10 % 8) * 0o111
        | 'o' => (mode % 8) * 0o111
        | _ => 0)
    0

/-- The bits that are in one number and not in another. -/
def without (bits others : Nat) : Nat := bits - (bits &&& others)

/-- A mode after an action; a mask holds back what is given to no class by
    name. -/
def ModeAction.apply (a : ModeAction) (isDirectory : Bool) (mask mode : Nat) : Nat :=
  let wanted := permissionBits mode isDirectory a.permissions
  let bits :=
    match a.who with
    | some who => wanted &&& who
    | none => without wanted mask
  match a.change with
  | .adds => mode ||| bits
  | .removes => without mode bits
  | .sets =>
      -- The marks of a directory stay if they are not named.
      let cleared := (a.who.getD allClasses) &&& (if isDirectory then 0o1777 else allClasses)
      without mode cleared ||| bits

/-- What a description does to a mode; none if it is not understood. -/
def modeOf (description : Octets) : Option (Bool → Nat → Nat → Nat) :=
  if !description.isEmpty && description.all isOctal then
    let value := valueOfDigits 8 description
    if allClasses < value then none
    else
      some fun isDirectory _ mode =>
        if isDirectory && description.length < 5 then value ||| (mode &&& 0o6000) else value
  else
    (readClauses description).map fun actions isDirectory mask mode =>
      actions.foldl (fun mode a => a.apply isDirectory mask mode) mode

/-- The permissions of all classes, with the marks in the places of the
    permissions to execute. -/
def modeLetters (mode : Nat) : Octets :=
  let part := fun (bits : Nat) (isMarked : Bool) (letter : Char) =>
    [if bits &&& 4 != 0 then 'r' else '-', if bits &&& 2 != 0 then 'w' else '-',
      match isMarked, bits &&& 1 != 0 with
      | true, true => letter
      | true, false => raised letter
      | false, true => 'x'
      | false, false => '-']
  part (mode / 64 % 8) (mode &&& 0o4000 != 0) 's' ++ part (mode / 8 % 8) (mode &&& 0o2000 != 0) 's'
    ++ part (mode % 8) (mode &&& 0o1000 != 0) 't'

/-- The letters of the permissions of a class. -/
def classLetters (bits : Nat) : Octets :=
  (if bits &&& 4 != 0 then ['r'] else []) ++ (if bits &&& 2 != 0 then ['w'] else [])
    ++ (if bits &&& 1 != 0 then ['x'] else [])

end HermesBundle.Shell
