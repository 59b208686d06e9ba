import HermesBundle.Shell.Variables

/-! # Arguments of builtins — options, numbers and settings

    A builtin takes the options that it knows from the front of its
    arguments.  What it cannot use, it refuses with a complaint that ends
    it. -/

namespace HermesBundle.Shell

/-- A builtin of the shell: what it does with its arguments. -/
abbrev Builtin := List String → Run Nat

/-- What options and operands arguments have. -/
structure Arguments where
  /-- The letters of the options in order, with their values. -/
  options : List (Char × String)
  operands : List String

namespace Arguments

/-- Whether an option was given. -/
def has (a : Arguments) (letter : Char) : Bool := a.options.any fun (l, _) => l == letter

/-- The last value of an option. -/
def value? (a : Arguments) (letter : Char) : Option String :=
  (a.options.reverse.find? fun (l, _) => l == letter).map (·.2)

end Arguments

/-- How a letter is known as an option: none if it is not, and whether it
    takes a value. -/
def optionKind (letters : Octets) (letter : Char) : Option Bool :=
  match letters with
  | [] => none
  | c :: rest => if c == letter then some (rest.head? == some ':') else optionKind rest letter

/-- Takes the options of one argument.  A value is the rest of the argument
    or the next one; what is left of the arguments is returned. -/
def takeLetters (known : Octets) :
    Octets → List String → List (Char × String) → Run (List (Char × String) × List String)
  | [], rest, found => return (found, rest)
  | c :: more, rest, found => do
      match optionKind known c with
      | none => Run.fail ("Illegal option -" ++ String.singleton c)
      | some false => takeLetters known more rest ((c, "") :: found)
      | some true =>
          match more, rest with
          | [], [] => Run.fail ("No arg for -" ++ String.singleton c ++ " option")
          | [], value :: rest => return ((c, value) :: found, rest)
          | more, rest => return ((c, String.ofList more) :: found, rest)

/-- Takes the options at the start of arguments; those found so far are in
    reverse. -/
def takeOptions (known : Octets) :
    Nat → List String → List (Char × String) → Run Arguments
  | 0, rest, found => return ⟨found.reverse, rest⟩
  | _, [], found => return ⟨found.reverse, []⟩
  | fuel + 1, argument :: rest, found =>
      match argument.toList with
      | '-' :: letters =>
          if letters.isEmpty then return ⟨found.reverse, argument :: rest⟩
          else if letters == ['-'] then return ⟨found.reverse, rest⟩
          else do
            let (found, rest) ← takeLetters known letters rest found
            takeOptions known fuel rest found
      | _ => return ⟨found.reverse, argument :: rest⟩

/-- Divides arguments into options and operands, given the letters of the
    options; a colon after a letter says that it takes a value. -/
def divideArguments (known : String) (arguments : List String) : Run Arguments :=
  takeOptions known.toList (arguments.length + 1) arguments []

/-- A number is refused. -/
def refuseNumber {α : Type} (t : String) : Run α := Run.fail ("Illegal number: " ++ t)

/-- The integer of an argument. -/
def integerArgumentOf (t : String) : Run Int := do
  match decimalInteger t.toList with
  | some i => return i
  | none => refuseNumber t

/-- The number of an argument, which is not negative. -/
def numberArgument (t : String) : Run Nat := do
  let i ← integerArgumentOf t
  if i < 0 || 0x7FFFFFFF < i then refuseNumber t else return i.toNat

/-- The name and the value of a setting. -/
def settingOf (argument : String) : String × Option String :=
  let t := argument.toList
  let name := t.takeWhile (· != '=')
  (String.ofList name,
    if name.length < t.length then some (String.ofList (t.drop (name.length + 1))) else none)

/-- Refuses what is no name of a variable. -/
def checkName (name : String) : Run Unit := do
  if isName name then return () else Run.fail (name ++ ": bad variable name")

/-- A text in quotes, so that it can be read back: double quotes around
    single ones, and single quotes around all else. -/
def readableQuotes : Nat → Octets → Octets
  | 0, _ => []
  | fuel + 1, t =>
      let plain := t.takeWhile (· != '\x27')
      let rest := t.drop plain.length
      let quotes := rest.takeWhile (· == '\x27')
      let left := rest.drop quotes.length
      ['\x27'] ++ plain ++ ['\x27']
        ++ (if quotes.isEmpty then [] else ['\x22'] ++ quotes ++ ['\x22'])
        ++ if left.isEmpty then [] else readableQuotes fuel left

/-- A text in quotes, so that it can be read back. -/
def inReadableQuotes (t : String) : String :=
  String.ofList (readableQuotes (t.length + 1) t.toList)

end HermesBundle.Shell
