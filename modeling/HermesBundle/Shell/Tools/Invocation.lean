import HermesBundle.Shell.Disk
import HermesBundle.Shell.Variables

/-! # Invocations — the options and complaints of programs

    Programs take options in short and long form among their operands.
    What they cannot use they refuse with a complaint that names them, and
    a hint.  Names in complaints are quoted where a shell would need
    that. -/

namespace HermesBundle.Shell

/-- A program of the system: what it does with its arguments. -/
abbrev Tool := List String → Run Nat

/-- Whether an option takes a value. -/
inductive ValueKind where
  | none
  | required
  | optional
deriving DecidableEq

/-- An option of a program. -/
structure OptionSpec where
  letter : Option Char
  name : String
  kind : ValueKind

namespace OptionSpec

/-- What an option is known by afterwards. -/
def key (o : OptionSpec) : String :=
  match o.letter with
  | some c => String.singleton c
  | none => o.name

end OptionSpec

/-- An option without a value. -/
def flag (letter : Char) (name : String) : OptionSpec := ⟨some letter, name, .none⟩

/-- An option with a value. -/
def valued (letter : Char) (name : String) : OptionSpec := ⟨some letter, name, .required⟩

/-- An option that has a long form only. -/
def long (name : String) (kind : ValueKind) : OptionSpec := ⟨none, name, kind⟩

/-- Options of one letter without values. -/
def flags (letters : String) : List OptionSpec := letters.toList.map fun c => ⟨some c, "", .none⟩

/-- What was given to a program. -/
structure Given where
  /-- The options in order, with their values. -/
  options : List (String × Option String)
  operands : List String

namespace Given

/-- Whether an option was given. -/
def has (g : Given) (key : String) : Bool := g.options.any fun (k, _) => k == key

/-- The last value of an option. -/
def value? (g : Given) (key : String) : Option String :=
  (g.options.reverse.find? fun (k, _) => k == key).bind (·.2)

/-- The values of an option in order. -/
def values (g : Given) (key : String) : List String :=
  g.options.filterMap fun (k, v) => if k == key then v else none

/-- The last one given of some options. -/
def last? (g : Given) (keys : List String) : Option String :=
  (g.options.reverse.find? fun (k, _) => keys.contains k).map (·.1)

end Given

/-! ## Quotes -/

/-- Whether programs with an environment write UTF-8.  The first variable
    that names a locale counts. -/
def writesUtf8 (valueOf : String → Option String) : Bool :=
  match (["LC_ALL", "LC_CTYPE", "LANG"].filterMap valueOf).find? fun locale => !locale.isEmpty with
  | some locale => ["C.UTF-8", "C.utf8"].contains locale
  | none => false

/-- Whether a character of UTF-8 can be shown as it is. -/
def isShowable (isUtf8 : Bool) (character : Octets) : Bool :=
  match character with
  | [c] => isPrintable c
  | _ => isUtf8 && 0xA0 ≤ codePointOf character

/-- The letter of an escape for a character, or its octal digits. -/
def escapeOf (c : Char) : Octets :=
  match c with
  | '\x07' => ['a']
  | '\x08' => ['b']
  | '\t' => ['t']
  | '\n' => ['n']
  | '\x0b' => ['v']
  | '\x0c' => ['f']
  | '\r' => ['r']
  | c => zeroPadded 8 3 c.toNat

/-- Characters in quotes of the shell; those that cannot be shown are in
    quotes of their own.  `isEscaping` says that such quotes are open. -/
def shellQuotedParts (isUtf8 isEscaping : Bool) : List Octets → Octets
  | [] => ['\x27']
  | character :: rest =>
      if isShowable isUtf8 character then
        (if character == ['\x27'] then "\x27\\\x27\x27".toList
          else if isEscaping then ['\x27', '\x27'] ++ character
          else character)
          ++ shellQuotedParts isUtf8 false rest
      else
        (if isEscaping then [] else "\x27$\x27".toList)
          ++ character.flatMap (fun c => '\\' :: escapeOf c)
          ++ shellQuotedParts isUtf8 true rest

/-- Whether a character stands for itself between double quotes as well. -/
def isPlainInDouble (isUtf8 : Bool) (character : Octets) : Bool :=
  isShowable isUtf8 character && !character.any fun c => "!\x22$&()*;<=>[^\x60|\\?#~\x7b\x7d".toList.contains c

/-- A text in quotes of the shell. -/
def shellQuoted (isUtf8 : Bool) (t : Octets) : Octets :=
  if t.contains '\x27' && (characters t).all (isPlainInDouble isUtf8) then ['\x22'] ++ t ++ ['\x22']
  else
    -- A text with a quote in it is gone through twice, and the second time
    -- begins as the first one has ended.
    let cs := characters t
    let begins := t.contains '\x27' && cs.getLast?.any fun character => !isShowable isUtf8 character
    '\x27' :: shellQuotedParts isUtf8 begins cs

/-- Whether a shell needs quotes around a text. -/
def needsQuotes (isUtf8 : Bool) (t : Octets) : Bool :=
  t.isEmpty || t.head? == some '#' || t.head? == some '~' || t == ['\x7b'] || t == ['\x7d']
    || t.any (fun c => " !\x22$&()*:;<=>[^\x60|\\\x27?".toList.contains c)
    || (characters t).any fun character => !isShowable isUtf8 character

/-- A text with escapes between the quotes of the locale. -/
def localeQuoted (isUtf8 : Bool) (t : Octets) : Octets :=
  let inner := (characters t).flatMap fun character =>
    if character == ['\\'] then "\\\\".toList
    else if character == ['\x27'] && !isUtf8 then "\\\x27".toList
    else if isShowable isUtf8 character then character
    else character.flatMap fun c => '\\' :: escapeOf c
  if isUtf8 then (utf8 "‘").toList ++ inner ++ (utf8 "’").toList
  else ['\x27'] ++ inner ++ ['\x27']

/-- How a program says how it is used when it refuses an option. -/
structure Usage where
  /-- What stands before the hint. -/
  lines : List String
  /-- Whether the hint begins with the name of the program. -/
  isNamed : Bool

/-- Nothing but the hint. -/
def Usage.plain : Usage := ⟨[], false⟩

namespace Run

/-- Whether the program writes UTF-8. -/
def isUtf8 : Run Bool := do
  let s ← get
  return writesUtf8 s.valueOf

/-- A name in quotes. -/
def quoted (name : String) : Run String := do
  return String.ofList (shellQuoted (← isUtf8) name.toList)

/-- A name, in quotes if a shell would need them. -/
def shownName (name : String) : Run String := do
  let isUtf8 ← isUtf8
  let t := name.toList
  return if needsQuotes isUtf8 t then String.ofList (shellQuoted isUtf8 t) else name

/-- A text in the quotes of the locale. -/
def inQuotes (t : String) : Run String := do
  return String.ofList (localeQuoted (← isUtf8) t.toList)

/-! ## Complaints -/

/-- Writes what the program has not yet written and then says something
    besides its output. -/
def remark (t : String) : Run Unit := do
  let _ ← flush
  report (t ++ "\n").toList

/-- The name by which the program was called. -/
def called : Run String := do
  return (← get).called

/-- A complaint of the program. -/
def objection (t : String) : Run Unit := do
  remark ((← called) ++ ": " ++ t)

/-- The hint after a complaint about how the program is used. -/
def hint : Run Unit := do
  remark ("Try \x27" ++ (← called) ++ " --help\x27 for more information.")

/-- A complaint that ends the program. -/
def quit {α : Type} (status : Nat) (t : String) : Run α := do
  objection t
  throw (.exited status)

/-- A complaint about how the program is used, which ends it. -/
def misuse {α : Type} (status : Nat) (t : String) : Run α := do
  objection t
  hint
  throw (.exited status)

/-- A complaint about an option, which ends the program; lines about its use
    can stand before the hint. -/
def refuseOption {α : Type} (use : Usage) (status : Nat) (t : String) : Run α := do
  objection t
  for line in use.lines do
    remark line
  if use.isNamed then objection ("Try \x27" ++ (← called) ++ " --help\x27 for more information.")
  else hint
  throw (.exited status)

/-- A complaint about a missing operand, which ends the program. -/
def missing {α : Type} (status : Nat) (what : String) : Run α := misuse status ("missing " ++ what)

/-- A complaint about an operand too much, which ends the program. -/
def extra {α : Type} (status : Nat) (operand : String) : Run α := do
  misuse status ("extra operand " ++ (← inQuotes operand))

end Run

/-! ## Options -/

/-- The options whose long names start in some way; an exact name is meant
    alone. -/
def matchingOptions (specs : List OptionSpec) (name : String) : List OptionSpec :=
  match specs.find? fun o => o.name == name && !name.isEmpty with
  | some o => [o]
  | none => specs.filter fun o => !o.name.isEmpty && name.toList.isPrefixOf o.name.toList

/-- Takes a long option.  What is left of the arguments is returned. -/
def takeLong (specs : List OptionSpec) (use : Usage) (status : Nat) (t : String) (rest : List String) :
    Run ((String × Option String) × List String) := do
  let cs := t.toList
  let name := String.ofList (cs.takeWhile (· != '='))
  let value : Option String :=
    if name.length < cs.length then some (String.ofList (cs.drop (name.length + 1))) else none
  match matchingOptions specs name with
  | [] => Run.refuseOption use status ("unrecognized option \x27--" ++ t ++ "\x27")
  | [o] =>
      match o.kind, value, rest with
      | .none, some _, _ =>
          Run.refuseOption use status ("option \x27--" ++ o.name ++ "\x27 doesn\x27t allow an argument")
      | .none, none, rest => return ((o.key, none), rest)
      | .optional, value, rest => return ((o.key, value), rest)
      | .required, some v, rest => return ((o.key, some v), rest)
      | .required, none, v :: rest => return ((o.key, some v), rest)
      | .required, none, [] =>
          Run.refuseOption use status ("option \x27--" ++ o.name ++ "\x27 requires an argument")
  | several =>
      if several.all fun o => o.key == (several.headD ⟨none, "", .none⟩).key then
        let o := several.headD ⟨none, "", .none⟩
        return ((o.key, value), rest)
      else
        let names := several.map fun o => " \x27--" ++ o.name ++ "\x27"
        Run.refuseOption use status
          ("option \x27--" ++ t ++ "\x27 is ambiguous; possibilities:" ++ String.join names)

/-- Takes the short options of an argument; those found so far are in
    reverse. -/
def takeShort (specs : List OptionSpec) (use : Usage) (status : Nat) :
    Octets → List String → List (String × Option String) →
    Run (List (String × Option String) × List String)
  | [], rest, found => return (found, rest)
  | c :: more, rest, found => do
      match specs.find? fun o => o.letter == some c with
      | none => Run.refuseOption use status ("invalid option -- \x27" ++ String.singleton c ++ "\x27")
      | some o =>
          match o.kind, more, rest with
          | .none, _, _ => takeShort specs use status more rest ((o.key, none) :: found)
          | .optional, [], _ => return ((o.key, none) :: found, rest)
          | .optional, more, _ => return ((o.key, some (String.ofList more)) :: found, rest)
          | .required, [], [] =>
              Run.refuseOption use status ("option requires an argument -- \x27" ++ String.singleton c ++ "\x27")
          | .required, [], v :: rest => return ((o.key, some v) :: found, rest)
          | .required, more, _ => return ((o.key, some (String.ofList more)) :: found, rest)

/-- Takes the options from among operands, or up to the first operand. -/
def takeGiven (specs : List OptionSpec) (use : Usage) (status : Nat) (takesAll : Bool) :
    Nat → List String → List (String × Option String) → List String → Run Given
  | 0, rest, found, operands => return ⟨found.reverse, operands.reverse ++ rest⟩
  | _, [], found, operands => return ⟨found.reverse, operands.reverse⟩
  | fuel + 1, argument :: rest, found, operands =>
      match argument.toList with
      | ['-', '-'] => return ⟨found.reverse, operands.reverse ++ rest⟩
      | '-' :: '-' :: t => do
          let (o, rest) ← takeLong specs use status (String.ofList t) rest
          takeGiven specs use status takesAll fuel rest (o :: found) operands
      | '-' :: c :: t => do
          let (found, rest) ← takeShort specs use status (c :: t) rest found
          takeGiven specs use status takesAll fuel rest found operands
      | _ =>
          if takesAll then takeGiven specs use status takesAll fuel rest found (argument :: operands)
          else return ⟨found.reverse, operands.reverse ++ argument :: rest⟩

/-- The options and operands of a program; its misuse gives a status. -/
def given (specs : List OptionSpec) (status : Nat) (arguments : List String) : Run Given :=
  takeGiven specs .plain status true (arguments.length + 1) arguments [] []

/-- The options and operands of a program that says in its own way how it is
    used. -/
def givenForUse (specs : List OptionSpec) (use : Usage) (status : Nat)
    (arguments : List String) : Run Given :=
  takeGiven specs use status true (arguments.length + 1) arguments [] []

/-- The options up to the first operand, and the operands. -/
def givenBefore (specs : List OptionSpec) (status : Nat) (arguments : List String) : Run Given :=
  takeGiven specs .plain status false (arguments.length + 1) arguments [] []

/-! ## Inputs -/

/-- What a program reads: a descriptor and the name it was given by. -/
structure Input where
  name : String
  descriptor : Nat

/-- Opens a file, or takes the standard input for a dash. -/
def openInput (name : String) : Run (Except Errno Input) := do
  if name == "-" then
    modify fun s => { s with hasTaken := true }
    return .ok ⟨name, 0⟩
  else return (← Run.openAs name .read).map fun d => ⟨name, d⟩

/-- Closes what a program has read. -/
def closeInput (i : Input) : Run Unit :=
  if i.descriptor = 0 then Run.keepUnread 0 []
  else do
    Run.keepUnread i.descriptor []
    Run.close i.descriptor

/-- Everything in an input. -/
def inputContent (name : String) : Run (Except Errno Octets) := do
  match ← openInput name with
  | .error e => return .error e
  | .ok i => do
      let t ← Run.readAll i.descriptor
      closeInput i
      return t

/-- A complaint about a file, with its cause. -/
def fileFailure (name : String) (e : Errno) : Run Unit := do
  Run.objection ((← Run.shownName name) ++ ": " ++ e.text)

/-- What the input that a program was given is called. -/
def inputTitle : String := "standard input"

/-- What the output of a program is called. -/
def outputTitle : String := "standard output"

/-- The name of an input in quotes if it was given by a dash. -/
def titledName (name : String) : Run String :=
  if name == "-" then Run.quoted inputTitle else Run.shownName name

/-- Closes at the end of a program what it has read; a failure is complained
    about under a label. -/
def closeTaken (label : String) (status : Nat) : Run Nat := do
  if (← get).hasTaken && (← Run.opening 0).isNone then
    Run.objection (label ++ ": " ++ Errno.badDescriptor.text)
    return max 1 status
  else return status

/-- Complains about an argument that is none of some words, which ends the
    program. -/
def refuseWord {α : Type} (option : String) (words : List String) (t : String) : Run α := do
  Run.objection ("invalid argument " ++ (← Run.inQuotes t) ++ " for " ++ (← Run.inQuotes option))
  Run.remark "Valid arguments are:"
  for name in words do
    Run.remark ("  - " ++ (← Run.inQuotes name))
  Run.hint
  throw (.exited 1)

/-- The word that an argument is, which may be cut. -/
def wordArgument (option : String) (words : List String) (t : String) : Run String :=
  match words.filter fun name => t.toList.isPrefixOf name.toList with
  | name :: _ => return name
  | [] => refuseWord option words t

/-- The worst status of a piece of work over arguments. -/
def overall {α : Type} (piece : α → Run Nat) : List α → Nat → Run Nat
  | [], status => return status
  | a :: rest, status => do
      let here ← piece a
      overall piece rest (max status here)

end HermesBundle.Shell
