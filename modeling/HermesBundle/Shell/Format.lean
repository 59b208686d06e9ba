import HermesBundle.Shell.Arithmetic
import HermesBundle.Shell.Floating
import HermesBundle.Shell.Streams

/-! # Formats — escapes and the fields that arguments fill

    Escapes start with a backslash.  A format has fields that start with a
    percent sign, and is used again as long as it uses up arguments.  The
    shell and the program of the system differ in what they accept and in
    what they say of arguments that do not fit. -/

namespace HermesBundle.Shell

/-- Octets in which escapes were read, and whether they end the output. -/
structure Unescaped where
  text : Octets
  stops : Bool

/-- The escapes of one letter. -/
def letterEscape : Char → Option Char
  | 'a' => some '\x07'
  | 'b' => some '\x08'
  | 'e' => some '\x1b'
  | 'f' => some '\x0c'
  | 'n' => some '\n'
  | 'r' => some '\r'
  | 't' => some '\t'
  | 'v' => some '\x0b'
  | '\\' => some '\\'
  | _ => none

/-- The octet of at most three octal digits, and what follows them. -/
def octalOctet (t : Octets) : Char × Octets :=
  let digits := (t.take 3).takeWhile isOctal
  (Char.ofNat (valueOfDigits 8 digits % 256), t.drop digits.length)

/-- The octets of a code point in UTF-8. -/
def codePointOctets (n : Nat) : Octets := Octets.ofText [CodePoint.ofNat n]

/-- Which escapes are known. -/
inductive EscapeRule where
  /-- Those of a format of the shell. -/
  | shellFormat
  /-- Those of an argument of the shell. -/
  | shellArgument
  /-- Those of a format of the system. -/
  | systemFormat
  /-- Those of an argument of the system. -/
  | systemArgument
  /-- Those of the program that writes its arguments. -/
  | systemEcho
deriving DecidableEq

namespace EscapeRule

/-- Whether octal numbers start with a zero that does not count. -/
def skipsZero : EscapeRule → Bool
  | .shellArgument => true
  | .systemArgument => true
  | .systemEcho => true
  | _ => false

/-- Whether the output can be ended. -/
def canStop : EscapeRule → Bool
  | .shellFormat => false
  | _ => true

/-- Whether hexadecimal numbers are known. -/
def knowsHexadecimal : EscapeRule → Bool
  | .systemFormat => true
  | .systemArgument => true
  | .systemEcho => true
  | _ => false

/-- Whether code points are known. -/
def knowsCodePoints : EscapeRule → Bool
  | .systemFormat => true
  | .systemArgument => true
  | _ => false

end EscapeRule

/-- The octets of the escape after a backslash and what follows it; none if
    it ends the output. -/
def readEscape (rule : EscapeRule) (t : Octets) : Option (Octets × Octets) :=
  match t with
  | [] => some (['\\'], [])
  | c :: rest =>
      if c == 'c' && rule.canStop then none
      else if c == '0' && rule.skipsZero then
        let (d, rest) := octalOctet rest
        some ([d], rest)
      else if isOctal c then
        let (d, rest) := octalOctet t
        some ([d], rest)
      else if c == 'x' && rule.knowsHexadecimal && ((rest.head?.map isHexadecimal).getD false) then
        let digits := (rest.take 2).takeWhile isHexadecimal
        some ([Char.ofNat (valueOfDigits 16 digits)], rest.drop digits.length)
      else if (c == 'u' || c == 'U') && rule.knowsCodePoints then
        let digits := (rest.take (if c == 'u' then 4 else 8)).takeWhile isHexadecimal
        some (codePointOctets (valueOfDigits 16 digits), rest.drop digits.length)
      else if c == '\x22' && rule.knowsCodePoints then some ([c], rest)
      else
        match letterEscape c with
        | some d => some ([d], rest)
        | none => if rule.knowsHexadecimal then some (['\\', c], rest) else some (['\\'], t)

/-- Reads escapes; the octets read so far are in reverse. -/
def unescapeLoop (rule : EscapeRule) : Nat → Octets → Octets → Unescaped
  | 0, _, found => ⟨found.reverse, false⟩
  | _, [], found => ⟨found.reverse, false⟩
  | fuel + 1, c :: rest, found =>
      if c != '\\' then unescapeLoop rule fuel rest (c :: found)
      else
        match readEscape rule rest with
        | none => ⟨found.reverse, true⟩
        | some (t, rest) => unescapeLoop rule fuel rest (t.reverse ++ found)

/-- Octets with their escapes read. -/
def unescaped (rule : EscapeRule) (t : Octets) : Unescaped :=
  unescapeLoop rule (t.length + 1) t []

/-- A field of a format. -/
structure Directive where
  flags : Octets
  /-- The width, or the place of it among the arguments. -/
  width : Option (Option Nat)
  precision : Option (Option Nat)
  kind : Char
  /-- The field as it was written. -/
  source : Octets

/-- A number of a field, or a star for an argument. -/
def readFieldNumber (t : Octets) : Option (Option Nat) × Octets :=
  match t with
  | '*' :: rest => (some none, rest)
  | _ =>
      let digits := t.takeWhile isDigit
      if digits.isEmpty then (none, t)
      else (some (some (valueOfDigits 10 digits)), t.drop digits.length)

/-- Reads a field after its percent sign; none if the format ends in it. -/
def readDirective (skipsLengths : Bool) (t : Octets) : Option (Directive × Octets) :=
  let flags := t.takeWhile fun c => "#-+ 0'".toList.contains c
  let (width, rest) := readFieldNumber (t.drop flags.length)
  let (precision, rest) :=
    match rest with
    | '.' :: r =>
        let (p, r) := readFieldNumber r
        (some (p.getD (some 0)), r)
    | r => (none, r)
  let rest := if skipsLengths then rest.dropWhile fun c => "hlLjtz".toList.contains c else rest
  match rest with
  | [] => none
  | kind :: rest =>
      some (⟨flags, width, precision, kind, '%' :: t.take (t.length - rest.length)⟩, rest)

/-- A field filled up to its width. -/
def fitted (flags : Octets) (width : Nat) (t : Octets) : Octets :=
  if flags.contains '-' then padRight ' ' width t else padLeft ' ' width t

/-- A number with a sign and a mark in front, filled up to its width. -/
def fittedNumber (flags : Octets) (width : Nat) (zeros : Bool) (lead digits : Octets) : Octets :=
  if flags.contains '-' then padRight ' ' width (lead ++ digits)
  else if flags.contains '0' && zeros then
    lead ++ padLeft '0' (width - lead.length) digits
  else padLeft ' ' width (lead ++ digits)

/-- The sign that flags give a number. -/
def signOf (flags : Octets) (negative : Bool) : Octets :=
  if negative then ['-']
  else if flags.contains '+' then ['+']
  else if flags.contains ' ' then [' ']
  else []

/-- An integer as a field shows it. -/
def shownInteger (flags : Octets) (width : Nat) (precision : Option Nat) (kind : Char) (i : Int) :
    Octets :=
  let lengthened := fun (digits : Octets) =>
    match precision with
    | some 0 => if i == 0 then [] else digits
    | some p => padLeft '0' p digits
    | none => digits
  let zeros := precision.isNone
  match kind with
  | 'o' =>
      let digits := lengthened (digitsOf 8 (unsigned i))
      let digits := if flags.contains '#' && digits.head? != some '0' then '0' :: digits else digits
      fittedNumber flags width zeros [] digits
  | 'u' => fittedNumber flags width zeros [] (lengthened (digitsOf 10 (unsigned i)))
  | 'x' =>
      let lead := if flags.contains '#' && i != 0 then ['0', 'x'] else []
      fittedNumber flags width zeros lead (lengthened (digitsOf 16 (unsigned i)))
  | 'X' =>
      let lead := if flags.contains '#' && i != 0 then ['0', 'X'] else []
      fittedNumber flags width zeros lead ((lengthened (digitsOf 16 (unsigned i))).map raised)
  | _ => fittedNumber flags width zeros (signOf flags (i < 0)) (lengthened (decimal i.natAbs))

/-- A floating number as a field shows it. -/
def shownFloating (flags : Octets) (width : Nat) (precision : Option Nat) (kind : Char)
    (x : Floating) : Octets :=
  match x with
  | .finite negative m e =>
      let size := Floating.sizeText m e kind precision (flags.contains '#')
      let marked := kind == 'a' || kind == 'A'
      let lead := signOf flags negative ++ if marked then size.take 2 else []
      fittedNumber flags width true lead (if marked then size.drop 2 else size)
  | .infinite negative =>
      fitted flags width
        (signOf flags negative ++ Floating.specialText (.infinite false) (isCapital kind))
  | .nan negative =>
      fitted flags width (signOf flags negative ++ Floating.specialText (.nan false) (isCapital kind))
where
  /-- Whether a kind of field writes capital letters. -/
  isCapital (kind : Char) : Bool := 'A' ≤ kind && kind ≤ 'Z'

/-- How a number fills a field: whether all of it was used, and whether it
    is in range. -/
inductive Conversion where
  | whole
  | partly
  | nothing
  | outOfRange

/-- The integer an argument stands for. -/
def integerArgument (isSigned : Bool) (t : Octets) : Int × Conversion :=
  match t with
  | [] => (0, .whole)
  | quote :: rest =>
      if quote == '\x22' || quote == '\x27' then
        ((((rest.head?.map Char.toNat).getD 0 : Nat) : Int), .whole)
      else
        let (i, after) := leadingInteger t
        let limited :=
          if isSigned then clamped i
          else if i < 0 then max i (-(2 * wordHalf - 1 : Nat))
          else min i (2 * wordHalf - 1 : Nat)
        if after.length == t.length then (0, .nothing)
        else if !after.isEmpty then (limited, .partly)
        else if limited != i then (limited, .outOfRange)
        else (i, .whole)

/-- The floating number an argument stands for. -/
def floatingArgument (form : FloatingForm) (t : Octets) : Floating × Conversion :=
  match t with
  | [] => (.zero, .whole)
  | quote :: rest =>
      if quote == '\x22' || quote == '\x27' then
        (.finite false ((rest.head?.map Char.toNat).getD 0) 0, .whole)
      else
        match Floating.read form t with
        | none => (.zero, .nothing)
        | some (x, after) =>
            let names := (t.dropWhile isSpace).any fun c => lowered c == 'i'
            if !after.isEmpty then (x, .partly)
            else
              match x with
              | .infinite _ => (x, if names then .whole else .outOfRange)
              | _ => (x, .whole)

/-- Who fills formats: how complaints are made and what is accepted. -/
structure Formatter where
  isShell : Bool
  form : FloatingForm
  /-- Says something of an argument that does not fit. -/
  warn : Octets → Conversion → Run Unit
  /-- Refuses a format. -/
  refuse : String → Run Unit
  /-- The field that shows a text in the quotes of a shell, if there is
      one. -/
  quote : Option (Octets → Octets)

/-- What is left after a format was used: the arguments, the status and
    whether the output is over. -/
structure Filling where
  arguments : List String
  status : Nat
  stops : Bool

/-- Takes an argument as a number for a field. -/
def takeNumber (f : Formatter) (s : Filling) : Run (Int × Filling) := do
  match s.arguments with
  | [] => return (0, s)
  | argument :: rest => do
      let (i, conversion) := integerArgument true argument.toList
      let s := { s with arguments := rest }
      match conversion with
      | .whole => return (i, s)
      | conversion => do
          f.warn argument.toList conversion
          return (i, { s with status := 1 })

/-- The number of a part of a field, which may be an argument. -/
def fieldNumber (f : Formatter) (part : Option (Option Nat)) (s : Filling) :
    Run (Option Int × Filling) := do
  match part with
  | none => return (none, s)
  | some (some n) => return (some n, s)
  | some none => do
      let (i, s) ← takeNumber f s
      return (some i, s)

/-- Fills a field with an argument. -/
def fillField (f : Formatter) (d : Directive) (s : Filling) : Run Filling := do
  let (width, s) ← fieldNumber f d.width s
  let (precision, s) ← fieldNumber f d.precision s
  let flags := if (width.getD 0) < 0 then '-' :: d.flags else d.flags
  let width := (width.getD 0).natAbs
  let precision : Option Nat := precision.bind fun p => if p < 0 then none else some p.toNat
  let argument := (s.arguments.head?.getD "").toList
  let next := { s with arguments := s.arguments.tail }
  let cut := fun (t : Octets) =>
    match precision with
    | some n => t.take n
    | none => t
  let number := fun (conversion : Conversion) (t : Octets) => do
    match conversion with
    | .whole => do
        Run.print t
        return next
    | conversion => do
        f.warn argument conversion
        Run.print t
        return { next with status := 1 }
  if d.kind == 's' then
    Run.print (fitted flags width (cut argument))
    return next
  else if d.kind == 'c' then
    let shown := if s.arguments.isEmpty then ['\x00'] else [argument.head?.getD '\x00']
    Run.print (fitted flags width shown)
    return next
  else if d.kind == 'b' && (f.isShell || d.source == "%b".toList) then
    let u := unescaped (if f.isShell then .shellArgument else .systemArgument) argument
    Run.print (fitted flags width (cut u.text))
    return { next with stops := u.stops }
  else if d.kind == 'q' && f.quote.isSome && d.source == "%q".toList then
    Run.print ((f.quote.map fun q => q argument).getD [])
    return next
  else if "diouxX".toList.contains d.kind then
    let (i, conversion) := integerArgument (d.kind == 'd' || d.kind == 'i') argument
    number conversion (shownInteger flags width precision d.kind i)
  else if "aAeEfFgG".toList.contains d.kind then
    let (x, conversion) := floatingArgument f.form argument
    number conversion (shownFloating flags width precision d.kind x)
  else do
    let complaint :=
      if f.isShell then ": invalid directive" else ": invalid conversion specification"
    f.refuse (String.ofList d.source ++ complaint)
    return { s with status := if f.isShell then 2 else 1, stops := true }

/-- Goes through a format once. -/
def fillOnce (f : Formatter) : Nat → Octets → Filling → Run Filling
  | 0, _, s => return s
  | _, [], s => return s
  | fuel + 1, c :: rest, s => do
      if s.stops then return s
      else if c == '\\' then
        match readEscape (if f.isShell then .shellFormat else .systemFormat) rest with
        | none => return { s with stops := true }
        | some (t, rest) => do
            Run.print t
            fillOnce f fuel rest s
      else if c != '%' then
        let run := (c :: rest).takeWhile fun d => d != '%' && d != '\\'
        Run.print run
        fillOnce f fuel ((c :: rest).drop run.length) s
      else
        match rest with
        | '%' :: rest => do
            Run.print ['%']
            fillOnce f fuel rest s
        | _ =>
            match readDirective (!f.isShell) rest with
            | none => do
                f.refuse
                  (if f.isShell then "missing format character"
                    else String.ofList (c :: rest) ++ ": invalid conversion specification")
                return { s with status := if f.isShell then 2 else 1, stops := true }
            | some (d, rest) => do
                let s ← fillField f d s
                fillOnce f fuel rest s

/-- Goes through a format as long as it uses up arguments. -/
def fillAll (f : Formatter) (format : Octets) : Nat → Filling → Run Filling
  | 0, s => return s
  | fuel + 1, s => do
      let before := s.arguments.length
      let s ← fillOnce f (format.length + 1) format s
      if s.stops || s.arguments.isEmpty || s.arguments.length == before then return s
      else fillAll f format fuel s

end HermesBundle.Shell
