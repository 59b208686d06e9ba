import HermesBundle.Shell.Format

/-! # Data — what programs for records compute with

    A datum is a number or a text.  What comes from outside of the program
    is a text that counts as a number if it looks like one, and a variable
    that was never set counts as both nothing and zero. -/

namespace HermesBundle.Shell.Records

/-- A value. -/
inductive Datum where
  | unset
  | number (x : Float)
  | text (t : Octets)
  /-- Something read, which may look like a number. -/
  | input (t : Octets)

/-! ## Numbers -/

/-- The number at the start of a text; zero if there is none. -/
def leadingNumber (t : Octets) : Float :=
  match Floating.read .double t with
  | some (x, _) => x.toFloat
  | none => 0

/-- White space inside a line. -/
def isGap (c : Char) : Bool := c == ' ' || c == '\t' || ('\x0b' ≤ c && c ≤ '\r')

/-- The number that a text looks like, with nothing around it but blanks. -/
def apparentNumber (t : Octets) : Option Float :=
  let bare := t.dropWhile isGap
  let inner := (bare.reverse.dropWhile isGap).reverse
  let begins := inner.head?.any fun c => isDigit c || c == '+' || c == '-' || c == '.'
  let ends := inner.getLast?.any fun c => isDigit c || c == '.'
  if begins && ends then
    match Floating.read .double inner with
    | some (x, []) => some x.toFloat
    | _ => none
  else none

/-- The integer nearest to zero from a finite number; none for others. -/
def truncated (x : Float) : Option Int :=
  match Floating.ofFloat x with
  | .finite negative m e =>
      let n := if 0 ≤ e then m * Nat.pow 2 e.toNat else m / Nat.pow 2 (-e).toNat
      some (if negative then -(n : Int) else n)
  | _ => none

/-- The double of an integer. -/
def floatOf (i : Int) : Float := if i < 0 then -(Float.ofNat i.natAbs) else Float.ofNat i.natAbs

/-- The bounds of the integers that are written without a point. -/
def largestWord : Int := 18446744073709551615

/-- The least integer of a word with a sign. -/
def leastWord : Int := -9223372036854775808

/-- The digits of a number that is an integer of a word. -/
def integerText (x : Float) : Option Octets :=
  match truncated x with
  | some i =>
      -- The greatest word counts as equal to the number after it.
      if i == largestWord + 1 then some (signedDecimal largestWord)
      else if floatOf i == x && leastWord ≤ i && i ≤ largestWord then some (signedDecimal i)
      else none
  | none => none

/-- The integer of a number between bounds. -/
def clampedInteger (x : Float) (low high : Int) : Int :=
  match truncated x with
  | some i => max low (min high i)
  | none => if 0 < x then high else low

/-- What remains of a number after division by another one. -/
def floatRemainder (x y : Float) : Float :=
  match Floating.ofFloat x, Floating.ofFloat y with
  | .finite negative m e, .finite _ n k =>
      if n = 0 then x / 0 - x / 0
      else
        let low := min e k
        let a := m * Nat.pow 2 (e - low).toNat
        let b := n * Nat.pow 2 (k - low).toNat
        (Floating.finite negative (a % b) low).toFloat
  | .finite _ _ _, .infinite _ => x
  | _, _ => x / 0 - x / 0

namespace Datum

/-- A datum as a number. -/
def toNumber : Datum → Float
  | .unset => 0
  | .number x => x
  | .text t => leadingNumber t
  | .input t => leadingNumber t

/-- Whether a datum counts as true. -/
def isTrue : Datum → Bool
  | .unset => false
  | .number x => x != 0
  | .text t => !t.isEmpty
  | .input t =>
      match apparentNumber t with
      | some x => x != 0
      | none => !t.isEmpty

/-- A truth value as a number. -/
def ofBool (b : Bool) : Datum := .number (if b then 1 else 0)

/-- A count as a number. -/
def ofNat (n : Nat) : Datum := .number (Float.ofNat n)

/-- The number of a datum that counts as one. -/
def number? : Datum → Option Float
  | .unset => some 0
  | .number x => some x
  | .text _ => none
  | .input t => apparentNumber t

end Datum

/-! ## Formats -/

/-- Why a format cannot be filled. -/
inductive FormatFault where
  | tooFewArguments
  /-- A field that is none, by its number. -/
  | improper (number : Nat)

/-- A field of a format as programs for records know it. -/
structure Field where
  flags : Octets
  width : Option (Option Nat)
  precision : Option (Option Nat)
  lengths : Octets
  kind : Char

/-- Reads a field after its percent sign. -/
def readField (t : Octets) : Option (Field × Octets) :=
  let flags := t.takeWhile fun c => "-+ #0\x27".toList.contains c
  let (width, rest) := readFieldNumber (t.drop flags.length)
  let (precision, rest) :=
    match rest with
    | '.' :: r =>
        let (p, r) := readFieldNumber r
        (some (p.getD (some 0)), r)
    | r => (none, r)
  let lengths := rest.takeWhile fun c => c == 'l' || c == 'h'
  match rest.drop lengths.length with
  | [] => none
  | kind :: rest => some (⟨flags, width, precision, lengths, kind⟩, rest)

/-- A text by which numbers are written that are no integers. -/
abbrev NumberFormat := Octets

/-- The integer with a sign that has the same last bits as another one. -/
def signedBits (bits : Nat) (i : Int) : Int :=
  let whole : Int := Nat.pow 2 bits
  let n := i % whole
  if 2 * n < whole then n else n - whole

/-- A number as an integer of a word with a sign. -/
def wordOf (x : Float) : Int :=
  if x.isNaN then leastWord else clampedInteger x (leastWord + 1) (-leastWord - 1)

/-- A number as an integer that is shown with its sign. -/
def signedOf (x : Float) : Int :=
  if x.isNaN then leastWord else clampedInteger x (leastWord + 1) largestWord

/-- A number as an integer that is shown without a sign. -/
def unsignedOf (x : Float) : Int :=
  if x.isNaN then -leastWord
  else
    let i := clampedInteger x (-largestWord - 1) largestWord
    if i < -largestWord then 1 else if i < leastWord then -leastWord else i % (largestWord + 1)

/-- A number as a field of some kind shows it. -/
def shownNumber (flags : Octets) (width : Nat) (precision : Option Nat) (kind : Char)
    (lengths : Octets) (x : Float) : Octets :=
  let isShort := lengths == ['h']
  if kind == 'd' || kind == 'i' then
    let i := signedOf x
    shownInteger flags width precision 'd'
      (if lengths.isEmpty then i else signedBits (if isShort then 16 else 64) i)
  else if "ouxX".toList.contains kind then
    let i := unsignedOf x
    shownInteger flags width precision kind (if isShort then i % 65536 else i)
  else
    -- What is no number has a sign like the result of such an operation.
    let x := if x.isNaN then Floating.nan true else Floating.ofFloat x
    shownFloating flags width precision kind x

/-- A number written by a format with one field. -/
def writeNumber (format : NumberFormat) (x : Float) : Octets :=
  match integerText x with
  | some t => t
  | none => go (format.length + 1) format []
where
  /-- Fills the fields; the result is gathered in reverse. -/
  go : Nat → Octets → Octets → Octets
    | 0, _, done => done.reverse
    | _, [], done => done.reverse
    | _ + 1, ['%'], done => ('%' :: done).reverse
    | fuel + 1, '%' :: '%' :: rest, done => go fuel rest ('%' :: done)
    | fuel + 1, '%' :: rest, done =>
        match readField rest with
        | none => done.reverse
        | some (f, rest) =>
            let width := (f.width.bind id).getD 0
            let precision := f.precision.bind id
            go fuel rest
              ((shownNumber f.flags width precision f.kind [] x).reverse ++ done)
    | fuel + 1, c :: rest, done => go fuel rest (c :: done)

/-- Whether a text is a format for numbers: it has at most one field, and
    that is for a number. -/
def isNumberFormat (t : Octets) : Bool :=
  match (t.dropWhile (· != '%')) with
  | [] => true
  | _ :: rest =>
      match readField rest with
      | none => false
      | some (f, rest) =>
          "diouxXeEfgGcs".toList.contains f.kind && !rest.contains '%' &&
            f.width != some none && f.precision != some none

/-- A datum as a text. -/
def Datum.toText (format : NumberFormat) : Datum → Octets
  | .unset => []
  | .number x => writeNumber format x
  | .text t => t
  | .input t => t

/-- How far a format has been filled. -/
structure FillState where
  arguments : List Datum
  /-- The result so far, in reverse. -/
  done : Octets
  /-- How many fields there were. -/
  count : Nat

/-- The number of a part of a field, which may be an argument. -/
def takeFieldNumber (part : Option (Option Nat)) (arguments : List Datum) :
    Except FormatFault (Option Int × List Datum) :=
  match part, arguments with
  | none, arguments => .ok (none, arguments)
  | some (some n), arguments => .ok (some n, arguments)
  | some none, [] => .error .tooFewArguments
  | some none, a :: rest => .ok (some (clampedInteger a.toNumber (-2147483648) 2147483647), rest)

/-- The octet that a field for a character shows.  `readsTexts` says that a
    text which looks like a number is one. -/
def characterOf (readsTexts : Bool) (d : Datum) : Octets :=
  let ofNumber := fun (x : Float) =>
    [Char.ofNat (wordOf x % 256).toNat]
  match d with
  | .number x => ofNumber x
  | .unset => ['\x00']
  | .text t => if readsTexts then ofText ofNumber t else [t.head?.getD '\x00']
  | .input t => ofText ofNumber t
where
  /-- The octet of a text that may look like a number. -/
  ofText (ofNumber : Float → Octets) (t : Octets) : Octets :=
    match apparentNumber t with
    | some x => ofNumber x
    | none => [t.head?.getD '\x00']

/-- Fills a field with an argument. -/
def fillFormatField (numberFormat : NumberFormat) (readsTexts : Bool) (f : Field) (s : FillState) :
    Except FormatFault FillState := do
  let (width, arguments) ← takeFieldNumber f.width s.arguments
  let (precision, arguments) ← takeFieldNumber f.precision arguments
  let flags := if width.getD 0 < 0 then '-' :: f.flags else f.flags
  let width := (width.getD 0).natAbs
  let precision : Option Nat := precision.bind fun p => if p < 0 then none else some p.toNat
  let isLong := !f.lengths.isEmpty
  let show_ := fun (piece : Datum → Octets) =>
    match arguments with
    | [] => Except.error FormatFault.tooFewArguments
    | a :: rest => .ok { s with arguments := rest, done := (piece a).reverse ++ s.done }
  if f.kind == 's' && !isLong then
    show_ fun a =>
      let t := a.toText numberFormat
      fitted flags width (match precision with
        | some n => t.take n
        | none => t)
  else if f.kind == 'c' && !isLong then show_ fun a => fitted flags width (characterOf readsTexts a)
  else if "diouxX".toList.contains f.kind then
    show_ fun a => shownNumber flags width precision f.kind f.lengths a.toNumber
  else if "eEfgG".toList.contains f.kind && !isLong then
    show_ fun a => shownNumber flags width precision f.kind [] a.toNumber
  else .error (.improper s.count)

/-- Fills a format; what was done before a fault is kept. -/
def fillFormat (numberFormat : NumberFormat) (readsTexts : Bool) :
    Nat → Octets → FillState → Octets × Option FormatFault
  | 0, _, s => (s.done.reverse, none)
  | _, [], s => (s.done.reverse, none)
  | fuel + 1, '%' :: '%' :: rest, s => fillFormat numberFormat readsTexts fuel rest { s with done := '%' :: s.done }
  | fuel + 1, '%' :: rest, s =>
      let s := { s with count := s.count + 1 }
      if s.arguments.isEmpty then (s.done.reverse, some .tooFewArguments)
      else
        match readField rest with
        | none => (s.done.reverse, some (.improper s.count))
        | some (f, rest) =>
            match fillFormatField numberFormat readsTexts f s with
            | .ok s => fillFormat numberFormat readsTexts fuel rest s
            | .error fault => (s.done.reverse, some fault)
  | fuel + 1, c :: rest, s => fillFormat numberFormat readsTexts fuel rest { s with done := c :: s.done }

/-- A format with its fields filled. -/
def formatted (numberFormat : NumberFormat) (readsTexts : Bool) (format : Octets) (arguments : List Datum) :
    Octets × Option FormatFault :=
  -- A format ends where its first null octet is.
  let format := format.takeWhile (· != '\x00')
  fillFormat numberFormat readsTexts (format.length + 1) format ⟨arguments, [], 0⟩

/-! ## Comparisons -/

/-- The order of two data: as numbers if both count as such, and as texts
    otherwise.  What is no number is equal to every number. -/
def compareData (format : NumberFormat) (a b : Datum) : Ordering :=
  match a.number?, b.number? with
  | some x, some y => if x < y then .lt else if y < x then .gt else .eq
  | _, _ =>
      let s := a.toText format
      let t := b.toText format
      if s == t then .eq else if precedes s t then .lt else .gt

end HermesBundle.Shell.Records
