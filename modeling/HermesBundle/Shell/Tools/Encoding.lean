import HermesBundle.Shell.Tools.Quantity

/-! # Encoding — octets in few letters

    A code writes the bits of octets in letters for a few bits each.  A
    group of letters stands for whole octets; what is missing in the last
    group is filled up with signs that stand for nothing. -/

namespace HermesBundle.Shell.Tool

/-- A way to write octets in letters. -/
structure LetterCode where
  alphabet : Array Char
  /-- How many bits a letter stands for. -/
  bits : Nat
  /-- How many octets and letters a group has. -/
  octets : Nat
  letters : Nat
  /-- Whether the last group is filled up. -/
  isFilled : Bool
  /-- Whether the letters of a group that is not whole are read. -/
  readsParts : Bool
  /-- Whether the first bit of an octet counts least. -/
  isReversed : Bool

namespace LetterCode

/-- Capital letters, small letters and digits with two more signs. -/
def sixBits (last : String) : LetterCode :=
  ⟨("ABCDEFGHIJKLMNOPQRSTUVWXYZabcdefghijklmnopqrstuvwxyz0123456789" ++ last).toList.toArray, 6, 3, 4, true, true,
    false⟩

/-- Letters for five bits each. -/
def fiveBits (alphabet : String) : LetterCode := ⟨alphabet.toList.toArray, 5, 5, 8, true, false, false⟩

/-- Hexadecimal digits. -/
def fourBits : LetterCode := ⟨"0123456789ABCDEF".toList.toArray, 4, 1, 2, false, true, false⟩

/-- Binary digits. -/
def oneBit (isReversed : Bool) : LetterCode := ⟨['0', '1'].toArray, 1, 1, 8, false, true, isReversed⟩

/-- The code that is used most. -/
def usual : LetterCode := .sixBits "+/"

/-- The code with capital letters only. -/
def capital : LetterCode := .fiveBits "ABCDEFGHIJKLMNOPQRSTUVWXYZ234567"

/-- The codes by the names of their options. -/
def all : List (String × LetterCode) :=
  [("base64", usual), ("base64url", .sixBits "-_"), ("base32", capital),
   ("base32hex", .fiveBits "0123456789ABCDEFGHIJKLMNOPQRSTUV"), ("base16", fourBits),
   ("base2msbf", .oneBit false), ("base2lsbf", .oneBit true)]

/-- The sign that stands for nothing. -/
def filler : Char := '='

/-- The letters of a group. -/
def encodeGroup (k : LetterCode) (piece : Octets) : Octets :=
  let whole := piece ++ List.replicate (k.octets - piece.length) '\x00'
  let n := whole.foldl (fun n c => n * 256 + c.toNat) 0
  let used := (8 * piece.length + k.bits - 1) / k.bits
  let order := (List.range k.letters).map fun i => if k.isReversed then i else k.letters - 1 - i
  let letters := order.map fun i => k.alphabet.getD (n / Nat.pow 2 (k.bits * i) % Nat.pow 2 k.bits) filler
  letters.take used ++ List.replicate (k.letters - used) filler

/-- The letters of octets, gathered in reverse. -/
def encode (k : LetterCode) : Nat → Octets → Octets → Octets
  | 0, _, done => done.reverse
  | _, [], done => done.reverse
  | fuel + 1, t, done =>
      encode k fuel (t.drop k.octets) ((k.encodeGroup (t.take k.octets)).reverse ++ done)

/-- The value of a letter. -/
def value? (k : LetterCode) (c : Char) : Option Nat := k.alphabet.toList.findIdx? (· == c)

/-- How far a group has been read. -/
structure GroupState where
  /-- The bits that are not yet in an octet, and how many there are. -/
  pending : Nat
  count : Nat
  /-- How many letters have been read. -/
  place : Nat
  /-- Whether only signs that stand for nothing can follow. -/
  isOver : Bool
  isWrong : Bool
  /-- The octets, the latest first. -/
  done : Octets

/-- An octet of its bits. -/
def octetOf (k : LetterCode) (n : Nat) : Char :=
  if k.isReversed then
    Char.ofNat ((List.range 8).foldl (fun sum i => 2 * sum + n / Nat.pow 2 i % 2) 0)
  else Char.ofNat n

/-- Whether the last octets can end before a place of a group. -/
def canEnd (k : LetterCode) (place : Nat) : Bool :=
  (List.range k.octets).any fun n => 0 < n && (8 * n + k.bits - 1) / k.bits = place

/-- Reads a letter of a group. -/
def readLetter (k : LetterCode) (s : GroupState) (c : Char) : GroupState :=
  if s.isWrong then s
  else
    let next := { s with place := s.place + 1 }
    if k.isFilled && c == filler then
      if s.isOver || k.canEnd s.place then { next with isOver := true } else { s with isWrong := true }
    else
      match if s.isOver then none else k.value? c with
      | none => { s with isWrong := true }
      | some v =>
          let n := s.pending * Nat.pow 2 k.bits + v
          let count := s.count + k.bits
          if count < 8 then { next with pending := n, count := count }
          else
            let rest := count - 8
            { next with
              pending := n % Nat.pow 2 rest, count := rest
              done := k.octetOf (n / Nat.pow 2 rest) :: s.done }

/-- The octets of a group of letters, and whether it is a good one. -/
def decodeGroup (k : LetterCode) (piece : Octets) : Octets × Bool :=
  let isWhole := piece.length = k.letters
  if !isWhole && !k.readsParts then ([], false)
  else
    let s := piece.foldl (readLetter k) ⟨0, 0, 0, false, false, []⟩
    (s.done.reverse, isWhole && !s.isWrong)

/-- The octets of letters up to what is wrong, gathered in reverse, and
    whether nothing is wrong. -/
def decode (k : LetterCode) : Nat → Octets → Octets → Octets × Bool
  | 0, _, done => (done.reverse, true)
  | _, [], done => (done.reverse, true)
  | fuel + 1, t, done =>
      let (piece, isGood) := k.decodeGroup (t.take k.letters)
      let done := piece.reverse ++ done
      if isGood then decode k fuel (t.drop k.letters) done else (done.reverse, false)

end LetterCode

/-- Letters in lines of some width, gathered in reverse. -/
def inLines (width : Nat) : Nat → Octets → List Octets → Octets
  | 0, _, done => done.reverse.flatten
  | _, [], done => done.reverse.flatten
  | fuel + 1, t, done => inLines width fuel (t.drop width) ((t.take width ++ ['\n']) :: done)

/-- The width of lines if nothing else is said. -/
def usualLineWidth : Nat := 76

/-- Writes a file in letters, or reads letters. -/
def recode (k : LetterCode) (g : Given) : Run Nat := do
  match g.operands with
  | _ :: second :: _ => Run.extra 1 second
  | _ =>
      let width ← match g.value? "w" with
        | none => pure usualLineWidth
        | some v =>
            match plainQuantity v.toList with
            | .ok n => pure n
            | .error .tooLarge => pure 0
            | .error _ => do Run.quit 1 ("invalid wrap size: " ++ (← Run.inQuotes v))
      let name := g.operands.headD "-"
      match ← openInput name with
      | .error e => do
          fileFailure name e
          return 1
      | .ok i => do
          let r ← Run.readAll i.descriptor
          closeInput i
          match r with
          | .error e => Run.quit 1 ("read error: " ++ e.text)
          | .ok t =>
              if g.has "d" then do
                let isKept := fun (c : Char) =>
                  if g.has "i" then (k.value? c).isSome || c == LetterCode.filler else c != '\n'
                let letters := t.filter isKept
                let (octets, isGood) := k.decode (letters.length + 1) letters []
                Run.print octets
                if isGood then return 0 else Run.quit 1 "invalid input"
              else do
                let letters := k.encode (t.length + 1) t []
                Run.print (if width = 0 then letters else inLines width (letters.length + 1) letters [])
                return 0

/-- The options of codes. -/
def recodeOptions : List OptionSpec :=
  [flag 'd' "decode", flag 'i' "ignore-garbage", valued 'w' "wrap"]

/-- Writes a file in the letters of one code, or reads them. -/
def recodeAs (k : LetterCode) : Tool := fun arguments => do
  recode k (← given recodeOptions 1 arguments)

/-- Writes a file in the letters of some code, or reads them. -/
def basenc : Tool := fun arguments => do
  let g ← given (LetterCode.all.map (fun (name, _) => long name .none) ++ recodeOptions) 1 arguments
  match (g.last? (LetterCode.all.map (·.1))).bind fun name => LetterCode.all.lookup name with
  | some k => recode k g
  | none => Run.missing 1 "encoding type"

end HermesBundle.Shell.Tool
