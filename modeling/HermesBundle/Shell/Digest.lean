import HermesBundle.Shell.Octets

/-! # Digests — short values that stand for long texts

    A digest goes through a text in blocks of words and mixes each block
    into a few words that it keeps.  A word is a number below a power of
    two; what would not fit is cut off.  A text is filled up to whole
    blocks, and its length is in what fills it. -/

namespace HermesBundle.Shell.Digest

/-! ## Words -/

/-- The number of words of some width in bits. -/
def modulus (width : Nat) : Nat := Nat.pow 2 width

/-- A sum of words. -/
def plus (width : Nat) (summands : List Nat) : Nat := summands.foldl (· + ·) 0 % modulus width

/-- A word with its bits turned to the right. -/
def turned (width n x : Nat) : Nat :=
  Nat.lor (x / Nat.pow 2 n) (x * Nat.pow 2 (width - n) % modulus width)

/-- A word with its bits turned to the left. -/
def turnedLeft (width n x : Nat) : Nat := turned width (width - n) x

/-- A word with all bits changed. -/
def negated (width x : Nat) : Nat := modulus width - 1 - x

/-- The bits in which an odd number of words have a one. -/
def parity (words : List Nat) : Nat := words.foldl Nat.xor 0

/-- The bits of one word where a condition has ones, and those of another
    one elsewhere. -/
def chosen (width condition x y : Nat) : Nat :=
  Nat.xor (Nat.land condition x) (Nat.land (negated width condition) y)

/-- The bits that most of three words have. -/
def majority (x y z : Nat) : Nat := parity [Nat.land x y, Nat.land x z, Nat.land y z]

/-- The number of octets, the last one of which counts least. -/
def ofGreatFirst (t : Octets) : Nat := t.foldl (fun n c => n * 256 + c.toNat) 0

/-- The number of octets, the first one of which counts least. -/
def ofSmallFirst (t : Octets) : Nat := ofGreatFirst t.reverse

/-- Some number of octets of a number, the first one of which counts least. -/
def smallFirst : Nat → Nat → Octets
  | 0, _ => []
  | count + 1, n => Char.ofNat (n % 256) :: smallFirst count (n / 256)

/-- Some number of octets of a number, the last one of which counts least. -/
def greatFirst (count n : Nat) : Octets := (smallFirst count n).reverse

/-- A text in pieces of some length, gathered in reverse. -/
def inPieces (size : Nat) : Nat → Octets → List Octets → List Octets
  | 0, _, found => found.reverse
  | _, [], found => found.reverse
  | fuel + 1, t, found => inPieces size fuel (t.drop size) (t.take size :: found)

/-- The words of a block. -/
def wordsOf (size : Nat) (number : Octets → Nat) (block : Octets) : Array Nat :=
  ((inPieces size block.length block []).map number).toArray

/-- A text in whole blocks: after it there are a bit, as few zeros as can be,
    and its length in bits. -/
def blocksOf (size : Nat) (lengthOctets : Octets) (t : Octets) : List Octets :=
  let used := t.length + 1 + lengthOctets.length
  let zeros := List.replicate ((size - used % size) % size) '\x00'
  let whole := t ++ '\x80' :: zeros ++ lengthOctets
  inPieces size whole.length whole []

/-- A word of a block; blocks have as many words as are asked for. -/
def wordAt (words : Array Nat) (i : Nat) : Nat := words.getD i 0

/-- Words added to others one by one. -/
def addedWords (width : Nat) (xs ys : List Nat) : List Nat :=
  xs.zipWith (fun x y => plus width [x, y]) ys

/-! ## Message digests -/

/-- What is added in each step: the first bits of the sines of the numbers
    of the steps. -/
def sineWords : Array Nat :=
  [0xD76AA478, 0xE8C7B756, 0x242070DB, 0xC1BDCEEE, 0xF57C0FAF, 0x4787C62A, 0xA8304613, 0xFD469501,
   0x698098D8, 0x8B44F7AF, 0xFFFF5BB1, 0x895CD7BE, 0x6B901122, 0xFD987193, 0xA679438E, 0x49B40821,
   0xF61E2562, 0xC040B340, 0x265E5A51, 0xE9B6C7AA, 0xD62F105D, 0x02441453, 0xD8A1E681, 0xE7D3FBC8,
   0x21E1CDE6, 0xC33707D6, 0xF4D50D87, 0x455A14ED, 0xA9E3E905, 0xFCEFA3F8, 0x676F02D9, 0x8D2A4C8A,
   0xFFFA3942, 0x8771F681, 0x6D9D6122, 0xFDE5380C, 0xA4BEEA44, 0x4BDECFA9, 0xF6BB4B60, 0xBEBFBC70,
   0x289B7EC6, 0xEAA127FA, 0xD4EF3085, 0x04881D05, 0xD9D4D039, 0xE6DB99E5, 0x1FA27CF8, 0xC4AC5665,
   0xF4292244, 0x432AFF97, 0xAB9423A7, 0xFC93A039, 0x655B59C3, 0x8F0CCC92, 0xFFEFF47D, 0x85845DD1,
   0x6FA87E4F, 0xFE2CE6E0, 0xA3014314, 0x4E0811A1, 0xF7537E82, 0xBD3AF235, 0x2AD7D2BB, 0xEB86D391].toArray

/-- By how much words are turned in each quarter. -/
def messageTurns : List (List Nat) := [[7, 12, 17, 22], [5, 9, 14, 20], [4, 11, 16, 23], [6, 10, 15, 21]]

/-- A step of a message digest. -/
def messageStep (words : Array Nat) (state : List Nat) (i : Nat) : List Nat :=
  match state with
  | [a, b, c, d] =>
      let (mixed, place) :=
        match i / 16 with
        | 0 => (chosen 32 b c d, i)
        | 1 => (chosen 32 d b c, 5 * i + 1)
        | 2 => (parity [b, c, d], 3 * i + 5)
        | _ => (Nat.xor c (Nat.lor b (negated 32 d)), 7 * i)
      let turn := ((messageTurns.getD (i / 16) []).getD (i % 4) 0)
      let sum := plus 32 [a, mixed, wordAt sineWords i, wordAt words (place % 16)]
      [d, plus 32 [b, turnedLeft 32 turn sum], b, c]
  | state => state

/-- The message digest of a text. -/
def message (t : Octets) : Octets :=
  let start := [0x67452301, 0xEFCDAB89, 0x98BADCFE, 0x10325476]
  let state := (blocksOf 64 (smallFirst 8 (8 * t.length)) t).foldl
    (fun state block =>
      addedWords 32 state ((List.range 64).foldl (messageStep (wordsOf 4 ofSmallFirst block)) state))
    start
  state.flatMap (smallFirst 4)

/-! ## The first secure hash -/

/-- A block with further words that are mixed from earlier ones. -/
def firstSchedule (words : Array Nat) : Array Nat :=
  (List.range 64).foldl
    (fun w i => w.push (turnedLeft 32 1
      (parity [wordAt w (i + 13), wordAt w (i + 8), wordAt w (i + 2), wordAt w i]))) words

/-- A step of the first secure hash. -/
def firstStep (schedule : Array Nat) (state : List Nat) (i : Nat) : List Nat :=
  match state with
  | [a, b, c, d, e] =>
      let (mixed, constant) :=
        match i / 20 with
        | 0 => (chosen 32 b c d, 0x5A827999)
        | 1 => (parity [b, c, d], 0x6ED9EBA1)
        | 2 => (majority b c d, 0x8F1BBCDC)
        | _ => (parity [b, c, d], 0xCA62C1D6)
      [plus 32 [turnedLeft 32 5 a, mixed, e, constant, wordAt schedule i], a, turnedLeft 32 30 b, c, d]
  | state => state

/-- The first secure hash of a text. -/
def first (t : Octets) : Octets :=
  let start := [0x67452301, 0xEFCDAB89, 0x98BADCFE, 0x10325476, 0xC3D2E1F0]
  let state := (blocksOf 64 (greatFirst 8 (8 * t.length)) t).foldl
    (fun state block =>
      let schedule := firstSchedule (wordsOf 4 ofGreatFirst block)
      addedWords 32 state ((List.range 80).foldl (firstStep schedule) state))
    start
  state.flatMap (greatFirst 4)

/-! ## The second secure hashes -/

/-- The first bits after the point of the cube roots of the first eighty
    primes. -/
def rootWords : Array Nat :=
  [0x428A2F98D728AE22, 0x7137449123EF65CD, 0xB5C0FBCFEC4D3B2F, 0xE9B5DBA58189DBBC,
   0x3956C25BF348B538, 0x59F111F1B605D019, 0x923F82A4AF194F9B, 0xAB1C5ED5DA6D8118,
   0xD807AA98A3030242, 0x12835B0145706FBE, 0x243185BE4EE4B28C, 0x550C7DC3D5FFB4E2,
   0x72BE5D74F27B896F, 0x80DEB1FE3B1696B1, 0x9BDC06A725C71235, 0xC19BF174CF692694,
   0xE49B69C19EF14AD2, 0xEFBE4786384F25E3, 0x0FC19DC68B8CD5B5, 0x240CA1CC77AC9C65,
   0x2DE92C6F592B0275, 0x4A7484AA6EA6E483, 0x5CB0A9DCBD41FBD4, 0x76F988DA831153B5,
   0x983E5152EE66DFAB, 0xA831C66D2DB43210, 0xB00327C898FB213F, 0xBF597FC7BEEF0EE4,
   0xC6E00BF33DA88FC2, 0xD5A79147930AA725, 0x06CA6351E003826F, 0x142929670A0E6E70,
   0x27B70A8546D22FFC, 0x2E1B21385C26C926, 0x4D2C6DFC5AC42AED, 0x53380D139D95B3DF,
   0x650A73548BAF63DE, 0x766A0ABB3C77B2A8, 0x81C2C92E47EDAEE6, 0x92722C851482353B,
   0xA2BFE8A14CF10364, 0xA81A664BBC423001, 0xC24B8B70D0F89791, 0xC76C51A30654BE30,
   0xD192E819D6EF5218, 0xD69906245565A910, 0xF40E35855771202A, 0x106AA07032BBD1B8,
   0x19A4C116B8D2D0C8, 0x1E376C085141AB53, 0x2748774CDF8EEB99, 0x34B0BCB5E19B48A8,
   0x391C0CB3C5C95A63, 0x4ED8AA4AE3418ACB, 0x5B9CCA4F7763E373, 0x682E6FF3D6B2B8A3,
   0x748F82EE5DEFB2FC, 0x78A5636F43172F60, 0x84C87814A1F0AB72, 0x8CC702081A6439EC,
   0x90BEFFFA23631E28, 0xA4506CEBDE82BDE9, 0xBEF9A3F7B2C67915, 0xC67178F2E372532B,
   0xCA273ECEEA26619C, 0xD186B8C721C0C207, 0xEADA7DD6CDE0EB1E, 0xF57D4F7FEE6ED178,
   0x06F067AA72176FBA, 0x0A637DC5A2C898A6, 0x113F9804BEF90DAE, 0x1B710B35131C471B,
   0x28DB77F523047D84, 0x32CAAB7B40C72493, 0x3C9EBE0A15C9BEBC, 0x431D67C49C100D4C,
   0x4CC5D4BECB3E42B6, 0x597F299CFC657E2A, 0x5FCB6FAB3AD6FAEC, 0x6C44198C4A475817].toArray

/-- A hash of the second family. -/
structure Secure where
  /-- The width of its words in bits. -/
  width : Nat
  rounds : Nat
  /-- By how much words are turned when they are mixed. -/
  wide : List Nat × List Nat
  /-- By how much words are turned in the schedule; the last numbers are of
      a shift. -/
  narrow : List Nat × List Nat
  start : List Nat
  /-- How many octets of the result are kept. -/
  size : Nat

namespace Secure

/-- Hashes with short words. -/
def short (start : List Nat) (size : Nat) : Secure :=
  ⟨32, 64, ([2, 13, 22], [6, 11, 25]), ([7, 18, 3], [17, 19, 10]), start, size⟩

/-- Hashes with long words. -/
def wide_ (start : List Nat) (size : Nat) : Secure :=
  ⟨64, 80, ([28, 34, 39], [14, 18, 41]), ([1, 8, 7], [19, 61, 6]), start, size⟩

/-- The constant of a round. -/
def constant (k : Secure) (i : Nat) : Nat := wordAt rootWords i / Nat.pow 2 (64 - k.width)

/-- A word turned in some ways, mixed. -/
def mixedWide (k : Secure) (turns : List Nat) (x : Nat) : Nat :=
  parity (turns.map fun n => turned k.width n x)

/-- A word turned in two ways and shifted, mixed. -/
def mixedNarrow (k : Secure) (turns : List Nat) (x : Nat) : Nat :=
  match turns with
  | [m, n, shift] => parity [turned k.width m x, turned k.width n x, x / Nat.pow 2 shift]
  | _ => x

/-- A block with further words that are mixed from earlier ones. -/
def schedule (k : Secure) (words : Array Nat) : Array Nat :=
  (List.range (k.rounds - 16)).foldl
    (fun w i => w.push (plus k.width
      [k.mixedNarrow k.narrow.2 (wordAt w (i + 14)), wordAt w (i + 9),
       k.mixedNarrow k.narrow.1 (wordAt w (i + 1)), wordAt w i])) words

/-- A round. -/
def round (k : Secure) (schedule : Array Nat) (state : List Nat) (i : Nat) : List Nat :=
  match state with
  | [a, b, c, d, e, f, g, h] =>
      let x := plus k.width
        [h, k.mixedWide k.wide.2 e, chosen k.width e f g, k.constant i, wordAt schedule i]
      let y := plus k.width [k.mixedWide k.wide.1 a, majority a b c]
      [plus k.width [x, y], a, b, c, plus k.width [d, x], e, f, g]
  | state => state

/-- The hash of a text. -/
def hash (k : Secure) (t : Octets) : Octets :=
  let size := k.width / 8
  let state := (blocksOf (16 * size) (greatFirst (2 * size) (8 * t.length)) t).foldl
    (fun state block =>
      let schedule := k.schedule (wordsOf size ofGreatFirst block)
      addedWords k.width state ((List.range k.rounds).foldl (k.round schedule) state))
    k.start
  (state.flatMap (greatFirst size)).take k.size

end Secure

/-- The first bits after the point of the square roots of the first eight
    primes. -/
def squareWords : List Nat :=
  [0x6A09E667F3BCC908, 0xBB67AE8584CAA73B, 0x3C6EF372FE94F82B, 0xA54FF53A5F1D36F1,
   0x510E527FADE682D1, 0x9B05688C2B3E6C1F, 0x1F83D9ABFB41BD6B, 0x5BE0CD19137E2179]

/-- The first bits after the point of the square roots of the next eight
    primes. -/
def nextSquareWords : List Nat :=
  [0xCBBB9D5DC1059ED8, 0x629A292A367CD507, 0x9159015A3070DD17, 0x152FECD8F70E5939,
   0x67332667FFC00B31, 0x8EB44A8768581511, 0xDB0C2E0D64F98FA7, 0x47B5481DBEFA4FA4]

/-- The hash of 256 bits. -/
def secure256 : Secure := .short (squareWords.map (· / modulus 32)) 32

/-- The hash of 224 bits. -/
def secure224 : Secure := .short (nextSquareWords.map (· % modulus 32)) 28

/-- The hash of 512 bits. -/
def secure512 : Secure := .wide_ squareWords 64

/-- The hash of 384 bits. -/
def secure384 : Secure := .wide_ nextSquareWords 48

/-! ## A hash of any length -/

/-- In which order each round takes the words of a block. -/
def blakeOrders : List (List Nat) :=
  [[0, 1, 2, 3, 4, 5, 6, 7, 8, 9, 10, 11, 12, 13, 14, 15],
   [14, 10, 4, 8, 9, 15, 13, 6, 1, 12, 0, 2, 11, 7, 5, 3],
   [11, 8, 12, 0, 5, 2, 15, 13, 10, 14, 3, 6, 7, 1, 9, 4],
   [7, 9, 3, 1, 13, 12, 11, 14, 2, 6, 5, 10, 4, 0, 15, 8],
   [9, 0, 5, 7, 2, 4, 10, 15, 14, 1, 11, 12, 6, 8, 3, 13],
   [2, 12, 6, 10, 0, 11, 8, 3, 4, 13, 7, 5, 15, 14, 1, 9],
   [12, 5, 1, 15, 14, 13, 4, 10, 0, 7, 6, 3, 9, 2, 8, 11],
   [13, 11, 7, 14, 12, 1, 3, 9, 5, 0, 15, 4, 8, 6, 2, 10],
   [6, 15, 14, 9, 11, 3, 0, 8, 12, 2, 13, 7, 1, 4, 10, 5],
   [10, 2, 8, 4, 7, 6, 1, 5, 15, 11, 9, 14, 3, 12, 13, 0]]

/-- Mixes four words of a state with two words of a block. -/
def blakeMix (v : Array Nat) (places : List Nat) (x y : Nat) : Array Nat :=
  match places with
  | [i, j, k, l] =>
      let a := plus 64 [wordAt v i, wordAt v j, x]
      let d := turned 64 32 (Nat.xor (wordAt v l) a)
      let c := plus 64 [wordAt v k, d]
      let b := turned 64 24 (Nat.xor (wordAt v j) c)
      let a := plus 64 [a, b, y]
      let d := turned 64 16 (Nat.xor d a)
      let c := plus 64 [c, d]
      let b := turned 64 63 (Nat.xor b c)
      (((v.setIfInBounds i a).setIfInBounds j b).setIfInBounds k c).setIfInBounds l d
  | _ => v

/-- The words of a state that are mixed with each other: by columns first,
    then by diagonals. -/
def blakePlaces : List (List Nat) :=
  [[0, 4, 8, 12], [1, 5, 9, 13], [2, 6, 10, 14], [3, 7, 11, 15],
   [0, 5, 10, 15], [1, 6, 11, 12], [2, 7, 8, 13], [3, 4, 9, 14]]

/-- A round with the words of a block in some order. -/
def blakeRound (words : Array Nat) (v : Array Nat) (order : List Nat) : Array Nat :=
  blakePlaces.zipIdx.foldl
    (fun v (places, i) =>
      blakeMix v places (wordAt words (order.getD (2 * i) 0)) (wordAt words (order.getD (2 * i + 1) 0)))
    v

/-- Mixes a block into the words that are kept; `count` is the length of the
    text up to its end. -/
def blakeBlock (state : List Nat) (block : Octets) (count : Nat) (isLast : Bool) : List Nat :=
  let tail := squareWords.zipIdx.map fun (w, i) =>
    match i with
    | 4 => Nat.xor w (count % modulus 64)
    | 5 => Nat.xor w (count / modulus 64)
    | 6 => if isLast then negated 64 w else w
    | _ => w
  let orders := blakeOrders ++ blakeOrders.take 2
  let v := orders.foldl (blakeRound (wordsOf 8 ofSmallFirst block)) (state ++ tail).toArray
  state.zipIdx.map fun (h, i) => parity [h, wordAt v i, wordAt v (i + 8)]

/-- The hash of a text, of some number of octets. -/
def blake (size : Nat) (t : Octets) : Octets :=
  let start := squareWords.zipIdx.map fun (w, i) => if i = 0 then parity [w, 0x01010000, size] else w
  let blocks := inPieces 128 t.length t []
  let blocks := if blocks.isEmpty then [[]] else blocks
  let state := blocks.zipIdx.foldl
    (fun state (block, i) =>
      let filled := block ++ List.replicate (128 - block.length) '\x00'
      blakeBlock state filled (128 * i + block.length) (i + 1 = blocks.length))
    start
  (state.flatMap (smallFirst 8)).take size

/-! ## A hash with two schedules -/

/-- A word mixed with itself turned to the left in two ways. -/
def spread (m n x : Nat) : Nat := parity [x, turnedLeft 32 m x, turnedLeft 32 n x]

/-- A block with further words that are mixed from earlier ones. -/
def twofoldSchedule (words : Array Nat) : Array Nat :=
  (List.range 52).foldl
    (fun w i => w.push (parity
      [spread 15 23 (parity [wordAt w i, wordAt w (i + 7), turnedLeft 32 15 (wordAt w (i + 13))]),
       turnedLeft 32 7 (wordAt w (i + 3)), wordAt w (i + 10)])) words

/-- A round with a word of the schedule and the difference of two words. -/
def twofoldRound (schedule : Array Nat) (state : List Nat) (i : Nat) : List Nat :=
  match state with
  | [a, b, c, d, e, f, g, h] =>
      let (left, right, constant) :=
        if i < 16 then (parity [a, b, c], parity [e, f, g], 0x79CC4519)
        else (majority a b c, chosen 32 e f g, 0x7A879D8A)
      let turnedA := turnedLeft 32 12 a
      let x := turnedLeft 32 7 (plus 32 [turnedA, e, turnedLeft 32 (i % 32) constant])
      let difference := Nat.xor (wordAt schedule i) (wordAt schedule (i + 4))
      let first := plus 32 [left, d, Nat.xor x turnedA, difference]
      let second := plus 32 [right, h, x, wordAt schedule i]
      [first, a, turnedLeft 32 9 b, c, spread 9 17 second, e, turnedLeft 32 19 f, g]
  | state => state

/-- The hash with two schedules of a text. -/
def twofold (t : Octets) : Octets :=
  let start :=
    [0x7380166F, 0x4914B2B9, 0x172442D7, 0xDA8A0600, 0xA96F30BC, 0x163138AA, 0xE38DEE4D, 0xB0FB0E4E]
  let state := (blocksOf 64 (greatFirst 8 (8 * t.length)) t).foldl
    (fun state block =>
      let schedule := twofoldSchedule (wordsOf 4 ofGreatFirst block)
      state.zipWith Nat.xor ((List.range 64).foldl (twofoldRound schedule) state))
    start
  state.flatMap (greatFirst 4)

/-! ## Sums -/

/-- A remainder with the bits of an octet taken in. -/
def remainderAfter (r : Nat) (c : Char) : Nat :=
  (List.range 8).foldl
    (fun r _ => if modulus 31 ≤ r then Nat.xor (2 * r % modulus 32) 0x04C11DB7 else 2 * r)
    (Nat.xor r (c.toNat * modulus 24))

/-- The octets of a length, the first one of which counts least, without
    zeros at their end. -/
def lengthOctets : Nat → Nat → Octets
  | 0, _ => []
  | _, 0 => []
  | fuel + 1, n => Char.ofNat (n % 256) :: lengthOctets fuel (n / 256)

/-- The remainder of a text and its length in a division of polynomials. -/
def remainder (t : Octets) : Nat :=
  negated 32 ((lengthOctets 16 t.length).foldl remainderAfter (t.foldl remainderAfter 0))

/-- A sum that is turned to the right before each octet is added. -/
def turningSum (t : Octets) : Nat := t.foldl (fun sum c => plus 16 [turned 16 1 sum, c.toNat]) 0

/-- A sum of octets with what goes over sixteen bits added again. -/
def foldedSum (t : Octets) : Nat :=
  let sum := t.foldl (fun sum c => sum + c.toNat) 0 % modulus 32
  let folded := sum % modulus 16 + sum / modulus 16
  folded % modulus 16 + folded / modulus 16

/-- The digits of a digest. -/
def shown (t : Octets) : Octets := t.flatMap fun c => zeroPadded 16 2 c.toNat

end HermesBundle.Shell.Digest
