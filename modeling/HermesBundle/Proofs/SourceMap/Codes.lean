import HermesBundle.SourceMap.Vlq
import Mathlib.Data.Nat.Digits.Defs
import Mathlib.Data.Nat.Log
import Mathlib.Tactic.Ring

/-! # Codes — what a text of digits says

    A text of digits is cut behind every digit that lacks the sixth bit.
    Each piece is a code, and its digits, the sixth bits left out, are the
    digits of a number to the base 32, the least significant first.  The
    route:

    * a digit has the value of its place in the alphabet
      (`idxOf_digit`), and what has a value is a digit;
    * a text is closed if it has digits only and the last of them closes
      a code (`isClosed_iff`); such texts are what proofs go by;
    * the closed texts are those that can be read, and they are read as
      the integers of their codes (`decode_eq_ok_iff`).

    The code of an integer can be read off the front of any text that
    follows it, because only its last digit has no sixth bit.  So a run of
    codes is read back as the run of integers it was written for
    (`decodeFrom_codes`), and a text starts with the code of one integer at
    most (`encode_append_inj`).

    A code is written by a loop on the bits of a number that takes five of
    them in each turn.  It ends on every number, with the digits of the
    number (`writes_iff`), after as many turns as the number has groups of
    bits (`length_encodeNat`). -/

namespace HermesBundle.SourceMap.Vlq

/-! ## Codes in front of other text -/

/-- A digit has the value it is numbered by. -/
theorem digitValue?_digit {n : Nat} (h : n < 64) : digitValue? (digit n) = some n := by
  have hall : ∀ k : Fin 64, digitValue? (digit k.val) = some k.val := by decide
  exact hall ⟨n, h⟩

/-- No digit separates lines or segments. -/
theorem digit_ne_separator {n : Nat} (h : n < 64) :
    digit n ≠ CodePoint.ofChar ',' ∧ digit n ≠ CodePoint.ofChar ';' := by
  have hall : ∀ k : Fin 64,
      digit k.val ≠ CodePoint.ofChar ',' ∧ digit k.val ≠ CodePoint.ofChar ';' := by decide
  exact hall ⟨n, h⟩

/-- The sign comes back from the lowest bit. -/
theorem unfoldSign_foldSign (i : Int) : unfoldSign (foldSign i) = i := by
  unfold foldSign unfoldSign
  by_cases hi : i < 0
  · rw [if_pos hi, if_pos (by omega)]
    omega
  · rw [if_neg hi, if_neg (by omega)]
    omega

/-! ## The digits of a code -/

/-- A number of one group is one digit. -/
theorem encodeNat_small {n : Nat} (h : n < 32) : encodeNat n = [digit n] := by
  rw [encodeNat, if_pos h]

/-- A number of several groups starts with a digit that says so. -/
theorem encodeNat_large {n : Nat} (h : ¬n < 32) :
    encodeNat n = digit (n % 32 + 32) :: encodeNat (n / 32) := by
  rw [encodeNat, if_neg h]

/-- Every code point of a code is one of the digits. -/
theorem exists_digit_of_mem_encodeNat {n : Nat} {c : CodePoint} (h : c ∈ encodeNat n) :
    ∃ k, k < 64 ∧ c = digit k := by
  induction n using encodeNat.induct with
  | case1 n hn =>
      rw [encodeNat_small hn] at h
      exact ⟨n, by omega, List.mem_singleton.mp h⟩
  | case2 n hn ih =>
      rw [encodeNat_large hn] at h
      rcases List.mem_cons.mp h with hhead | hrest
      · exact ⟨n % 32 + 32, by omega, hhead⟩
      · exact ih hrest

/-- A code has a digit. -/
theorem encode_ne_nil (i : Int) : encode i ≠ [] := by
  unfold encode
  by_cases hn : foldSign i < 32
  · rw [encodeNat_small hn]
    exact List.cons_ne_nil _ _
  · rw [encodeNat_large hn]
    exact List.cons_ne_nil _ _

/-! ## Reading codes -/

/-- The last digit of a code closes it. -/
theorem decodeFrom_last {piece rest : Text} {value shift d : Nat} {values : List Int}
    (hd : d < 32) (hrest : decodeFrom piece 0 0 rest = .ok values) :
    decodeFrom piece value shift (digit d :: rest)
      = .ok (unfoldSign (value + d * 2 ^ shift) :: values) := by
  have hmod : d % 32 = d := Nat.mod_eq_of_lt hd
  simp only [decodeFrom, digitValue?_digit (show d < 64 by omega), if_neg (show ¬32 ≤ d by omega),
    hrest, hmod]
  rfl

/-- Every other digit adds its group and goes on. -/
theorem decodeFrom_next {piece rest : Text} {value shift d : Nat} (hd : d < 32) :
    decodeFrom piece value shift (digit (d + 32) :: rest)
      = decodeFrom piece (value + d * 2 ^ shift) (shift + 5) rest := by
  have hmod : (d + 32) % 32 = d := by omega
  simp only [decodeFrom, digitValue?_digit (show d + 32 < 64 by omega),
    if_pos (show 32 ≤ d + 32 by omega), hmod]
  rfl

/-- The groups of a natural number add it, shifted, to what has been read
    of the code so far. -/
theorem decodeFrom_encodeNat {piece rest : Text} {values : List Int} (n value shift : Nat)
    (hrest : decodeFrom piece 0 0 rest = .ok values) :
    decodeFrom piece value shift (encodeNat n ++ rest)
      = .ok (unfoldSign (value + n * 2 ^ shift) :: values) := by
  induction n using encodeNat.induct generalizing value shift with
  | case1 n hn =>
      rw [encodeNat_small hn]
      exact decodeFrom_last hn hrest
  | case2 n hn ih =>
      -- the lowest group is added at the shift and the others five bits further up
      have hsum : n % 32 * 2 ^ shift + n / 32 * 2 ^ (shift + 5) = n * 2 ^ shift := by
        calc n % 32 * 2 ^ shift + n / 32 * 2 ^ (shift + 5)
            = (n % 32 + 32 * (n / 32)) * 2 ^ shift := by rw [Nat.pow_add]; ring
          _ = n * 2 ^ shift := by rw [Nat.mod_add_div]
      rw [encodeNat_large hn, List.cons_append, decodeFrom_next (Nat.mod_lt n (by decide)), ih,
        Nat.add_assoc, hsum]

/-- **Codes end by themselves**: a run of codes is read as the integers it
    was written for. -/
theorem decodeFrom_codes (piece : Text) (values : List Int) :
    decodeFrom piece 0 0 (values.flatMap encode) = .ok values := by
  induction values with
  | nil => rfl
  | cons i rest ih =>
      rw [List.flatMap_cons, encode, decodeFrom_encodeNat _ _ _ ih, Nat.zero_add, Nat.pow_zero,
        Nat.mul_one, unfoldSign_foldSign]

/-! ## Digits -/

/-- The sixty-four digits in the order of their values. -/
def alphabet : Text :=
  Text.ofString "ABCDEFGHIJKLMNOPQRSTUVWXYZabcdefghijklmnopqrstuvwxyz0123456789+/"

/-- Whether a code point is a digit that closes a code: one of the first
    half, which lack the sixth bit. -/
def closes (c : CodePoint) : Bool := decide (alphabet.idxOf c < 32)

theorem alphabet_eq : alphabet = (List.range 64).map digit := by decide +kernel

/-- The digits are those that are written for the numbers below 64. -/
theorem exists_digit_of_mem {c : CodePoint} (h : c ∈ alphabet) : ∃ d, d < 64 ∧ c = digit d := by
  rw [alphabet_eq] at h
  obtain ⟨d, hd, rfl⟩ := List.mem_map.mp h
  exact ⟨d, List.mem_range.mp hd, rfl⟩

theorem digit_mem_alphabet {d : Nat} (h : d < 64) : digit d ∈ alphabet := by
  rw [alphabet_eq]
  exact List.mem_map_of_mem (List.mem_range.mpr h)

/-- A digit stands at the place of its value. -/
theorem idxOf_digit {d : Nat} (h : d < 64) : alphabet.idxOf (digit d) = d := by
  have hall : ∀ k : Fin 64, alphabet.idxOf (digit k.val) = k.val := by decide +kernel
  exact hall ⟨d, h⟩

theorem closes_digit {d : Nat} (h : d < 64) : closes (digit d) = decide (d < 32) := by
  unfold closes
  rw [idxOf_digit h]

/-- Only digits have a value. -/
theorem mem_alphabet_of_digitValue? {c : CodePoint} {d : Nat} (h : digitValue? c = some d) :
    c ∈ alphabet := by
  have hascii : ∀ k : Fin 128,
      (digitValue? (.ofNat k.val)).isSome = true → CodePoint.ofNat k.val ∈ alphabet := by
    decide +kernel
  have hlt : c.val < 128 := by
    unfold digitValue? at h
    grind
  have hc : CodePoint.ofNat c.val = c := dif_pos c.isLt
  have hmem := hascii ⟨c.val, hlt⟩
  rw [hc, h] at hmem
  exact hmem rfl

/-! ## Texts that are closed -/

/-- A text of digits the last of which closes a code: one closing digit,
    or a digit in front of such a text that closes a code or goes on with
    the next digit. -/
inductive IsClosed : Text → Prop where
  | single {d : Nat} : d < 32 → IsClosed [digit d]
  | close {d : Nat} {rest : Text} : d < 32 → IsClosed rest → IsClosed (digit d :: rest)
  | next {d : Nat} {rest : Text} : d < 32 → IsClosed rest → IsClosed (digit (d + 32) :: rest)

theorem IsClosed.ne_nil {t : Text} (h : IsClosed t) : t ≠ [] := by
  cases h <;> exact List.cons_ne_nil _ _

/-- A digit may stand in front of a closed text. -/
theorem IsClosed.cons {d : Nat} {rest : Text} (hd : d < 64) (h : IsClosed rest) :
    IsClosed (digit d :: rest) := by
  by_cases hlow : d < 32
  · exact .close hlow h
  · have hnext := IsClosed.next (show d - 32 < 32 by omega) h
    rwa [Nat.sub_add_cancel (by omega)] at hnext

/-- Whether a text ends in a digit that closes a code. -/
def EndsCode (t : Text) : Prop := ∃ c, t.getLast? = some c ∧ closes c = true

theorem endsCode_single {d : Nat} (hd : d < 64) : EndsCode [digit d] ↔ d < 32 := by
  constructor
  · rintro ⟨c, hc, hcloses⟩
    obtain rfl : digit d = c := Option.some.inj hc
    rwa [closes_digit hd, decide_eq_true_eq] at hcloses
  · intro hlow
    exact ⟨digit d, rfl, by rw [closes_digit hd, decide_eq_true hlow]⟩

theorem endsCode_cons {c : CodePoint} {rest : Text} (hne : rest ≠ []) :
    EndsCode (c :: rest) ↔ EndsCode rest := by
  unfold EndsCode
  rw [List.getLast?_cons_of_ne_nil hne]

/-- **Closed texts** are those that consist of digits and end in one that
    closes a code. -/
theorem isClosed_iff {t : Text} : IsClosed t ↔ (∀ c ∈ t, c ∈ alphabet) ∧ EndsCode t := by
  constructor
  · intro h
    induction h with
    | single hd =>
        exact ⟨fun c hc => List.mem_singleton.mp hc ▸ digit_mem_alphabet (by omega),
          (endsCode_single (by omega)).mpr hd⟩
    | close hd hrest ih =>
        exact ⟨List.forall_mem_cons.mpr ⟨digit_mem_alphabet (by omega), ih.1⟩,
          (endsCode_cons hrest.ne_nil).mpr ih.2⟩
    | next hd hrest ih =>
        exact ⟨List.forall_mem_cons.mpr ⟨digit_mem_alphabet (by omega), ih.1⟩,
          (endsCode_cons hrest.ne_nil).mpr ih.2⟩
  · rintro ⟨hdigits, hend⟩
    induction t with
    | nil =>
        obtain ⟨c, hc, -⟩ := hend
        exact nomatch hc
    | cons c rest ih =>
        obtain ⟨hc, hrest⟩ := List.forall_mem_cons.mp hdigits
        obtain ⟨d, hd, rfl⟩ := exists_digit_of_mem hc
        by_cases hnil : rest = []
        · subst hnil
          exact .single ((endsCode_single hd).mp hend)
        · exact .cons hd (ih hrest ((endsCode_cons hnil).mp hend))

/-! ## Codes -/

/-- A text cut behind each digit that closes a code. -/
def codes : Text → List Text
  | [] => []
  | c :: rest =>
      if closes c then [c] :: codes rest
      else
        match codes rest with
        | [] => [[c]]
        | code :: more => (c :: code) :: more

/-- The number whose digits to the base 32 a code lists, the least
    significant first. -/
def numberOf (code : Text) : Nat := Nat.ofDigits 32 (code.map fun c => alphabet.idxOf c % 32)

/-- The integer of a code: a number with the sign in its lowest bit. -/
def integerOf (code : Text) : Int := unfoldSign (numberOf code)

/-- The integers of the codes of a text. -/
def integers (t : Text) : List Int := (codes t).map integerOf

theorem codes_close {d : Nat} (hd : d < 32) (rest : Text) :
    codes (digit d :: rest) = [digit d] :: codes rest := by
  rw [codes, closes_digit (by omega), decide_eq_true hd, if_pos rfl]

theorem codes_next {d : Nat} {rest code : Text} {more : List Text} (hd : d < 32)
    (hrest : codes rest = code :: more) :
    codes (digit (d + 32) :: rest) = (digit (d + 32) :: code) :: more := by
  rw [codes, closes_digit (by omega), decide_eq_false (by omega), if_neg (by decide), hrest]

theorem codes_ne_nil {t : Text} (h : t ≠ []) : codes t ≠ [] := by
  cases t with
  | nil => exact absurd rfl h
  | cons c rest =>
      rw [codes]
      split
      · exact List.cons_ne_nil _ _
      · split <;> exact List.cons_ne_nil _ _

/-- The codes of a text, one after another, are the text. -/
theorem codes_flatten (t : Text) : (codes t).flatten = t := by
  induction t with
  | nil => rfl
  | cons c rest ih =>
      rw [codes]
      split
      · rw [List.flatten_cons, ih]
        rfl
      · split
        · rename_i hnone
          rw [hnone] at ih
          rw [← ih]
          rfl
        · rename_i code more hsome
          rw [hsome] at ih
          rw [← ih]
          rfl

/-- A closed text has as many codes as digits that close one. -/
theorem length_codes {t : Text} (h : IsClosed t) : (codes t).length = t.countP closes := by
  induction h with
  | @single d hd =>
      rw [codes_close hd, List.countP_cons_of_pos (by rw [closes_digit (by omega)]; simpa using hd)]
      rfl
  | @close d rest hd hrest ih =>
      rw [codes_close hd, List.countP_cons_of_pos (by rw [closes_digit (by omega)]; simpa using hd),
        List.length_cons, ih]
  | @next d rest hd hrest ih =>
      obtain ⟨code, more, hcodes⟩ := List.exists_cons_of_ne_nil (codes_ne_nil hrest.ne_nil)
      rw [codes_next hd hcodes,
        List.countP_cons_of_neg (by rw [closes_digit (by omega), decide_eq_true_eq]; omega), ← ih,
        hcodes]
      rfl

theorem numberOf_cons {d : Nat} (hd : d < 64) (code : Text) :
    numberOf (digit d :: code) = d % 32 + 32 * numberOf code := by
  unfold numberOf
  rw [List.map_cons, Nat.ofDigits_cons, idxOf_digit hd]

theorem numberOf_single {d : Nat} (hd : d < 32) : numberOf [digit d] = d := by
  rw [numberOf_cons (by omega), Nat.mod_eq_of_lt hd]
  rfl

/-! ## What is read -/

/-- The integers of a text that goes on with a code of which a value has
    been read. -/
def integersFrom (value shift : Nat) (t : Text) : List Int :=
  match codes t with
  | [] => []
  | code :: more => unfoldSign (value + numberOf code * 2 ^ shift) :: more.map integerOf

theorem integersFrom_zero (t : Text) : integersFrom 0 0 t = integers t := by
  unfold integersFrom integers
  cases codes t with
  | nil => rfl
  | cons code more =>
      dsimp only
      rw [Nat.zero_add, Nat.pow_zero, Nat.mul_one]
      rfl

/-- Closed texts are read: the integers are those of the codes. -/
theorem decodeFrom_of_isClosed {t : Text} (h : IsClosed t) (piece : Text) (value shift : Nat) :
    decodeFrom piece value shift t = .ok (integersFrom value shift t) := by
  induction h generalizing value shift with
  | @single d hd =>
      have hend : decodeFrom piece 0 0 [] = .ok [] := rfl
      rw [decodeFrom_last hd hend, integersFrom, codes_close hd]
      dsimp only
      rw [numberOf_single hd]
      rfl
  | @close d rest hd hrest ih =>
      rw [decodeFrom_last hd (ih 0 0), integersFrom_zero, integersFrom, codes_close hd]
      dsimp only
      rw [numberOf_single hd]
      rfl
  | @next d rest hd hrest ih =>
      obtain ⟨code, more, hcodes⟩ := List.exists_cons_of_ne_nil (codes_ne_nil hrest.ne_nil)
      have hvalue : value + d * 2 ^ shift + numberOf code * 2 ^ (shift + 5)
          = value + numberOf (digit (d + 32) :: code) * 2 ^ shift := by
        rw [numberOf_cons (by omega), Nat.add_mod_right, Nat.mod_eq_of_lt hd, Nat.pow_add]
        ring
      rw [decodeFrom_next hd, ih, integersFrom, integersFrom, codes_next hd hcodes, hcodes]
      dsimp only
      rw [hvalue]

/-- What is read consists of digits and is closed, unless it is empty and
    no code has begun. -/
theorem isClosed_of_decodeFrom {t piece : Text} {value shift : Nat} {values : List Int}
    (h : decodeFrom piece value shift t = .ok values) : (t = [] ∧ shift = 0) ∨ IsClosed t := by
  induction t generalizing value shift values with
  | nil =>
      unfold decodeFrom at h
      split at h
      · exact .inl ⟨rfl, ‹_›⟩
      · cases h
  | cons c rest ih =>
      right
      unfold decodeFrom at h
      split at h
      · cases h
      · rename_i d hd
        obtain ⟨k, hk, rfl⟩ := exists_digit_of_mem (mem_alphabet_of_digitValue? hd)
        obtain rfl : k = d := by
          rw [digitValue?_digit hk] at hd
          exact Option.some.inj hd
        dsimp only at h
        split at h
        · -- the digit goes on and has raised the shift, so something follows
          rcases ih h with ⟨-, hshift⟩ | hrest
          · omega
          · exact .cons hk hrest
        · rename_i hlow
          split at h
          · cases h
          · rename_i hmore
            rcases ih hmore with ⟨rfl, -⟩ | hrest
            · exact .single (by omega)
            · exact .cons hk hrest

/-- **A text is read exactly if it is closed**, and as the integers of its
    codes. -/
theorem decode_eq_ok_iff {t : Text} {values : List Int} (hne : t ≠ []) :
    decode t = .ok values ↔ IsClosed t ∧ values = integers t := by
  constructor
  · intro h
    have hclosed := (isClosed_of_decodeFrom h).resolve_left fun hnil => hne hnil.1
    rw [decode, decodeFrom_of_isClosed hclosed, integersFrom_zero] at h
    exact ⟨hclosed, (Except.ok.inj h).symm⟩
  · rintro ⟨hclosed, rfl⟩
    rw [decode, decodeFrom_of_isClosed hclosed, integersFrom_zero]

/-! ## One code -/

/-- One code: digits that go on, and one that closes it. -/
inductive IsCode : Text → Prop where
  | single {d : Nat} : d < 32 → IsCode [digit d]
  | next {d : Nat} {rest : Text} : d < 32 → IsCode rest → IsCode (digit (d + 32) :: rest)

theorem IsCode.ne_nil {code : Text} (h : IsCode code) : code ≠ [] := by
  cases h <;> exact List.cons_ne_nil _ _

/-- A closed text is cut into codes. -/
theorem isCode_of_mem_codes {t : Text} (h : IsClosed t) : ∀ code ∈ codes t, IsCode code := by
  induction h with
  | single hd =>
      rw [codes_close hd]
      exact fun code hcode => List.mem_singleton.mp hcode ▸ .single hd
  | close hd _ ih =>
      rw [codes_close hd]
      exact List.forall_mem_cons.mpr ⟨.single hd, ih⟩
  | next hd hrest ih =>
      obtain ⟨code, more, hcodes⟩ := List.exists_cons_of_ne_nil (codes_ne_nil hrest.ne_nil)
      rw [hcodes] at ih
      obtain ⟨hcode, hmore⟩ := List.forall_mem_cons.mp ih
      rw [codes_next hd hcodes]
      exact List.forall_mem_cons.mpr ⟨.next hd hcode, hmore⟩

/-- Whether a digit says that more digits follow: its sixth bit. -/
def goesOn (c : CodePoint) : Bool := (alphabet.idxOf c).testBit 5

/-- The sixth bit is set from thirty-two on. -/
theorem goesOn_digit {d : Nat} (h : d < 64) : goesOn (digit d) = decide (32 ≤ d) := by
  have hall : ∀ k : Fin 64, k.val.testBit 5 = decide (32 ≤ k.val) := by decide
  rw [goesOn, idxOf_digit h]
  exact hall ⟨d, h⟩

theorem goesOn_low {d : Nat} (h : d < 32) : goesOn (digit d) = false := by
  rw [goesOn_digit (by omega)]
  exact decide_eq_false (by omega)

theorem goesOn_high {d : Nat} (h : d < 32) : goesOn (digit (d + 32)) = true := by
  rw [goesOn_digit (by omega)]
  exact decide_eq_true (by omega)

/-- Whether exactly the last digit of a text says that none follows. -/
def EndsItself (t : Text) : Prop :=
  ∃ front last, t = front ++ [last] ∧ (∀ c ∈ front, goesOn c = true) ∧ goesOn last = false

/-- **A code** is a text of digits of which exactly the last says that none
    follows. -/
theorem isCode_iff {t : Text} : IsCode t ↔ (∀ c ∈ t, c ∈ alphabet) ∧ EndsItself t := by
  constructor
  · intro h
    induction h with
    | @single d hd =>
        refine ⟨fun c hc => List.mem_singleton.mp hc ▸ digit_mem_alphabet (by omega), ?_⟩
        exact ⟨[], digit d, rfl, fun _ hc => (nomatch hc), goesOn_low hd⟩
    | @next d rest hd hrest ih =>
        obtain ⟨hdigits, front, last, rfl, hfront, hlast⟩ := ih
        refine ⟨List.forall_mem_cons.mpr ⟨digit_mem_alphabet (by omega), hdigits⟩, ?_⟩
        exact ⟨digit (d + 32) :: front, last, rfl,
          List.forall_mem_cons.mpr ⟨goesOn_high hd, hfront⟩, hlast⟩
  · rintro ⟨hdigits, front, last, rfl, hfront, hlast⟩
    -- on the digits in front of the last one, each of which goes on
    induction front with
    | nil =>
        obtain ⟨d, hd, rfl⟩ := exists_digit_of_mem (hdigits last (List.mem_singleton_self last))
        rw [goesOn_digit hd, decide_eq_false_iff_not] at hlast
        exact .single (by omega)
    | cons c front ih =>
        obtain ⟨hc, hrest⟩ := List.forall_mem_cons.mp hdigits
        obtain ⟨hgoes, hmore⟩ := List.forall_mem_cons.mp hfront
        obtain ⟨d, hd, rfl⟩ := exists_digit_of_mem hc
        rw [goesOn_digit hd, decide_eq_true_eq] at hgoes
        have hcode := IsCode.next (show d - 32 < 32 by omega) (ih hrest hmore)
        rwa [Nat.sub_add_cancel hgoes] at hcode

/-- What is written for a number is a code. -/
theorem isCode_encodeNat (n : Nat) : IsCode (encodeNat n) := by
  induction n using encodeNat.induct with
  | case1 n hn =>
      rw [encodeNat_small hn]
      exact .single hn
  | case2 n hn ih =>
      rw [encodeNat_large hn]
      exact .next (Nat.mod_lt n (by decide)) ih

/-! ## Codes in a row -/

/-- The code of a number is the first that is cut off. -/
theorem codes_encodeNat_append (n : Nat) (rest : Text) :
    codes (encodeNat n ++ rest) = encodeNat n :: codes rest := by
  induction n using encodeNat.induct with
  | case1 n hn =>
      rw [encodeNat_small hn]
      exact codes_close hn rest
  | case2 n hn ih =>
      rw [encodeNat_large hn, List.cons_append]
      exact codes_next (Nat.mod_lt n (by decide)) ih

/-- The codes of a run of integers are those that were written. -/
theorem codes_flatMap_encode (values : List Int) :
    codes (values.flatMap encode) = values.map encode := by
  induction values with
  | nil => rfl
  | cons i rest ih =>
      rw [List.flatMap_cons, List.map_cons, ← ih]
      exact codes_encodeNat_append _ _

/-- Integers with one code are the same. -/
theorem encode_inj {i j : Int} : encode i = encode j ↔ i = j := by
  constructor
  · intro h
    -- each is a run of one code, and runs are read back
    have hboth : decode (encode i) = decode (encode j) := congrArg decode h
    have hone (k : Int) : decode (encode k) = .ok [k] := by
      have hrun := decodeFrom_codes (encode k) [k]
      rwa [List.flatMap_singleton] at hrun
    rw [hone, hone] at hboth
    exact List.head_eq_of_cons_eq (Except.ok.inj hboth)
  · exact congrArg encode

/-- **Codes end by themselves**: texts that start with codes are equal only
    if the codes are, and what follows them. -/
theorem encode_append_inj {i j : Int} {s t : Text} :
    encode i ++ s = encode j ++ t ↔ i = j ∧ s = t := by
  constructor
  · intro h
    -- the first code that is cut off is the one that was put in front
    have hcodes : encode i :: codes s = encode j :: codes t := by
      have hboth := congrArg codes h
      rwa [encode, encode, codes_encodeNat_append, codes_encodeNat_append] at hboth
    have hij := encode_inj.mp (List.head_eq_of_cons_eq hcodes)
    rw [hij] at h
    exact ⟨hij, List.append_cancel_left h⟩
  · rintro ⟨rfl, rfl⟩
    rfl

/-! ## The loop -/

/-- The bits of an integer, with the sign in the lowest one. -/
def bitsOf (i : Int) : Nat := if i < 0 then (-i).toNat <<< 1 ||| 1 else i.toNat <<< 1

/-- The loop that writes a number.  A turn takes the lowest five bits for a
    digit and sets the sixth bit if any are left; the loop ends when none
    are. -/
inductive Writes : Nat → Text → Prop where
  | last {n : Nat} : n >>> 5 = 0 → Writes n [digit (n &&& 31)]
  | turn {n : Nat} {rest : Text} : n >>> 5 ≠ 0 → Writes (n >>> 5) rest →
      Writes n (digit (n &&& 31 ||| 32) :: rest)

theorem bitsOf_eq_foldSign (i : Int) : bitsOf i = foldSign i := by
  have hodd (k : Nat) : k <<< 1 ||| 1 = 2 * k + 1 := by
    rw [Nat.shiftLeft_eq, Nat.mul_comm]
    exact (Nat.two_pow_add_eq_or_of_lt (i := 1) (by decide) k).symm
  rw [bitsOf, foldSign, hodd, Nat.shiftLeft_eq]
  by_cases hi : i < 0
  · rw [if_pos hi, if_pos hi]
    omega
  · rw [if_neg hi, if_neg hi]
    omega

/-- The lowest five bits are a remainder, and a shift by five leaves the
    quotient. -/
theorem lowBits_eq (n : Nat) : n &&& 31 = n % 32 := Nat.and_two_pow_sub_one_eq_mod n 5

theorem highBits_eq (n : Nat) : n >>> 5 = n / 32 := Nat.shiftRight_eq_div_pow n 5

theorem setSixth_eq (n : Nat) : n &&& 31 ||| 32 = n % 32 + 32 := by
  rw [lowBits_eq, Nat.or_comm, Nat.add_comm]
  exact (Nat.two_pow_add_eq_or_of_lt (i := 5) (Nat.mod_lt n (by decide)) 1).symm

/-- **The loop ends on every number**, and with the digits of the number. -/
theorem writes_iff {n : Nat} {t : Text} : Writes n t ↔ t = encodeNat n := by
  constructor
  · intro h
    induction h with
    | @last n hdone =>
        rw [highBits_eq] at hdone
        have hn : n < 32 := by omega
        rw [encodeNat_small hn, lowBits_eq, Nat.mod_eq_of_lt hn]
    | @turn n rest hleft _ ih =>
        rw [highBits_eq] at hleft ih
        rw [encodeNat_large (by omega), setSixth_eq, ih]
  · rintro rfl
    induction n using encodeNat.induct with
    | case1 n hn =>
        have hlast : Writes n [digit (n &&& 31)] := .last (by rw [highBits_eq]; omega)
        rwa [lowBits_eq, Nat.mod_eq_of_lt hn, ← encodeNat_small hn] at hlast
    | case2 n hn ih =>
        rw [← highBits_eq] at ih
        have hturn := Writes.turn (by rw [highBits_eq]; omega) ih
        rwa [setSixth_eq, highBits_eq, ← encodeNat_large hn] at hturn

/-- A number has a digit for each group of five bits, up to the highest
    that is set. -/
theorem length_encodeNat (n : Nat) : (encodeNat n).length = Nat.log 32 n + 1 := by
  induction n using encodeNat.induct with
  | case1 n hn =>
      rw [encodeNat_small hn, Nat.log_of_lt hn]
      rfl
  | case2 n hn ih =>
      rw [encodeNat_large hn, List.length_cons, ih,
        ← Nat.log_of_one_lt_of_le (by decide) (Nat.not_lt.mp hn)]

/-! ## The code of an integer -/

/-- What a text has to be like to be the code of an integer. -/
structure CodeLaw (i : Int) (code : Text) : Prop where
  nonempty : code ≠ []
  digits : ∀ c ∈ code, c ∈ alphabet
  endsItself : EndsItself code
  /-- The loop ends on the integer, and it can end in no other text. -/
  written : ∀ t, Writes (bitsOf i) t ↔ t = code
  turns : code.length = Nat.log 32 (bitsOf i) + 1

theorem codeLaw (i : Int) : CodeLaw i (encode i) where
  nonempty := encode_ne_nil i
  digits := (isCode_iff.mp (isCode_encodeNat _)).1
  endsItself := (isCode_iff.mp (isCode_encodeNat _)).2
  written t := by
    rw [bitsOf_eq_foldSign]
    exact writes_iff
  turns := by
    rw [bitsOf_eq_foldSign]
    exact length_encodeNat _

/-- **The code is lossless and its texts end by themselves.**  Any integers
    come back from the run of their codes; each code has digits only, of
    which exactly the last says that none follows, and is what the loop
    ends in; and no text starts with codes of two integers. -/
theorem runs_lossless (values : List Int) :
    decode (values.flatMap encode) = .ok values
      ∧ (∀ i, CodeLaw i (encode i))
      ∧ ∀ i j s t, encode i ++ s = encode j ++ t ↔ i = j ∧ s = t :=
  ⟨decodeFrom_codes _ values, codeLaw, fun _ _ _ _ => encode_append_inj⟩

/-- The integers on both sides of one group of bits, in a row. -/
example : [0, -1, 15, -16, 1024].flatMap encode = Text.ofString "ADehBggC" := by cbv

end HermesBundle.SourceMap.Vlq
