import HermesBundle.Shell.Floating
import HermesBundle.Shell.Tools.Listing
import HermesBundle.Shell.Tools.Passing

/-! # Sorting — programs that put lines in order or rely on it

    Lines are compared by keys, which are parts of them, in one of several
    orders.  Lines whose keys are equal are compared as a whole. -/

namespace HermesBundle.Shell.Tool

/-- The orders of keys. -/
inductive KeyOrder where
  | text
  | numeric
  | general
  | human
  | month
  | version
  | random
deriving DecidableEq

/-- How keys are compared. -/
structure KeyOptions where
  orders : List KeyOrder
  isReversed : Bool
  skipsStart : Bool
  skipsEnd : Bool
  foldsCase : Bool
  dictionary : Bool
  onlyPrintable : Bool

namespace KeyOptions

/-- Nothing is asked for. -/
def none : KeyOptions := ⟨[], false, false, false, false, false, false⟩

/-- Whether nothing is asked for. -/
def isNone (o : KeyOptions) : Bool :=
  o.orders.isEmpty && !o.isReversed && !o.skipsStart && !o.skipsEnd && !o.foldsCase && !o.dictionary
    && !o.onlyPrintable

/-- The options with those of a letter; none if there is no such letter. -/
def withLetter (o : KeyOptions) (start finish : Bool) (c : Char) : Option KeyOptions :=
  let order := fun (k : KeyOrder) => some { o with orders := if o.orders.contains k then o.orders else o.orders ++ [k] }
  match c with
  | 'b' => some { o with skipsStart := o.skipsStart || start, skipsEnd := o.skipsEnd || finish }
  | 'd' => some { o with dictionary := true }
  | 'f' => some { o with foldsCase := true }
  | 'g' => order .general
  | 'h' => order .human
  | 'i' => some { o with onlyPrintable := true }
  | 'M' => order .month
  | 'n' => order .numeric
  | 'R' => order .random
  | 'r' => some { o with isReversed := true }
  | 'V' => order .version
  | _ => Option.none

/-- The options that cannot go together, as letters; empty if they can. -/
def conflict (o : KeyOptions) : String :=
  let has := fun k => o.orders.contains k
  let ignores := o.dictionary || o.onlyPrintable
  let groups := [has .numeric, has .general, has .human, has .month,
    has .version || has .random || ignores].filter fun holds => holds
  if groups.length ≤ 1 then ""
  else
    String.ofList
      ((if o.dictionary then ['d'] else []) ++ (if has .general then ['g'] else [])
        ++ (if has .human then ['h'] else []) ++ (if o.onlyPrintable && !o.dictionary then ['i'] else [])
        ++ (if has .month then ['M'] else []) ++ (if has .numeric then ['n'] else [])
        ++ (if has .random then ['R'] else []) ++ (if has .version then ['V'] else []))

/-- The order of keys. -/
def order (o : KeyOptions) : KeyOrder := o.orders.head?.getD .text

end KeyOptions

/-- A key: where it starts and ends in lines. -/
structure SortKey where
  /-- How many fields and characters stand before it. -/
  startField : Nat
  startCharacter : Nat
  /-- How many fields and characters it goes on for; none if it ends with
      the line. -/
  finish : Option (Nat × Nat)
  options : KeyOptions

/-! ## Parts of lines -/

/-- Octets after fields that are set apart by blanks. -/
def afterBlankFields : Nat → Octets → Octets
  | 0, t => t
  | n + 1, t => afterBlankFields n ((t.dropWhile isBlank).dropWhile fun c => !isBlank c)

/-- Octets after fields that are ended by a character. -/
def afterFields (separator : Char) : Nat → Octets → Octets
  | 0, t => t
  | n + 1, t => afterFields separator n ((t.dropWhile (· != separator)).drop 1)

/-- Where a key starts: what is left of the line. -/
def keyStart (separator : Option Char) (k : SortKey) (line : Octets) : Octets :=
  let rest := match separator with
    | some c => afterFields c k.startField line
    | none => afterBlankFields k.startField line
  let rest := if k.options.skipsStart then rest.dropWhile isBlank else rest
  rest.drop k.startCharacter

/-- What is left of the line after a key. -/
def keyFinish (separator : Option Char) (k : SortKey) (line : Octets) : Octets :=
  match k.finish with
  | none => []
  | some (fields, characters) =>
      if characters = 0 then
        match separator with
        | some c => (afterFields c fields line).dropWhile (· != c)
        | none => afterBlankFields (fields + 1) line
      else
        let rest := match separator with
          | some c => afterFields c fields line
          | none => afterBlankFields fields line
        let rest := if k.options.skipsEnd then rest.dropWhile isBlank else rest
        rest.drop characters

/-- The part of a line that is a key. -/
def keyOf (separator : Option Char) (k : SortKey) (line : Octets) : Octets :=
  let start := keyStart separator k line
  let finish := keyFinish separator k line
  start.take (start.length - finish.length)

/-! ## Comparing -/

/-- The order of octets. -/
def textOrder : Octets → Octets → Ordering
  | [], [] => .eq
  | [], _ :: _ => .lt
  | _ :: _, [] => .gt
  | a :: s, b :: t => if a < b then .lt else if b < a then .gt else textOrder s t

/-- The number at the start of a key: whether it is negative, its digits
    before the point without zeros in front, those after it, and what
    follows. -/
def leadingNumber (t : Octets) : Bool × Octets × Octets × Octets :=
  let t := t.dropWhile isBlank
  let (negative, t) := match t with
    | '-' :: rest => (true, rest)
    | rest => (false, rest)
  let whole := t.takeWhile isDigit
  let rest := t.drop whole.length
  let (fraction, rest) := match rest with
    | '.' :: r =>
        let f := r.takeWhile isDigit
        (f, r.drop f.length)
    | r => ([], r)
  (negative, whole.dropWhile (· == '0'), (fraction.reverse.dropWhile (· == '0')).reverse, rest)

/-- The order of numbers by their digits. -/
def numberOrder (a b : Octets) : Ordering :=
  let (na, wa, fa, _) := leadingNumber a
  let (nb, wb, fb, _) := leadingNumber b
  let na := na && !(wa.isEmpty && fa.isEmpty)
  let nb := nb && !(wb.isEmpty && fb.isEmpty)
  let sizes :=
    if wa.length < wb.length then .lt
    else if wb.length < wa.length then .gt
    else
      match textOrder wa wb with
      | .eq => textOrder fa fb
      | o => o
  match na, nb with
  | false, false => sizes
  | true, true => sizes.swap
  | true, false => .lt
  | false, true => .gt

/-- The place of a month in the year, from 1 on; 0 for other texts. -/
def monthPlace (t : Octets) : Nat :=
  let name := ((t.dropWhile isBlank).take 3).map lowered
  match Calendar.months.findIdx? fun month => (month.toList.map lowered).take 3 == name with
  | some i => if name.length = 3 then i + 1 else 0
  | none => 0

/-- The place of the unit after a number; numbers below zero come before
    others, with the greatest unit first. -/
def unitPlace (t : Octets) : Int :=
  let (negative, whole, fraction, rest) := leadingNumber t
  if whole.isEmpty && fraction.isEmpty then 0
  else
    let place : Int := match rest.head? with
      | some 'k' => 1
      | some 'K' => 1
      | some 'M' => 2
      | some 'G' => 3
      | some 'T' => 4
      | some 'P' => 5
      | some 'E' => 6
      | some 'Z' => 7
      | some 'Y' => 8
      | _ => 0
    if negative then -place else place

/-- A number as a place in the general order: what is no number comes first,
    then what is undefined. -/
inductive GeneralPlace where
  | nothing
  | undefined
  | lowest
  | finite (negative : Bool) (numerator denominator : Nat)
  | highest

/-- The place of a key in the general order. -/
def generalPlace (t : Octets) : GeneralPlace :=
  match Floating.read .extended t with
  | none => .nothing
  | some (.nan _, _) => .undefined
  | some (.infinite negative, _) => if negative then .lowest else .highest
  | some (.finite negative m e, _) =>
      let (num, den) := Floating.ratio m e
      .finite negative num den

/-- The rank of a place. -/
def GeneralPlace.rank : GeneralPlace → Nat
  | .nothing => 0
  | .undefined => 1
  | .lowest => 2
  | .finite _ _ _ => 3
  | .highest => 4

/-- The order of numbers of all kinds. -/
def generalOrder (a b : Octets) : Ordering :=
  match generalPlace a, generalPlace b with
  | .finite na x y, .finite nb u v =>
      let p : Int := if na then -((x * v : Nat) : Int) else (x * v : Nat)
      let q : Int := if nb then -((u * y : Nat) : Int) else (u * y : Nat)
      compare p q
  | p, q => compare p.rank q.rank

/-- The order of keys. -/
def keyOrder (o : KeyOptions) (a b : Octets) : Ordering :=
  let plain := fun (t : Octets) =>
    let t := if o.dictionary then t.filter fun c => isBlank c || isAlphanumeric c else t
    let t := if o.onlyPrintable then t.filter isPrintable else t
    if o.foldsCase then t.map raised else t
  let found :=
    match o.order with
    | .text => textOrder (plain a) (plain b)
    | .numeric => numberOrder a b
    | .general => generalOrder a b
    | .human =>
        match compare (unitPlace a) (unitPlace b) with
        | .eq => numberOrder a b
        | o => o
    | .month => compare (monthPlace a) (monthPlace b)
    | .version => versionOrder a b
    | .random => textOrder a b
  if o.isReversed then found.swap else found

/-- How lines are sorted. -/
structure SortPlan where
  separator : Option Char
  keys : List SortKey
  global : KeyOptions
  isStable : Bool
  isUnique : Bool

/-- The order of lines by their keys. -/
def keysOrder (p : SortPlan) (a b : Octets) : Ordering :=
  p.keys.foldl
    (fun found k =>
      match found with
      | .eq => keyOrder k.options (keyOf p.separator k a) (keyOf p.separator k b)
      | o => o)
    .eq

/-- The order of lines. -/
def lineOrder (p : SortPlan) (a b : Octets) : Ordering :=
  let byKeys := if p.keys.isEmpty then .eq else keysOrder p a b
  if byKeys != .eq || (!p.keys.isEmpty && (p.isStable || p.isUnique)) then byKeys
  else
    let whole := textOrder a b
    if p.global.isReversed then whole.swap else whole

/-! ## Sorting -/

/-- A number at the start of a part of a key. -/
def fieldCount (what : String) (t : Octets) : Run (Nat × Octets) := do
  let digits := t.takeWhile isDigit
  if digits.isEmpty then
    Run.quit 2 (what ++ ": invalid count at start of " ++ (← Run.inQuotes (String.ofList t)))
  else return (valueOfDigits 10 digits, t.drop digits.length)

/-- The options at the start of a part of a key. -/
def keyLetters (start : Bool) : Nat → Octets → KeyOptions → KeyOptions × Octets
  | 0, t, o => (o, t)
  | _, [], o => (o, [])
  | fuel + 1, c :: rest, o =>
      match o.withLetter start (!start) c with
      | some o => keyLetters start fuel rest o
      | none => (o, c :: rest)

/-- The key that an argument describes; anything else ends the program. -/
def keyArgument (t : String) : Run SortKey := do
  let cs := t.toList
  let bad := fun (what : String) => do
    Run.quit 2 (what ++ ": invalid field specification " ++ (← Run.inQuotes t))
  let (field, rest) ← fieldCount "invalid number at field start" cs
  if field = 0 then bad "field number is zero"
  else do
    let (character, rest) ← match rest with
      | '.' :: r => fieldCount "invalid number after \x27.\x27" r
      | r => pure (1, r)
    if character = 0 then bad "character offset is zero"
    else do
      let (options, rest) := keyLetters true (rest.length + 1) rest .none
      match rest with
      | [] => return ⟨field - 1, character - 1, none, options⟩
      | ',' :: r => do
          let (last, rest) ← fieldCount "invalid number after \x27,\x27" r
          if last = 0 then bad "field number is zero"
          else do
            let (characters, rest) ← match rest with
              | '.' :: r => fieldCount "invalid number after \x27.\x27" r
              | r => pure (0, r)
            let (options, rest) := keyLetters false (rest.length + 1) rest options
            if !rest.isEmpty then bad "stray character in field spec"
            else return ⟨field - 1, character - 1, some (last - 1, characters), options⟩
      | _ => bad "stray character in field spec"

/-- Lines of which the first one of equal ones is kept. -/
def uniqueLines (same : Octets → Octets → Bool) (lines : List Octets) : List Octets :=
  (lines.foldl
    (fun kept line =>
      match kept with
      | last :: _ => if same last line then kept else line :: kept
      | [] => [line])
    []).reverse

/-- The first line that is out of order, with its number. -/
def disorder (p : SortPlan) : Nat → List Octets → Option (Nat × Octets)
  | n, a :: b :: rest =>
      let o := lineOrder p a b
      if o == .gt || (p.isUnique && o == .eq) then some (n + 1, b) else disorder p (n + 1) (b :: rest)
  | _, _ => none

/-- The words that name orders. -/
def orderWords : List (String × Char) :=
  [("general-numeric", 'g'), ("human-numeric", 'h'), ("month", 'M'), ("numeric", 'n'),
   ("random", 'R'), ("version", 'V')]

/-- The lines of several files, always the least of those that are next. -/
def mergeLines (order : Octets → Octets → Ordering) :
    Nat → List (List Octets) → List Octets → List Octets
  | 0, _, found => found.reverse
  | fuel + 1, files, found =>
      let heads := files.zipIdx.filterMap fun (lines, i) => lines.head?.map fun line => (line, i)
      match heads with
      | [] => found.reverse
      | first :: others =>
          let (line, place) := others.foldl
            (fun (least : Octets × Nat) other =>
              if order other.1 least.1 == .lt then other else least)
            first
          mergeLines order fuel (files.modify place List.tail) (line :: found)

/-- Arguments in which positions after a plus sign, and after a minus sign
    behind them, are written as keys.  Both count from zero. -/
def oldKeys : Nat → List String → List String
  | 0, arguments => arguments
  | _, [] => []
  | _, "--" :: rest => "--" :: rest
  | fuel + 1, argument :: rest =>
      let place := fun (t : Octets) (isEnd : Bool) =>
        let field := t.takeWhile isDigit
        let after := t.drop field.length
        let (characters, letters) := match after with
          | '.' :: r => (r.takeWhile isDigit, r.dropWhile isDigit)
          | r => ([], r)
        let isPlace := !field.isEmpty && (after.head? != some '.' || !characters.isEmpty)
          && letters.all fun c => "bdfghiMnRrV".toList.contains c
        let n := valueOfDigits 10 field
        let m := valueOfDigits 10 characters
        if !isPlace then none
        else if isEnd then
          some ((if m = 0 then decimal n else decimal (n + 1) ++ ['.'] ++ decimal m) ++ letters)
        else some (decimal (n + 1) ++ ['.'] ++ decimal (m + 1) ++ letters)
      match argument.toList with
      | '+' :: t =>
          match place t false with
          | none => argument :: oldKeys fuel rest
          | some start =>
              match rest with
              | next :: others =>
                  match next.toList with
                  | '-' :: c :: r =>
                      if isDigit c then
                        match place (c :: r) true with
                        | some finish =>
                            "-k" :: String.ofList (start ++ [','] ++ finish) :: oldKeys fuel others
                        | none => "-k" :: String.ofList start :: oldKeys fuel rest
                      else "-k" :: String.ofList start :: oldKeys fuel rest
                  | _ => "-k" :: String.ofList start :: oldKeys fuel rest
              | [] => ["-k", String.ofList start]
      | _ => argument :: oldKeys fuel rest

/-- The names in a list of files. -/
def namesFromList (list : String) (operands : List String) : Run (List String) := do
  match operands with
  | first :: _ =>
      Run.misuse 2 ("extra operand " ++ (← Run.quoted first)
        ++ "
file operands cannot be combined with --files0-from")
  | [] => do
      match ← inputContent list with
      | .error e => Run.quit 2 ("open failed: " ++ (← Run.shownName list) ++ ": " ++ e.text)
      | .ok t => do
          let names := (recordsOf '\x00' t).map fun r =>
            String.ofList (if r.getLast? == some '\x00' then r.dropLast else r)
          if names.isEmpty then Run.quit 2 ("no input from " ++ (← Run.quoted list))
          else return names

/-- Puts lines in order. -/
def sort : Tool := fun arguments => do
  let g ← given
    (flags "bdfghiMnRrVcCmsuz"
      ++ [valued 'k' "key", valued 'o' "output", valued 't' "field-separator", valued 'S' "buffer-size",
        valued 'T' "temporary-directory", long "sort" .required, long "check" .optional,
        long "parallel" .required, long "batch-size" .required, long "compress-program" .required,
        long "random-source" .required, long "ignore-leading-blanks" .none,
        long "dictionary-order" .none, long "ignore-case" .none, long "general-numeric-sort" .none,
        long "human-numeric-sort" .none, long "ignore-nonprinting" .none, long "month-sort" .none,
        long "numeric-sort" .none, long "random-sort" .none, long "reverse" .none,
        long "version-sort" .none, long "merge" .none, long "stable" .none, long "unique" .none,
        long "zero-terminated" .none, long "debug" .none, long "files0-from" .required]) 2
    (oldKeys (arguments.length + 1) arguments)
  let letters : List (String × Char) :=
    [("ignore-leading-blanks", 'b'), ("dictionary-order", 'd'), ("ignore-case", 'f'),
     ("general-numeric-sort", 'g'), ("human-numeric-sort", 'h'), ("ignore-nonprinting", 'i'),
     ("month-sort", 'M'), ("numeric-sort", 'n'), ("random-sort", 'R'), ("reverse", 'r'),
     ("version-sort", 'V')]
  let mut global := KeyOptions.none
  for (key, value) in g.options do
    let letter ← match letters.lookup key, key.toList with
      | some c, _ => pure (some c)
      | none, [c] => pure (some c)
      | none, _ =>
          if key == "sort" then
            let word ← wordArgument "--sort" (orderWords.map (·.1)) (value.getD "")
            pure (orderWords.lookup word)
          else pure none
    match letter with
    | some c => global := (global.withLetter true true c).getD global
    | none => pure ()
  let mut separator := none
  for t in g.values "t" do
    let c ← match t.toList with
      | [] => Run.quit 2 "empty tab"
      | [c] => pure c
      | ['\\', '0'] => pure '\x00'
      | _ => do Run.quit 2 ("multi-character tab " ++ (← Run.inQuotes t))
    if separator.any fun before => before != c then Run.quit 2 "incompatible tabs"
    separator := some c
  let given ← (g.values "k").mapM keyArgument
  let keys := given.map fun k => if k.options.isNone then { k with options := global } else k
  let keys := if keys.isEmpty && !{ global with isReversed := false }.isNone then
    [⟨0, 0, none, global⟩] else keys
  for k in keys do
    let wrong := k.options.conflict
    if !wrong.isEmpty then Run.quit 2 ("options \x27-" ++ wrong ++ "\x27 are incompatible")
  let has := fun (letter word : String) => g.has letter || g.has word
  let checkQuietly := g.has "C" || ["quiet", "silent"].contains ((g.value? "check").getD "")
  let checks := g.has "c" || g.has "C" || g.has "check"
  let checkLetter := if checkQuietly then "C" else "c"
  if checkQuietly && g.options.any fun (key, value) =>
      key == "c" || (key == "check" && !(["quiet", "silent"].contains (value.getD ""))) then
    Run.quit 2 "options \x27-cC\x27 are incompatible"
  let p : SortPlan := ⟨separator, keys, global, has "s" "stable", has "u" "unique"⟩
  let ending := if has "z" "zero-terminated" then '\x00' else '\n'
  if checks && g.operands.length > 1 then
    Run.quit 2 ("extra operand " ++ (← Run.quoted ((g.operands[1]?).getD "")) ++ " not allowed with -" ++ checkLetter)
  let names ← match g.value? "files0-from" with
    | none => pure (if g.operands.isEmpty then ["-"] else g.operands)
    | some list => namesFromList list g.operands
  -- Files that cannot be read are found before anything is read.
  for name in names do
    if name != "-" then
      match ← Run.status true name with
      | .ok _ => pure ()
      | .error e =>
          Run.quit 2 ((if checks then "open failed: " else "cannot read: ") ++ (← Run.shownName name)
            ++ ": " ++ e.text)
  let contents ← names.mapM fun name => do
    match ← inputContent name with
    | .ok t => return t
    | .error e => do
        let what := if e = .badDescriptor && !checks && !has "m" "merge" then "stat failed: " else "read failed: "
        Run.quit 2 (what ++ (← Run.shownName name) ++ ": " ++ e.text)
  let files := contents.map fun t =>
    (recordsOf ending t).map fun r => if r.getLast? == some ending then r.dropLast else r
  let lines := files.flatten
  if checks then
    match disorder p 1 lines with
    | none => return 0
    | some (n, line) => do
        if !checkQuietly then
          Run.objection (names.headD "-" ++ ":" ++ toString n ++ ": disorder: " ++ String.ofList line)
        return 1
  else do
    let ordered :=
      if has "m" "merge" then mergeLines (lineOrder p) (lines.length + 1) files []
      else lines.mergeSort fun a b => lineOrder p a b != .gt
    let same := fun (a b : Octets) =>
      if keys.isEmpty then a == b else keysOrder p a b == .eq
    let kept := if p.isUnique then uniqueLines same ordered else ordered
    let text := kept.flatMap fun line => line ++ [ending]
    match g.value? "o" with
    | none => do
        Run.print text
        return 0
    | some path => do
        match ← Run.openFile path .write with
        | .error e => Run.quit 2 ("open failed: " ++ (← Run.shownName path) ++ ": " ++ e.text)
        | .ok number => do
            let _ ← fillOpening number text
            return 0

/-! ## Repeated lines -/

/-- Lines that are equal, together. -/
def groupLines (same : Octets → Octets → Bool) (lines : List Octets) : List (List Octets) :=
  ((lines.foldl
    (fun (groups : List (List Octets)) line =>
      match groups with
      | (last :: more) :: rest =>
          if same last line then (line :: last :: more) :: rest else [line] :: groups
      | _ => [line] :: groups)
    []).map List.reverse).reverse

/-- The part of a line that counts for repetitions. -/
def comparedPart (fields skipped : Nat) (width : Option Nat) (folds : Bool) (line : Octets) : Octets :=
  let rest := (afterBlankFields fields line).drop skipped
  let part := match width with
    | some n => rest.take n
    | none => rest
  if folds then part.map lowered else part

/-- Leaves out or counts lines that are repeated. -/
def uniq : Tool := fun arguments => do
  let old := arguments.map fun t =>
    match t.toList with
    | '-' :: c :: rest => if isDigit c && rest.all isDigit then "-f" ++ String.ofList (c :: rest) else t
    | '+' :: c :: rest => if isDigit c && rest.all isDigit then "-s" ++ String.ofList (c :: rest) else t
    | _ => t
  let g ← given
    [flag 'c' "count", flag 'd' "repeated", flag 'D' "", long "all-repeated" .optional,
     valued 'f' "skip-fields", long "group" .optional, flag 'i' "ignore-case",
     valued 's' "skip-chars", flag 'u' "unique", valued 'w' "check-chars",
     flag 'z' "zero-terminated"] 1 old
  for (key, value) in g.options do
    let what := match key with
      | "f" => "fields to skip"
      | "s" => "bytes to skip"
      | "w" => "bytes to compare"
      | _ => ""
    if !what.isEmpty && (decimal? (value.getD "").toList).isNone then
      Run.quit 1 (value.getD "" ++ ": invalid number of " ++ what)
  let number := fun (key : String) => (g.value? key).bind fun t => decimal? t.toList
  let fields := number "f"
  let skipped := number "s"
  let width := number "w"
  let method ← match g.value? "all-repeated" with
    | some t => wordArgument "--all-repeated" ["none", "prepend", "separate"] t
    | none => pure "none"
  let grouping ← match g.value? "group" with
    | some t => wordArgument "--group" ["prepend", "append", "separate", "both"] t
    | none => pure "separate"
  let showsAll := g.has "D" || g.has "all-repeated"
  if g.has "group" && (g.has "c" || g.has "d" || showsAll || g.has "u") then
    Run.misuse 1 "--group is mutually exclusive with -c/-d/-D/-u"
  if g.has "c" && showsAll then
    Run.misuse 1 "printing all duplicated lines and repeat counts is meaningless"
  match g.operands with
  | _ :: _ :: third :: _ => Run.extra 1 third
  | operands => do
      let name := operands.headD "-"
      let ending := if g.has "z" then '\x00' else '\n'
      let input ← match ← openInput name with
        | .ok i => pure i
        | .error e => do Run.quit 1 ((← Run.shownName name) ++ ": " ++ e.text)
      -- The output is opened before the input is read.
      let target ← match operands with
        | [_, target] =>
            if target == "-" then pure none
            else
              match ← Run.openFile target .write with
              | .error e => do Run.quit 1 ((← Run.shownName target) ++ ": " ++ e.text)
              | .ok opening => pure (some opening)
        | _ => pure none
      let t ← match ← Run.readAll input.descriptor with
        | .ok t => pure t
        | .error e => do Run.quit 1 ("error reading " ++ (← Run.quoted name) ++ ": " ++ e.text)
      let lines := (recordsOf ending t).map fun r => if r.getLast? == some ending then r.dropLast else r
      let part := comparedPart (fields.getD 0) (skipped.getD 0) width (g.has "i")
      let groups := groupLines (fun a b => part a == part b) lines
      let line := fun (t : Octets) => t ++ [ending]
      let text :=
        if g.has "group" then
          let shown := groups.map fun group => group.flatMap line
          match grouping with
          | "prepend" => shown.flatMap fun t => ending :: t
          | "append" => shown.flatMap fun t => t ++ [ending]
          | "both" => if shown.isEmpty then [] else shown.flatMap (fun t => ending :: t) ++ [ending]
          | _ => joinWith [ending] shown
        else if showsAll then
          let shown := (groups.filter fun group => group.length > 1).map fun group => group.flatMap line
          if g.has "u" then []
          else
            match method with
            | "prepend" => shown.flatMap fun t => ending :: t
            | "separate" => joinWith [ending] shown
            | _ => shown.flatten
        else
          groups.flatMap fun group =>
            let isRepeated := group.length > 1
            if (g.has "d" && !isRepeated) || (g.has "u" && isRepeated) then []
            else
              (if g.has "c" then padLeft ' ' 7 (decimal group.length) ++ [' '] else [])
                ++ line (group.headD [])
      match target with
      | some opening => do
          let _ ← fillOpening opening text
          return 0
      | none => do
          Run.print text
          return 0

/-! ## Two files -/

/-- Reads two sorted files; a failure ends the program. -/
def linesOfFile (name : String) (ending : Char) : Run (List Octets) := do
  match ← inputContent name with
  | .ok t => return (recordsOf ending t).map fun r => if r.getLast? == some ending then r.dropLast else r
  | .error e => do Run.quit 1 ((← Run.shownName name) ++ ": " ++ e.text)

/-- How far the comparison of two files has come. -/
structure CommState where
  /-- What was written, the latest first. -/
  out : List Octets
  unpaired : Bool
  /-- Whether it was said of the files that they are not in order. -/
  firstWarned : Bool
  secondWarned : Bool
  counts : Nat × Nat × Nat

/-- How the order of the input is checked. -/
inductive OrderCheck where
  | usual
  | always
  | never
deriving DecidableEq

/-- Compares lines that are in order. -/
def compareSorted (check : OrderCheck) (column : Nat → Octets → Octets)
    (warn : Nat → Run Unit) :
    Nat → List Octets → List Octets → Option Octets → Option Octets → CommState → Run CommState
  | 0, _, _, _, _, s => return s
  | fuel + 1, a, b, beforeA, beforeB, s => do
      let checks := fun (unpaired : Bool) => check = .always || (check = .usual && unpaired)
      -- The file that is stepped forward is checked as soon as its next line is read.
      let checked := fun (s : CommState) (first : Bool) (before : Option Octets) (lines : List Octets) => do
        let warned := if first then s.firstWarned else s.secondWarned
        if warned || !checks s.unpaired then pure s
        else
          let pair := match lines with
            | x :: y :: _ => some (x, y)
            | [x] => before.map fun p => (p, x)
            | [] => none
          match pair with
          | some (p, q) =>
              if textOrder p q == .gt then do
                Run.print s.out.reverse.flatten
                warn (if first then 1 else 2)
                let s := { s with out := [] }
                if check = .always then throw (.exited 1)
                pure (if first then { s with firstWarned := true } else { s with secondWarned := true })
              else pure s
          | none => pure s
      match a, b with
      | [], [] => return s
      | x :: more, [] => do
          let (n, m, k) := s.counts
          let s := { s with out := column 1 x :: s.out, unpaired := true, counts := (n + 1, m, k) }
          let s ← checked s true beforeA (x :: more)
          compareSorted check column warn fuel more [] (some x) beforeB s
      | [], y :: more => do
          let (n, m, k) := s.counts
          let s := { s with out := column 2 y :: s.out, unpaired := true, counts := (n, m + 1, k) }
          let s ← checked s false beforeB (y :: more)
          compareSorted check column warn fuel [] more beforeA (some y) s
      | x :: moreA, y :: moreB => do
          let (n, m, k) := s.counts
          match textOrder x y with
          | .lt => do
              let s := { s with out := column 1 x :: s.out, unpaired := true, counts := (n + 1, m, k) }
              let s ← checked s true beforeA (x :: moreA)
              compareSorted check column warn fuel moreA (y :: moreB) (some x) beforeB s
          | .gt => do
              let s := { s with out := column 2 y :: s.out, unpaired := true, counts := (n, m + 1, k) }
              let s ← checked s false beforeB (y :: moreB)
              compareSorted check column warn fuel (x :: moreA) moreB beforeA (some y) s
          | .eq => do
              let s := { s with out := column 3 y :: s.out, counts := (n, m, k + 1) }
              let s ← checked s true beforeA (x :: moreA)
              let s ← checked s false beforeB (y :: moreB)
              compareSorted check column warn fuel moreA moreB (some x) (some y) s

/-- The check that options ask for. -/
def orderCheck (g : Given) : OrderCheck :=
  match g.last? ["check-order", "nocheck-order"] with
  | some "check-order" => .always
  | some _ => .never
  | none => .usual

/-- Shows which lines two files share. -/
def comm : Tool := fun arguments => do
  let g ← given
    (flags "123" ++ [flag 'z' "zero-terminated", long "check-order" .none, long "nocheck-order" .none,
      long "output-delimiter" .required, long "total" .none]) 1 arguments
  let delimiters := g.values "output-delimiter"
  if delimiters.eraseDups.length > 1 then Run.quit 1 "multiple output delimiters specified"
  let delimiter := match delimiters.head? with
    | some "" => ['\x00']
    | some t => t.toList
    | none => ['\t']
  match g.operands with
  | [] => Run.missing 1 "operand"
  | [one] => do Run.missing 1 ("operand after " ++ (← Run.inQuotes one))
  | _ :: _ :: third :: _ => Run.extra 1 third
  | [first, second] => do
      let ending := if g.has "z" then '\x00' else '\n'
      let a ← linesOfFile first ending
      let b ← linesOfFile second ending
      let column := fun (n : Nat) (line : Octets) =>
        let lead := match n with
          | 1 => []
          | 2 => if g.has "1" then [] else delimiter
          | _ => (if g.has "1" then [] else delimiter) ++ if g.has "2" then [] else delimiter
        if g.has (toString n) then [] else lead ++ line ++ [ending]
      let warn := fun (n : Nat) => Run.objection ("file " ++ toString n ++ " is not in sorted order")
      let s ← compareSorted (orderCheck g) column warn (a.length + b.length + 1) a b none none
        ⟨[], false, false, false, (0, 0, 0)⟩
      Run.print s.out.reverse.flatten
      if g.has "total" then
        let (n, m, k) := s.counts
        Run.print (joinWith delimiter [decimal n, decimal m, decimal k, "total".toList] ++ [ending])
      if s.firstWarned || s.secondWarned then
        Run.quit 1 "input is not in sorted order"
      return 0

end HermesBundle.Shell.Tool
