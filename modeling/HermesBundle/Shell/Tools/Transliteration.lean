import HermesBundle.Shell.Format
import HermesBundle.Shell.Pattern
import HermesBundle.Shell.Tools.Invocation

/-! # Transliteration — octets replaced, left out or squeezed

    A set of octets is written as a row of characters, ranges, kinds and
    repetitions.  The octets of one set are replaced by those in the same
    places of another one. -/

namespace HermesBundle.Shell.Tool

/-- A part of the description of a set. -/
inductive SetElement where
  | char (c : Char)
  | range (low high : Char)
  | kind (name : String)
  | equals (c : Char)
  /-- A character some number of times, or as often as it takes. -/
  | times (c : Char) (count : Option Nat)

/-- A character of a description, and whether it was escaped. -/
abbrev SetGlyph := Char × Bool

/-- Reads the escapes of a description. -/
def setGlyphs : Nat → Octets → List SetGlyph → Run (List SetGlyph)
  | 0, _, found => return found.reverse
  | _, [], found => return found.reverse
  | fuel + 1, '\\' :: rest, found => do
      match rest with
      | [] => do
          Run.objection "warning: an unescaped backslash at end of string is not portable"
          return (('\\', false) :: found).reverse
      | c :: after =>
          if isOctal c then
            let digits := (rest.take 3).takeWhile isOctal
            let n := valueOfDigits 8 digits
            if 255 < n then do
              let two := digits.take 2
              Run.objection ("warning: the ambiguous octal escape \\" ++ String.ofList digits
                ++ " is being\n\tinterpreted as the 2-byte sequence \\0" ++ String.ofList two ++ ", "
                ++ String.ofList (digits.drop 2))
              setGlyphs fuel (rest.drop 2) ((Char.ofNat (valueOfDigits 8 two), true) :: found)
            else setGlyphs fuel (rest.drop digits.length) ((Char.ofNat n, true) :: found)
          else
            let d := if "abfnrtv\\".toList.contains c then (letterEscape c).getD c else c
            setGlyphs fuel after ((d, true) :: found)
  | fuel + 1, c :: rest, found => setGlyphs fuel rest ((c, false) :: found)

/-- Whether a glyph is a character that was not escaped. -/
def glyphIs (c : Char) (g : SetGlyph) : Bool := g.1 == c && !g.2

/-- The glyphs up to a mark before a closing bracket, and what follows. -/
def upToClosing (mark : Char) : List SetGlyph → List SetGlyph → Option (List SetGlyph × List SetGlyph)
  | found, a :: b :: rest =>
      if glyphIs mark a && glyphIs ']' b then some (found.reverse, rest)
      else upToClosing mark (a :: found) (b :: rest)
  | _, _ => none

/-- The characters of glyphs as a name. -/
def glyphsText (gs : List SetGlyph) : String := String.ofList (gs.map (·.1))

/-- What comes of a bracket in a description: an element and what follows,
    or nothing. -/
def bracketElement (gs : List SetGlyph) : Run (Option (SetElement × List SetGlyph)) := do
  match gs with
  | c :: star :: rest =>
      let repetition := fun (_ : Unit) => do
        if glyphIs '*' star then
          let digits := rest.takeWhile fun g => !glyphIs ']' g
          match rest.drop digits.length with
          | _ :: after =>
              let t := digits.map (·.1)
              if t.isEmpty then return some (SetElement.times c.1 none, after)
              else
                let base := if t.head? == some '0' then 8 else 10
                if t.all fun d => digitValue d < base then
                  let n := valueOfDigits base t
                  return some (.times c.1 (if n = 0 then none else some n), after)
                else
                  Run.quit 1 ("invalid repeat count " ++ (← Run.inQuotes (String.ofList t))
                    ++ " in [c*n] construct")
          | [] => return none
        else return none
      let isCounted := fun (gs : List SetGlyph) =>
        match gs with
        | s :: more =>
            glyphIs '*' s && (match more.dropWhile fun g => isDigit g.1 with
              | close :: _ => glyphIs ']' close
              | [] => false)
        | [] => false
      if glyphIs ':' c then
        match upToClosing ':' [] (star :: rest) with
        | some (name, after) =>
            let t := glyphsText name
            if name.isEmpty then
              if isCounted (star :: rest) then repetition ()
              else Run.quit 1 "missing character class name \x27[::]\x27"
            else if (characterKind t).isSome then return some (.kind t, after)
            else if isCounted (star :: rest) then repetition ()
            else Run.quit 1 ("invalid character class " ++ (← Run.inQuotes t))
        | none => repetition ()
      else if glyphIs '=' c then
        match upToClosing '=' [] (star :: rest) with
        | some (name, after) =>
            match name with
            | [d] => return some (.equals d.1, after)
            | [] =>
                if isCounted (star :: rest) then repetition ()
                else Run.quit 1 "missing equivalence class character \x27[==]\x27"
            | name =>
                if isCounted (star :: rest) then repetition ()
                else
                  Run.quit 1 (glyphsText name ++ ": equivalence class operand must be a single character")
        | none => repetition ()
      else repetition ()
  | _ => return none

/-- A character in a complaint about a range. -/
def rangeEnd (c : Char) : Octets :=
  if isPrintable c then [c] else '\\' :: zeroPadded 8 3 c.toNat

/-- The elements of a description. -/
def setElements : Nat → List SetGlyph → List SetElement → Run (List SetElement)
  | 0, _, found => return found.reverse
  | _, [], found => return found.reverse
  | fuel + 1, g :: rest, found => do
      let bracket ← if glyphIs '[' g && rest.length ≥ 2 then bracketElement rest else pure none
      match bracket with
      | some (e, after) => setElements fuel after (e :: found)
      | none =>
          match rest with
          | dash :: high :: after =>
              if glyphIs '-' dash then
                if high.1 < g.1 then
                  Run.quit 1 ("range-endpoints of \x27" ++ String.ofList (rangeEnd g.1) ++ "-"
                    ++ String.ofList (rangeEnd high.1) ++ "\x27 are in reverse collating sequence order")
                else setElements fuel after (.range g.1 high.1 :: found)
              else setElements fuel rest (.char g.1 :: found)
          | _ => setElements fuel rest (.char g.1 :: found)

/-- The elements of a description. -/
def setOf (t : String) : Run (List SetElement) := do
  let gs ← setGlyphs (t.length + 1) t.toList []
  setElements (gs.length + 1) gs []

/-- All octets in their order. -/
def allOctets : Octets := (List.range 256).map Char.ofNat

/-- The octets of an element; repetitions as often as it takes have a
    length. -/
def elementOctets (fill : Nat) : SetElement → Octets
  | .char c => [c]
  | .range low high => (List.range (high.toNat - low.toNat + 1)).map fun n => Char.ofNat (low.toNat + n)
  | .kind name => allOctets.filter ((characterKind name).getD fun _ => false)
  | .equals c => [c]
  | .times c none => List.replicate fill c
  | .times c (some n) => List.replicate n c

/-- Whether an element is one of the kinds of letters with case. -/
def isCaseKind : SetElement → Bool
  | .kind name => name == "upper" || name == "lower"
  | _ => false

/-- The places at which kinds of letters with case start. -/
def casePlaces (fill : Nat) : Nat → List SetElement → List Nat
  | _, [] => []
  | at_, e :: rest =>
      let others := casePlaces fill (at_ + (elementOctets fill e).length) rest
      if isCaseKind e then at_ :: others else others

/-- The octets of a set. -/
def setOctets (fill : Nat) (elements : List SetElement) : Octets :=
  elements.flatMap (elementOctets fill)

/-- Whether an element is a repetition as often as it takes. -/
def isOpen : SetElement → Bool
  | .times _ none => true
  | _ => false

/-- The last octet of a set that is drawn out; kinds cannot be. -/
def lastOfSet (elements : List SetElement) : Run Char := do
  match elements.getLast? with
  | some (.kind _) =>
      Run.quit 1
        "when translating with string1 longer than string2,\nthe latter string must not end with a character class"
  | _ => return ((setOctets 1 elements).getLast?).getD '\x00'

/-- Squeezes runs of an octet of a set to one. -/
def squeezeRuns (members : Char → Bool) : Option Char → Octets → Octets → Octets
  | _, [], found => found.reverse
  | last, c :: rest, found =>
      if last == some c && members c then squeezeRuns members last rest found
      else squeezeRuns members (some c) rest (c :: found)

/-- A table of octets, as an array of their numbers. -/
def transliterationTable (source target : Octets) : Array Char :=
  (source.zip target).foldl (fun (t : Array Char) (a, b) => t.setIfInBounds a.toNat b)
    (List.toArray allOctets)

/-- Passes on the input block by block; what a step keeps is handed on. -/
def changeInput {σ : Type} (step : σ → Octets → σ × Octets) : Nat → σ → Run Unit
  | 0, _ => return ()
  | fuel + 1, s => do
      match ← Run.read 0 65536 with
      | .error e => Run.quit 1 ("read error: " ++ e.text)
      | .ok [] => return ()
      | .ok t => do
          let (s, out) := step s t
          Run.print out
          changeInput step fuel s

/-- Replaces, squeezes or leaves out octets. -/
def tr : Tool := fun arguments => do
  let g ← givenBefore
    [flag 'c' "complement", flag 'C' "", flag 'd' "delete", flag 's' "squeeze-repeats",
     flag 't' "truncate-set1"] 1 arguments
  let complements := g.has "c" || g.has "C"
  let deletes := g.has "d"
  let squeezes := g.has "s"
  let fewest := if deletes == squeezes then 2 else 1
  let most := if deletes && !squeezes then 1 else 2
  let count := g.operands.length
  if count < fewest then
    match g.operands.getLast? with
    | none => Run.missing 1 "operand"
    | some last => do
        Run.objection ("missing operand after " ++ (← Run.inQuotes last))
        Run.remark (if squeezes then "Two strings must be given when both deleting and squeezing repeats."
          else "Two strings must be given when translating.")
        Run.hint
        throw (.exited 1)
  if most < count then
    Run.objection ("extra operand " ++ (← Run.inQuotes ((g.operands[most]?).getD "")))
    if count = 2 then
      Run.remark "Only one string may be given when deleting without squeezing repeats."
    Run.hint
    throw (.exited 1)
  let first ← setOf (g.operands.headD "")
  let second ← match g.operands[1]? with
    | some t => do pure (some (← setOf t))
    | none => pure none
  if first.any isOpen then
    Run.quit 1 "the [c*] repeat construct may not appear in string1"
  let plain := setOctets 0 first
  let source := if complements then allOctets.filter fun c => !plain.contains c else plain
  match second with
  | none => do
      let member := source.foldl (fun (t : Array Bool) c => t.setIfInBounds c.toNat true) (Array.replicate 256 false)
      let holds := fun (c : Char) => (member[c.toNat]?).getD false
      if deletes then
        changeInput (fun () t => ((), t.filter fun c => !holds c)) Run.blockLimit ()
      else
        changeInput
          (fun last t => (t.getLast?.or last, squeezeRuns holds last t []))
          Run.blockLimit (none : Option Char)
      return 0
  | some elements => do
      let openCount := (elements.filter isOpen).length
      if openCount > 1 then
        Run.quit 1 "only one [c*] repeat construct may appear in string2"
      let bare := (setOctets 0 elements).length
      let fill := source.length - bare
      let target := setOctets fill elements
      let translates := !deletes
      if !translates then
        if openCount > 0 then
          Run.quit 1 "the [c*] construct may appear in string2 only when translating"
        let member := source.foldl (fun (t : Array Bool) c => t.setIfInBounds c.toNat true) (Array.replicate 256 false)
        let squeezed := target.foldl (fun (t : Array Bool) c => t.setIfInBounds c.toNat true) (Array.replicate 256 false)
        changeInput
          (fun (last : Option Char) t =>
            let kept := t.filter fun c => !(member[c.toNat]?).getD false
            (kept.getLast?.or last, squeezeRuns (fun c => (squeezed[c.toNat]?).getD false) last kept []))
          Run.blockLimit none
        return 0
      else do
        let isEquals := fun (e : SetElement) => match e with
          | .equals _ => true
          | _ => false
        let isOtherKind := fun (e : SetElement) => match e with
          | .kind name => name != "upper" && name != "lower"
          | _ => false
        let isKind := fun (e : SetElement) => match e with
          | .kind _ => true
          | _ => false
        if elements.any isEquals then
          Run.quit 1 "[=c=] expressions may not appear in string2 when translating"
        if elements.any isOtherKind then
          Run.quit 1
            "when translating, the only character classes that may appear in\nstring2 are \x27upper\x27 and \x27lower\x27"
        if !complements && elements.any isKind then
          let mine := casePlaces 0 0 first
          let theirs := (casePlaces fill 0 elements).filter fun n => n < max source.length 1
          if theirs.any fun n => !mine.contains n then
            Run.quit 1 "misaligned [:upper:] and/or [:lower:] construct"
        let target ←
          if source.length > target.length && !g.has "t" then
            if target.isEmpty then
              Run.quit 1 "when not truncating set1, string2 must be non-empty"
            else do
              let last ← lastOfSet elements
              pure (target ++ List.replicate (source.length - target.length) last)
          else pure target
        if complements && first.any isKind then
          let same := target.eraseDups.length ≤ 1 && target.length == source.length
          if !same then
            Run.quit 1
              "when translating with complemented character classes,\nstring2 must map all characters in the domain to one"
        let table := transliterationTable source target
        let image := fun (c : Char) => (table[c.toNat]?).getD c
        if squeezes then
          let squeezed := target.foldl (fun (t : Array Bool) c => t.setIfInBounds c.toNat true) (Array.replicate 256 false)
          changeInput
            (fun (last : Option Char) t =>
              let t := t.map image
              (t.getLast?.or last, squeezeRuns (fun c => (squeezed[c.toNat]?).getD false) last t []))
            Run.blockLimit none
        else
          changeInput (fun () t => ((), t.map image)) Run.blockLimit ()
        return 0

end HermesBundle.Shell.Tool
