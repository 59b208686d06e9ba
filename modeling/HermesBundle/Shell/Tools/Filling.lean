import HermesBundle.Shell.Tools.Passing

/-! # Filling — paragraphs filled up to a width

    A paragraph is a run of lines that are indented alike.  Its words are
    set anew so that the lines come close to a goal: every way to break
    them has a cost, and the cheapest one is taken.  The costs are found
    from the last word to the first. -/

namespace HermesBundle.Shell.Tool

/-- How paragraphs are filled. -/
structure FillStyle where
  width : Nat
  goal : Int
  /-- The indentation of the first two lines is kept. -/
  keepsTwo : Bool
  /-- The first line is indented otherwise than the second one. -/
  isTagged : Bool
  /-- Lines are broken but not joined. -/
  onlySplits : Bool
  isUniform : Bool
  /-- What stands in front of the lines that are filled, without blanks
      around it, and how many blanks there are. -/
  mark : Octets
  blanksBefore : Nat
  blanksAfter : Nat

/-- A word of a paragraph. -/
structure FillWord where
  text : Octets
  /-- How many blanks follow. -/
  space : Int
  opensParenthesis : Bool
  endsClause : Bool
  hasPeriod : Bool
  endsSentence : Bool
deriving Inhabited

/-- Where the reading of the input is. -/
structure FillPlace where
  rest : Octets
  column : Nat
  markIndent : Nat
  hasTabs : Bool

/-- A word without what follows it. -/
def wordOf (t : Octets) : FillWord :=
  let last := t.getLast?.getD ' '
  let kernel := (t.drop 1).reverse.dropWhile fun c => ")]\x27\x22".toList.contains c
  let period := kernel.head?.getD (t.head?.getD ' ')
  { text := t, space := 0
    opensParenthesis := "([\x27\x60\x22".toList.contains (t.head?.getD ' ')
    endsClause := isPunctuation last, hasPeriod := ".?!".toList.contains period
    endsSentence := false }

/-- Passes over blanks. -/
def passBlanks : Octets → FillPlace → FillPlace
  | ' ' :: rest, p => passBlanks rest { p with column := p.column + 1 }
  | '\t' :: rest, p => passBlanks rest { p with column := (p.column / 8 + 1) * 8, hasTabs := true }
  | rest, p => { p with rest := rest }

/-- Passes over the mark of a line as far as it is there. -/
def passMark : Octets → Octets → FillPlace → Option FillPlace
  | [], rest, p => some { p with rest := rest }
  | m :: mark, c :: rest, p =>
      if m == c then passMark mark rest { p with column := p.column + 1, rest := rest } else none
  | _ :: _, [], _ => none

/-- How much of a mark is there. -/
def markedLength : Octets → Octets → Nat
  | m :: mark, c :: rest => if m == c then markedLength mark rest + 1 else 0
  | _, _ => 0

/-- Passes over what stands in front of the text of a line. -/
def passLead (f : FillStyle) (p : FillPlace) : FillPlace :=
  let p := passBlanks p.rest { p with column := 0 }
  if f.mark.isEmpty then { p with markIndent := min f.blanksBefore p.column }
  else
    let p := { p with markIndent := p.column }
    match passMark f.mark p.rest p with
    | some p => passBlanks p.rest p
    | none =>
        let n := markedLength f.mark p.rest
        { p with column := p.column + n, rest := p.rest.drop n }

/-- The words of a line up to its end. -/
def wordsOfLine (f : FillStyle) : Nat → FillPlace → List FillWord → List FillWord × FillPlace
  | 0, p, found => (found, p)
  | fuel + 1, p, found =>
      match p.rest with
      | [] => (found, p)
      | c :: more =>
          let t := c :: more.takeWhile fun c => !isSpace c
          let p := { p with rest := p.rest.drop t.length, column := p.column + t.length }
          let start := p.column
          let p := passBlanks p.rest p
          let word := wordOf t
          let atEnd := p.rest.isEmpty || p.rest.head? == some '\n'
          let space : Int := (p.column - start : Nat)
          let ends := p.rest.isEmpty || (word.hasPeriod && (atEnd || space > 1))
          let space := if atEnd || f.isUniform then if ends then 2 else 1 else space
          let word := { word with space := space, endsSentence := ends }
          if atEnd then (word :: found, p) else wordsOfLine f fuel p (word :: found)

/-- Reads a line and what stands in front of the next one. -/
def takeLine (f : FillStyle) (p : FillPlace) (found : List FillWord) : List FillWord × FillPlace :=
  let (found, p) := wordsOfLine f (p.rest.length + 1) p found
  (found, passLead f { p with rest := p.rest.drop 1 })

/-- Reads lines as long as they belong to a paragraph. -/
def takeLines (f : FillStyle) (belongs : FillPlace → Bool) :
    Nat → FillPlace → List FillWord → List FillWord × FillPlace
  | 0, p, found => (found, p)
  | fuel + 1, p, found =>
      if belongs p then
        let (found, p) := takeLine f p found
        takeLines f belongs fuel p found
      else (found, p)

/-! ## Costs -/

/-- The best way to go on from a word. -/
structure FillChoice where
  cost : Int
  next : Nat
  length : Int
deriving Inhabited

/-- The cost of a line that starts with some word, apart from its length. -/
def startCost (words : Array FillWord) (i : Nat) : Int :=
  let base : Int := 4900
  let this := words[i]!
  let base :=
    if i = 0 then base
    else
      let before := words[i - 1]!
      if before.hasPeriod then if before.endsSentence then base - 2500 else base + 360000
      else if before.endsClause then base - 1600
      else if i > 1 && (words[i - 2]!).endsSentence then base + 40000 / ((before.text.length : Int) + 2)
      else base
  if this.opensParenthesis then base - 1600
  else if this.endsSentence then base + 22500 / ((this.text.length : Int) + 2)
  else base

/-- The cost of a line of some length before a word. -/
def lengthCost (f : FillStyle) (count : Nat) (choices : Array FillChoice) (next : Nat) (length : Int) : Int :=
  if next = count then 0
  else
    let n := (f.goal - length) * 10
    let after := choices[next]!
    if after.next = count then n * n
    else
      let m := (length - after.length) * 10
      n * n + m * m / 2

/-- The best end of a line that starts with some word. -/
def bestEnd (f : FillStyle) (words : Array FillWord) (choices : Array FillChoice) (isFirst : Bool)
    (lengthBefore : Int) : Nat → Nat → Int → Option FillChoice → Option FillChoice
  | 0, _, _, best => best
  | fuel + 1, next, length, best =>
      let count := words.size
      let after := if next = count then 0 else (choices[next]!).cost
      let ragged := (length - lengthBefore) * 10
      let cost := lengthCost f count choices next length + after
        + if isFirst && lengthBefore > 0 then ragged * ragged / 2 else 0
      let best := if best.all fun b => cost < b.cost then some ⟨cost, next, length⟩ else best
      if next = count then best
      else
        let length := length + (words[next - 1]!).space + (words[next]!).text.length
        if length < f.width then bestEnd f words choices isFirst lengthBefore fuel (next + 1) length best
        else best

/-- The best ways to go on, from the last word to the first. -/
def fillChoices (f : FillStyle) (words : Array FillWord) (firstIndent otherIndent : Nat)
    (lengthBefore : Int) : Nat → Array FillChoice → Array FillChoice
  | 0, choices => choices
  | i + 1, choices =>
      let indent : Int := if i = 0 then firstIndent else otherIndent
      let choice := (bestEnd f words choices (i = 0) lengthBefore (words.size + 1) (i + 1)
        (indent + (words[i]!).text.length) none).getD ⟨0, words.size, 0⟩
      let choice := { choice with cost := choice.cost + startCost words i }
      fillChoices f words firstIndent otherIndent lengthBefore i (choices.setIfInBounds i choice)

/-! ## Writing -/

/-- Blanks from one column on; tabs are used where the input has them. -/
def blanksFrom (hasTabs : Bool) (column target : Nat) : Octets :=
  let stop := target / 8 * 8
  if hasTabs && column + 1 < stop then
    List.replicate (stop / 8 - column / 8) '\t' ++ List.replicate (target - stop) ' '
  else List.replicate (target - column) ' '

/-- A line of words, and its length. -/
def filledLine (f : FillStyle) (hasTabs : Bool) (markIndent indent : Nat) (line : List FillWord) :
    Octets × Nat :=
  let lead := blanksFrom hasTabs 0 markIndent ++ f.mark
  let column := markIndent + f.mark.length
  let start := lead ++ blanksFrom hasTabs column indent
  let rec go : List FillWord → Nat → List Octets → List Octets × Nat
    | [], column, out => (out, column)
    | [last], column, out => (last.text :: out, column + last.text.length)
    | w :: rest, column, out =>
        let column := column + w.text.length
        let target := column + w.space.toNat
        go rest target (blanksFrom hasTabs column target :: w.text :: out)
  let (out, column) := go line (max column indent) [start]
  (out.reverse.flatten, column)

/-- The lines of a paragraph, and the length of the last one. -/
def filledLines (f : FillStyle) (hasTabs : Bool) (markIndent otherIndent : Nat) (words : Array FillWord)
    (choices : Array FillChoice) : Nat → Nat → Nat → List Octets → List Octets
  | 0, _, _, out => out
  | fuel + 1, i, indent, out =>
      if words.size ≤ i then out
      else
        let next := (choices[i]!).next
        let (line, _) := filledLine f hasTabs markIndent indent (words.extract i next).toList
        filledLines f hasTabs markIndent otherIndent words choices fuel (max (i + 1) next) otherIndent
          (['\n'] :: line :: out)

/-- What is left of a line that is not filled. -/
def copiedLine (f : FillStyle) (p : FillPlace) : Octets :=
  let line := p.rest.takeWhile (· != '\n')
  let atEnd := p.rest.isEmpty
  if p.column > p.markIndent || !line.isEmpty then
    let lead := blanksFrom p.hasTabs 0 p.markIndent
    let shown := f.mark.take (p.column - p.markIndent)
    let column := p.markIndent + shown.length
    let gap := if line.isEmpty then [] else blanksFrom p.hasTabs column p.column
    let ending := if atEnd && p.markIndent + f.mark.length ≤ p.column then ['\n'] else []
    lead ++ shown ++ gap ++ ending ++ line
  else line

/-- Fills the paragraphs of a text.  `otherIndent` is the indentation of
    lines after the first one in the paragraph before. -/
def fillText (f : FillStyle) : Nat → FillPlace → Nat → List Octets → List Octets
  | 0, _, _, out => out
  | fuel + 1, p, otherIndent, out =>
      let fullLength := f.mark.length + f.blanksAfter
      let isBlankLine := p.rest.isEmpty || p.rest.head? == some '\n'
      -- Marked lines are filled if they are indented far enough.
      if isBlankLine || p.markIndent < f.blanksBefore || p.column < p.markIndent + fullLength then
        let line := copiedLine f p
        let rest := p.rest.dropWhile (· != '\n')
        match rest with
        | [] => line :: out
        | _ :: rest => fillText f fuel (passLead f { p with rest := rest }) otherIndent (['\n'] :: line :: out)
      else
        let markIndent := p.markIndent
        let firstIndent := p.column
        let goesOn := fun (p : FillPlace) =>
          p.markIndent == markIndent && p.markIndent + fullLength ≤ p.column && !p.rest.isEmpty
            && p.rest.head? != some '\n'
        let (words, p) := takeLine f p []
        let isSame := goesOn p
        let otherIndent :=
          if f.onlySplits then firstIndent
          else if f.keepsTwo then if isSame then p.column else firstIndent
          else if f.isTagged then
            if isSame && p.column != firstIndent then p.column
            else if otherIndent == firstIndent then if firstIndent = 0 then 3 else 0
            else otherIndent
          else firstIndent
        let takesMore :=
          if f.onlySplits then false
          else if f.isTagged then isSame && p.column != firstIndent
          else isSame
        let belongs := fun (p : FillPlace) => goesOn p && p.column == otherIndent
        let (words, p) :=
          if takesMore then takeLines f belongs (p.rest.length + 1) p words else (words, p)
        let words := match words with
          | last :: before => { last with hasPeriod := true, endsSentence := true } :: before
          | [] => []
        let all := words.reverse.toArray
        let choices := fillChoices f all firstIndent otherIndent 0 all.size
          (Array.replicate all.size ⟨0, all.size, 0⟩)
        let out := filledLines f p.hasTabs markIndent otherIndent all choices (all.size + 1) 0 firstIndent out
        fillText f fuel p otherIndent out

/-- Fills paragraphs. -/
def fmt : Tool := fun arguments => do
  let arguments := match arguments with
    | first :: rest =>
        match first.toList with
        | '-' :: c :: t => if isDigit c then ("-w" ++ String.ofList (c :: t)) :: rest else first :: rest
        | _ => first :: rest
    | [] => []
  let g ← given
    [flag 'c' "crown-margin", flag 's' "split-only", flag 't' "tagged-paragraph",
     flag 'u' "uniform-spacing", valued 'p' "prefix", valued 'w' "width", valued 'g' "goal"] 1 arguments
  let givenWidth ← match g.value? "w" with
    | some t => do
        let n ← boundedArgument 1 "" 0 2500 "invalid width" t
        pure (some n)
    | none => pure none
  let givenGoal ← match g.value? "g" with
    | some t => do
        let n ← boundedArgument 1 "" 0 (givenWidth.getD 75) "invalid width" t
        pure (some n)
    | none => pure none
  let width := match givenWidth, givenGoal with
    | some w, _ => w
    | none, some goal => goal + 10
    | none, none => 75
  let goal := givenGoal.getD (width * 187 / 200)
  let marked := ((g.value? "p").getD "").toList
  let bare := marked.dropWhile (· == ' ')
  let mark := (bare.reverse.dropWhile (· == ' ')).reverse
  let f : FillStyle :=
    { width := width, goal := goal, keepsTwo := g.has "c", isTagged := g.has "t"
      onlySplits := g.has "s", isUniform := g.has "u", mark := mark
      blanksBefore := marked.length - bare.length, blanksAfter := bare.length - mark.length }
  overall
    (fun name => do
      match ← inputContent name with
      | .error .isDirectory => do
          Run.objection "read error"
          return 1
      | .error .badDescriptor => do
          Run.objection "read error"
          return 1
      | .error e => do
          Run.objection ("cannot open " ++ (← Run.quoted name) ++ " for reading: " ++ e.text)
          return 1
      | .ok t => do
          let start : FillPlace := passLead f ⟨t, 0, 0, false⟩
          Run.print (fillText f (t.length + 2) start 0 []).reverse.flatten
          return 0)
    (if g.operands.isEmpty then ["-"] else g.operands) 0

end HermesBundle.Shell.Tool
