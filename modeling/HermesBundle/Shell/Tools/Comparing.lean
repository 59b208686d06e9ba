import HermesBundle.Shell.Alignment
import HermesBundle.Shell.Tools.Transfer
import HermesBundle.Shell.Tools.Times

/-! # Comparing — programs that say how files differ

    Files are compared octet by octet, or line by line so that the lines
    are shown that have to be taken away from one file and put into it to
    get the other.  Status 1 says that they differ, 2 that something is
    wrong. -/

namespace HermesBundle.Shell.Tool

/-- A complaint about how a program is used, which ends it; the hint names the
    program as well. -/
def wrongUse {α : Type} (t : String) : Run α := do
  Run.objection t
  Run.objection ("Try \x27" ++ (← Run.called) ++ " --help\x27 for more information.")
  throw (.exited 2)

/-- The options of a comparing program. -/
def givenToCompare (specs : List OptionSpec) (arguments : List String) : Run Given :=
  givenForUse specs ⟨[], true⟩ 2 arguments

/-! ## Octets -/

/-- An octet in the notation for what cannot be seen. -/
def visibleOctet (c : Char) : Octets :=
  let low := fun (n : Nat) =>
    if n < 32 then ['\x5e', Char.ofNat (n + 64)] else if n = 127 then ['\x5e', '?'] else [Char.ofNat n]
  if c.toNat < 128 then low c.toNat else 'M' :: '-' :: low (c.toNat - 128)

/-- A number for an option of a comparison, with a unit; what is left of the
    text is returned. -/
def leadingQuantity (t : Octets) : Option (Nat × Octets) :=
  let digits := t.takeWhile isDigit
  let rest := t.drop digits.length
  let unit := rest.takeWhile fun c => isLetter c
  match digits.isEmpty, unitFactor "kKMGTPEZY" unit with
  | false, some factor => some (valueOfDigits 10 digits * factor, rest.drop unit.length)
  | _, _ => none

/-- How many octets are passed over in each of two files. -/
def skipArgument (t : String) : Run (Nat × Nat) := do
  let refuse := fun (t : Octets) =>
    wrongUse ("invalid --ignore-initial value \x27" ++ String.ofList t ++ "\x27")
  match leadingQuantity t.toList with
  | some (n, []) => return (n, n)
  | some (n, ':' :: rest) =>
      match leadingQuantity rest with
      | some (m, []) => return (n, m)
      | _ => refuse rest
  | _ => refuse t.toList

/-- How octets are compared. -/
structure OctetComparison where
  first : String
  second : String
  showsOctets : Bool
  /-- Whether all differences are shown. -/
  showsAll : Bool
  isSilent : Bool
  /-- Whether what is printed can be seen by anyone. -/
  isSeen : Bool
  /-- How wide numbers of octets are. -/
  width : Nat

/-- An octet in octal digits, and as it is seen if that is wanted. -/
def octetColumns (c : OctetComparison) (x : Char) : Octets :=
  padLeft ' ' 3 (digitsOf 8 x.toNat) ++ if c.showsOctets then ' ' :: visibleOctet x else []

/-- Says that one file has ended. -/
def tellEnd (c : OctetComparison) (name : String) (number line : Nat) (atStart : Bool) : Run Nat := do
  if !c.isSilent then
    let rest :=
      if number = 1 then " which is empty"
      else
        " after byte " ++ toString (number - 1)
          ++ if c.showsAll || !c.isSeen then ""
            else if atStart then ", line " ++ toString (line - 1)
            else ", in line " ++ toString line
    Run.objection ("EOF on " ++ name ++ rest)
  return 1

/-- Compares octets from some number and line on. -/
def compareOctets (c : OctetComparison) :
    Octets → Octets → Nat → Nat → Bool → Nat → Run Nat
  | [], [], _, _, _, status => return status
  | [], _ :: _, number, line, atStart, _ => tellEnd c c.first number line atStart
  | _ :: _, [], number, line, atStart, _ => tellEnd c c.second number line atStart
  | x :: xs, y :: ys, number, line, _, status => do
      if x == y then
        compareOctets c xs ys (number + 1) (if x == '\n' then line + 1 else line) (x == '\n') status
      else if c.isSilent || !c.isSeen then return 1
      else if c.showsAll then
        let left := octetColumns c x
        Run.printLine (padLeft ' ' c.width (decimal number) ++ [' ']
          ++ (if c.showsOctets then padRight ' ' 8 left else left) ++ [' '] ++ octetColumns c y)
        compareOctets c xs ys (number + 1) (if x == '\n' then line + 1 else line) (x == '\n') 1
      else do
        let unit := if c.showsOctets || (← Run.isUtf8) then "byte" else "char"
        Run.print (c.first ++ " " ++ c.second ++ " differ: " ++ unit ++ " " ++ toString number
          ++ ", line " ++ toString line).toList
        if c.showsOctets then
          Run.print (" is ".toList ++ octetColumns c x ++ [' '] ++ octetColumns c y)
        Run.print ['\n']
        return 1

/-- Compares two files octet by octet. -/
def cmp : Tool := fun arguments => do
  let g ← givenToCompare
    [flag 'b' "print-bytes", flag 'c' "print-chars", valued 'i' "ignore-initial", flag 'l' "verbose",
     valued 'n' "bytes", flag 's' "silent", long "quiet" .none] arguments
  let mut skip := (0, 0)
  let mut limit : Option Nat := none
  let mut showsAll := false
  let mut isSilent := false
  for (key, value) in g.options do
    let t := value.getD ""
    match key with
    | "i" => skip ← skipArgument t
    | "n" =>
        match leadingQuantity t.toList with
        | some (n, []) => limit := some n
        | _ => wrongUse ("invalid --bytes value \x27" ++ t ++ "\x27")
    | "l" =>
        if isSilent then wrongUse "options -l and -s are incompatible"
        showsAll := true
    | "b" => pure ()
    | "c" => pure ()
    | _ =>
        if showsAll then wrongUse "options -l and -s are incompatible"
        isSilent := true
  let first ← match g.operands with
    | [] => wrongUse ("missing operand after \x27" ++ (arguments.getLast?.getD (← Run.called)) ++ "\x27")
    | first :: _ => pure first
  let second := g.operands[1]?.getD "-"
  match g.operands[2]? with
  | none => pure ()
  | some t => do
      let n ← skipArgument t
      skip := (n.1, skip.2)
  match g.operands[3]? with
  | none => pure ()
  | some t => do
      let n ← skipArgument t
      skip := (skip.1, n.1)
  match g.operands[4]? with
  | none => pure ()
  | some t => wrongUse ("extra operand \x27" ++ t ++ "\x27")
  let isRegular := fun (f : FileStatus) => f.kind == .regular
  let (isSame, counts) ← match ← statusOf first, ← statusOf second with
    | .ok a, .ok b =>
        pure (a.location == b.location && first != "-" && skip.1 = skip.2, isRegular a, isRegular b)
    | .error e, _ => do
        if !isSilent then Run.objection (first ++ ": " ++ e.text)
        throw (.exited 2)
    | _, .error e => do
        if !isSilent then Run.objection (second ++ ": " ++ e.text)
        throw (.exited 2)
  if isSame || first == second && skip.1 = skip.2 then return 0
  let take := fun (t : Octets) (n : Nat) => match limit with
    | some limit => (t.drop n).take limit
    | none => t.drop n
  match ← inputContent first, ← inputContent second with
  | .error e, _ => Run.quit 2 (first ++ ": " ++ e.text)
  | _, .error e => Run.quit 2 (second ++ ": " ++ e.text)
  | .ok a, .ok b => do
      let a := take a skip.1
      let b := take b skip.2
      let sizes := (if counts.1 then [a.length] else []) ++ (if counts.2 then [b.length] else [])
      let width := ((sizes.min?.map fun n => (decimal n).length).getD 19)
      let isSeen := match ← Run.opening 1 with
        | none => false
        | some (_, o) =>
            match o.stream with
            | .nothing => false
            | _ => true
      compareOctets ⟨first, second, g.has "b" || g.has "c", showsAll, isSilent, isSeen, width⟩
        a b 1 1 true 0
where
  /-- What can be asked of an input. -/
  statusOf (name : String) : Run (Except Errno FileStatus) :=
    if name == "-" then Run.descriptorStatus 0 else Run.status true name

/-! ## Lines -/

/-- How differences are shown. -/
inductive DifferenceForm where
  | plain
  /-- With some lines before and after. -/
  | unified (lines : Nat)
  | context (lines : Nat)
  /-- Only whether there are any. -/
  | brief

/-- How files are compared line by line. -/
structure LineComparison where
  form : DifferenceForm
  ignoresCase : Bool
  /-- How much of blanks is ignored: nothing, those at the end, their number or
      all. -/
  ignoredBlanks : Nat
  ignoresReturns : Bool
  tellsSame : Bool
  isRecursive : Bool
  /-- Whether a file that is missing is taken for an empty one. -/
  takesMissing : Bool
  isText : Bool
  labels : List String
  /-- The options as they were given. -/
  options : List String
  tabsLead : Bool

/-- A side of a comparison. -/
structure Side where
  name : String
  lines : Array Octets
  /-- Whether the last line is not ended. -/
  isOpen : Bool
  modified : Int

/-- A text with every row of blanks cut to one. -/
def singleBlanks : Octets → Octets
  | [] => []
  | c :: rest =>
      if isSpace c then
        match singleBlanks rest with
        | ' ' :: more => ' ' :: more
        | more => ' ' :: more
      else c :: singleBlanks rest

/-- What counts of a line. -/
def LineComparison.counted (p : LineComparison) (t : Octets) : Octets :=
  let t := if p.ignoresReturns && t.getLast? == some '\r' then t.dropLast else t
  let t := if p.ignoresCase then t.map lowered else t
  let withoutEnd := fun (t : Octets) => (t.reverse.dropWhile isSpace).reverse
  match p.ignoredBlanks with
  | 0 => t
  | 1 => withoutEnd t
  | 2 => withoutEnd (singleBlanks t)
  | _ => t.filter fun c => !isSpace c

/-- The lines of a side as they count; a last line that is not ended is like
    no other unless blanks are ignored. -/
def countedLines (p : LineComparison) (s : Side) : List Octets :=
  s.lines.toList.zipIdx.map fun (t, n) =>
    let t := p.counted t
    if s.isOpen && n + 1 = s.lines.size && p.ignoredBlanks = 0 then '\n' :: t else t

/-- The numbers of texts: equal ones have the same. -/
def classesOf (known : List (Octets × Nat)) : List Octets → List Nat → List Nat × List (Octets × Nat)
  | [], found => (found.reverse, known)
  | t :: rest, found =>
      match known.lookup t with
      | some n => classesOf known rest (n :: found)
      | none => classesOf ((t, known.length) :: known) rest (known.length :: found)

/-- How many lines two lists have in common at their start. -/
def commonStart : List Octets → List Octets → Nat
  | a :: as, b :: bs => if a == b then commonStart as bs + 1 else 0
  | _, _ => 0

/-- The changes from one side to the other.  Lines that both have at the start
    and at the end are left aside, except for some next to the changes. -/
def changesBetween (p : LineComparison) (a b : Side) : List Alignment.Change :=
  let horizon := match p.form with
    | .unified n => n
    | .context n => n
    | _ => 0
  let exact := fun (s : Side) => s.lines.toList.zipIdx.map fun (t, n) =>
    if s.isOpen && n + 1 = s.lines.size then '\n' :: t else t
  let xs := exact a
  let ys := exact b
  let start := commonStart xs ys - horizon
  let rest := fun (t : List Octets) => t.drop start
  let same := commonStart (xs.drop (commonStart xs ys)).reverse (ys.drop (commonStart xs ys)).reverse
  let finish := same - horizon
  let inner := fun (s : Side) =>
    let t := rest (countedLines p s)
    t.take (t.length - finish)
  let (cx, known) := classesOf [] (inner a) []
  let (cy, _) := classesOf known (inner b) []
  (Alignment.changes (List.toArray cx) (List.toArray cy)).map fun c =>
    { c with left := c.left + start, right := c.right + start }

/-- A line with what marks it. -/
def markedLine (lead : Octets) (s : Side) (n : Nat) : Octets :=
  let t := lead ++ s.lines.getD n []
  if s.isOpen && n + 1 = s.lines.size then
    t ++ "\n\\ No newline at end of file\n".toList
  else t ++ ['\n']

/-- The lines of a range with what marks them. -/
def markedLines (lead : Octets) (s : Side) (start count : Nat) : Octets :=
  (List.range count).flatMap fun n => markedLine lead s (start + n)

/-- A range of lines, given its first line and the one after it, both counted
    from zero. -/
def rangeText (first last : Nat) : Octets :=
  if first + 1 < last then decimal (first + 1) ++ [','] ++ decimal last else decimal last

/-- A change in the plain form. -/
def plainChange (p : LineComparison) (a b : Side) (c : Alignment.Change) : Octets :=
  let letter := if c.deleted = 0 then 'a' else if c.inserted = 0 then 'd' else 'c'
  let lead := fun (mark : Char) => [mark, if p.tabsLead then '\t' else ' ']
  rangeText c.left (c.left + c.deleted) ++ [letter] ++ rangeText c.right (c.right + c.inserted) ++ ['\n']
    ++ markedLines (lead '<') a c.left c.deleted
    ++ (if letter == 'c' then "---\n".toList else [])
    ++ markedLines (lead '>') b c.right c.inserted

/-- Changes that are near to each other, together. -/
def hunks (lines : Nat) : List Alignment.Change → List (List Alignment.Change)
  | [] => []
  | c :: rest =>
      match hunks lines rest with
      | (d :: more) :: others =>
          if d.left - (c.left + c.deleted) ≤ 2 * lines then (c :: d :: more) :: others
          else [c] :: (d :: more) :: others
      | others => [c] :: others

/-- The lines of each side that a hunk shows: the first ones and those after
    the last ones. -/
def hunkRange (lines : Nat) (a b : Side) (hunk : List Alignment.Change) : (Nat × Nat) × (Nat × Nat) :=
  match hunk.head?, hunk.getLast? with
  | some first, some last =>
      ((first.left - lines, min a.lines.size (last.left + last.deleted + lines)),
        (first.right - lines, min b.lines.size (last.right + last.inserted + lines)))
  | _, _ => ((0, 0), (0, 0))

/-- A range in the unified form. -/
def unifiedRange (r : Nat × Nat) : Octets :=
  if r.2 ≤ r.1 then decimal r.1 ++ ",0".toList
  else if r.2 = r.1 + 1 then decimal r.2
  else decimal (r.1 + 1) ++ [','] ++ decimal (r.2 - r.1)

/-- The lines of a hunk in the unified form, from some line of the first side
    on. -/
def unifiedLines (blank : Octets) (a b : Side) (finish : Nat) : Nat → List Alignment.Change → Octets
  | n, [] => markedLines blank a n (finish - n)
  | n, c :: rest =>
      markedLines blank a n (c.left - n) ++ markedLines (lead '-') a c.left c.deleted
        ++ markedLines (lead '+') b c.right c.inserted
        ++ unifiedLines blank a b finish (c.left + c.deleted) rest
where
  /-- What marks a line. -/
  lead (mark : Char) : Octets := if blank == ['\t'] then [mark, '\t'] else [mark]

/-- A hunk in the unified form. -/
def unifiedHunk (p : LineComparison) (lines : Nat) (a b : Side) (hunk : List Alignment.Change) : Octets :=
  let (left, right) := hunkRange lines a b hunk
  "@@ -".toList ++ unifiedRange left ++ " +".toList ++ unifiedRange right ++ " @@\n".toList
    ++ unifiedLines (if p.tabsLead then ['\t'] else [' ']) a b left.2 left.1 hunk

/-- One side of a hunk in the form with context, given where the changes are
    in it, how long they are, and whether the other side has something
    there. -/
def contextLines (p : LineComparison) (mark : Char) (s : Side) (r : Nat × Nat)
    (changes : List (Nat × Nat × Bool)) : Octets :=
  if changes.all fun (_, count, _) => count = 0 then []
  else
    (List.range (r.2 - r.1)).flatMap fun i =>
      let n := r.1 + i
      let lead := match changes.find? fun (start, count, _) => start ≤ n && n < start + count with
        | some (_, _, true) => '!'
        | some (_, _, false) => mark
        | none => ' '
      markedLine [lead, if p.tabsLead then '\t' else ' '] s n

/-- A hunk in the form with context. -/
def contextHunk (p : LineComparison) (lines : Nat) (a b : Side) (hunk : List Alignment.Change) : Octets :=
  let (left, right) := hunkRange lines a b hunk
  "***************\n*** ".toList ++ rangeText left.1 left.2 ++ " ****\n".toList
    ++ contextLines p '-' a left (hunk.map fun c => (c.left, c.deleted, c.inserted != 0))
    ++ "--- ".toList ++ rangeText right.1 right.2 ++ " ----\n".toList
    ++ contextLines p '+' b right (hunk.map fun c => (c.right, c.inserted, c.deleted != 0))

/-- The line that names a side in front of its hunks. -/
def sideHeading (mark : String) (label : Option String) (s : Side) : Octets :=
  match label with
  | some label => (mark ++ " " ++ label ++ "\n").toList
  | none =>
      (mark ++ " " ++ s.name ++ "\t").toList
        ++ Calendar.format "%Y-%m-%d %H:%M:%S.%N %z\n".toList (Moment.ofMilliseconds s.modified)

/-- All differences. -/
def differencesText (p : LineComparison) (a b : Side) (changes : List Alignment.Change) : Octets :=
  match p.form with
  | .plain => changes.flatMap (plainChange p a b)
  | .brief => []
  | .unified n =>
      sideHeading "---" p.labels[0]? a ++ sideHeading "+++" p.labels[1]? b
        ++ (hunks n changes).flatMap (unifiedHunk p n a b)
  | .context n =>
      sideHeading "***" p.labels[0]? a ++ sideHeading "---" p.labels[1]? b
        ++ (hunks n changes).flatMap (contextHunk p n a b)

/-- A side with some content. -/
def sideOf (name : String) (t : Octets) (modified : Int) : Side :=
  ⟨name, List.toArray (linesOf t), !t.isEmpty && t.getLast? != some '\n', modified⟩

/-- Whether content is not text. -/
def isBinaryContent (t : Octets) : Bool := t.contains '\x00'

/-- A side that was opened, if it is there: its name, its status and its
    content. -/
abbrev OpenedSide := String × Option FileStatus × Octets

/-- Shows how two contents differ. -/
def compareContents (p : LineComparison) (heads : Bool) (a b : OpenedSide) : Run Nat := do
  let (na, sa, ta) := a
  let (nb, sb, tb) := b
  let shown := fun (n : String) (label : Option String) => label.getD n
  let names := (shown na p.labels[0]?, shown nb p.labels[1]?)
  let same := fun (_ : Unit) => do
    if p.tellsSame then
      Run.printString ("Files " ++ names.1 ++ " and " ++ names.2 ++ " are identical\n")
    return 0
  if ta == tb then same ()
  else if !p.isText && (isBinaryContent ta || isBinaryContent tb) then
    match p.form with
    | .brief => Run.printString ("Files " ++ names.1 ++ " and " ++ names.2 ++ " differ\n")
    | _ => Run.printString ("Binary files " ++ names.1 ++ " and " ++ names.2 ++ " differ\n")
    return 1
  else
    let left := sideOf na ta ((sa.map (·.modified)).getD 0)
    let right := sideOf nb tb ((sb.map (·.modified)).getD 0)
    let changes := changesBetween p left right
    if changes.isEmpty then same ()
    else
      match p.form with
      | .brief => do
          Run.printString ("Files " ++ names.1 ++ " and " ++ names.2 ++ " differ\n")
          return 1
      | _ => do
          if heads then
            let options ← p.options.mapM Run.shownName
            Run.printString ("diff" ++ String.join (options.map fun o => " " ++ o) ++ " "
              ++ (← Run.shownName names.1) ++ " " ++ (← Run.shownName names.2) ++ "\n")
          Run.print (differencesText p left right changes)
          return 1

/-- A complaint about a file. -/
def comparedFailure (name : String) (e : Errno) : Run Nat := do
  Run.objection (name ++ ": " ++ e.text)
  return 2

/-- Compares what is in two directories, of which one can be missing. -/
def compareDirectories (p : LineComparison) (compare : String → String → Run Nat) (na nb : String)
    (fa fb : Option FileStatus) : Run Nat := do
  let w := (← get).toWorld
  let names := fun (f : Option FileStatus) => match f with
    | some f => w.namesIn f.location
    | none => []
  let xs := names fa
  let ys := names fb
  let all := (xs ++ ys.filter fun y => !xs.contains y).mergeSort fun a b => !(precedes b.toList a.toList)
  overall
    (fun name => do
      let pa := inDirectory na name.toList
      let pb := inDirectory nb name.toList
      let only := fun (directory : String) => do
        Run.printString ("Only in " ++ directory ++ ": " ++ name ++ "\n")
        return 1
      if p.takesMissing then compare pa pb
      else if !ys.contains name then only na
      else if !xs.contains name then only nb
      else compare pa pb)
    all 0

/-- Compares two directories, of which one can be missing, unless that is not
    to be done inside others. -/
def compareUnder (p : LineComparison) (isInner : Bool) (compare : String → String → Run Nat)
    (na nb : String) (fa fb : Option FileStatus) : Run Nat :=
  if isInner && !p.isRecursive then do
    Run.printString ("Common subdirectories: " ++ na ++ " and " ++ nb ++ "\n")
    return 0
  else compareDirectories p compare na nb fa fb

/-- Compares the contents of two files. -/
def compareFiles (p : LineComparison) (isInner : Bool) (na nb : String) (fa fb : FileStatus) :
    Run Nat := do
  let ta ← inputContent na
  let tb ← if isSame fa fb then pure ta else inputContent nb
  match ta, tb with
  | .error e, _ => comparedFailure na e
  | _, .error e => comparedFailure nb e
  | .ok ta, .ok tb => compareContents p isInner (na, some fa, ta) (nb, some fb, tb)

/-- Compares the content of a file with that of a missing one, which is empty;
    the other way round if the missing one is the first. -/
def compareWithNothing (p : LineComparison) (isInner isFirst : Bool) (name other : String)
    (f : FileStatus) : Run Nat := do
  match ← inputContent name with
  | .error e => comparedFailure name e
  | .ok t =>
      let there := (name, some f, t)
      let missing := (other, none, [])
      if isFirst then compareContents p isInner missing there
      else compareContents p isInner there missing

/-- Compares two paths; within directories a heading stands before what
    differs.  `fuel` bounds how deep directories are. -/
def comparePaths (p : LineComparison) : Nat → Bool → String → String → Run Nat
  | 0, _, _, _ => return 0
  | fuel + 1, isInner, na, nb => do
      let status := fun (name : String) =>
        if name == "-" then Run.descriptorStatus 0 else Run.status true name
      let ra ← status na
      let rb ← status nb
      let isMissing := fun (r : Except Errno FileStatus) => match r with
        | .error .noEntry => true
        | _ => false
      let missing := p.takesMissing && !(isMissing ra && isMissing rb)
      match ra, rb with
      | .ok fa, .ok fb => do
          if isDirectory fa && isDirectory fb then
            if isSame fa fb then return 0
            else compareUnder p isInner (comparePaths p fuel true) na nb (some fa) (some fb)
          else if !isInner && isDirectory fa then
            if nb == "-" then Run.quit 2 "cannot compare \x27-\x27 to a directory"
            else
              let inside := inDirectory na (lastComponent nb.toList)
              match ← status inside with
              | .ok _ => comparePaths p fuel isInner inside nb
              | .error e => comparedFailure inside e
          else if !isInner && isDirectory fb then
            if na == "-" then Run.quit 2 "cannot compare \x27-\x27 to a directory"
            else
              let inside := inDirectory nb (lastComponent na.toList)
              match ← status inside with
              | .ok _ => comparePaths p fuel isInner na inside
              | .error e => comparedFailure inside e
          else if isInner && (isDirectory fa || isDirectory fb) then do
            Run.printString ("File " ++ na ++ " is a " ++ kindName fa ++ " while file " ++ nb ++ " is a "
              ++ kindName fb ++ "\n")
            return 1
          else compareFiles p isInner na nb fa fb
      | .ok fa, .error e =>
          if missing && e = .noEntry then
            if isDirectory fa then
              compareUnder p isInner (comparePaths p fuel true) na nb (some fa) none
            else compareWithNothing p isInner false na nb fa
          else comparedFailure nb e
      | .error e, .ok fb =>
          if missing && e = .noEntry then
            if isDirectory fb then
              compareUnder p isInner (comparePaths p fuel true) na nb none (some fb)
            else compareWithNothing p isInner true nb na fb
          else comparedFailure na e
      | .error e, .error e' => do
          let _ ← comparedFailure na e
          comparedFailure nb e'

/-- Shows how files differ line by line. -/
def diff : Tool := fun arguments => do
  let g ← givenToCompare
    ([flag 'a' "text", flag 'b' "ignore-space-change", flag 'B' "ignore-blank-lines",
      ⟨some 'c', "", .none⟩, valued 'C' "", long "context" .optional, flag 'd' "minimal",
      flag 'E' "ignore-tab-expansion", flag 'i' "ignore-case", valued 'L' "label",
      flag 'N' "new-file", flag 'q' "brief", flag 'r' "recursive",
      flag 's' "report-identical-files", flag 't' "expand-tabs", flag 'T' "initial-tab",
      ⟨some 'u', "", .none⟩, valued 'U' "", long "unified" .optional, flag 'w' "ignore-all-space",
      flag 'Z' "ignore-trailing-space", long "normal" .none, long "strip-trailing-cr" .none,
      long "color" .optional, flag 'H' "speed-large-files", flag 'P' "unidirectional-new-file"]
      ++ "0123456789".toList.map fun c => ⟨some c, "", .none⟩) arguments
  let mut form : Option DifferenceForm := none
  let mut digits : Octets := []
  let lines := fun (value : Option String) => do
    match value with
    | none => return 3
    | some t =>
        match decimal? t.toList with
        | some n => return n
        | none => wrongUse ("invalid context length \x27" ++ t ++ "\x27")
  let mut hasPlain := false
  for (key, value) in g.options do
    let choose ← match key with
      | "u" => pure (some (DifferenceForm.unified 3))
      | "U" => pure (some (.unified (← lines value)))
      | "unified" => pure (some (.unified (← lines value)))
      | "c" => pure (some (.context 3))
      | "C" => pure (some (.context (← lines value)))
      | "context" => pure (some (.context (← lines value)))
      | _ => pure none
    match choose, form with
    | some (.unified n), some (.unified m) => form := some (.unified (if key == "u" then m else n))
    | some (.context n), some (.context m) => form := some (.context (if key == "c" then m else n))
    | some _, some _ => wrongUse "conflicting output style options"
    | some f, none =>
        if hasPlain then wrongUse "conflicting output style options"
        form := some f
    | none, _ => pure ()
    if key == "normal" then
      if form.isSome then wrongUse "conflicting output style options"
      hasPlain := true
    if key.toList.all isDigit && key.length = 1 then digits := digits ++ key.toList
  let counted := if digits.isEmpty then none else some (valueOfDigits 10 digits)
  let chosen := match form, counted with
    | some (.unified _), some n => DifferenceForm.unified n
    | some (.context _), some n => .context n
    | some f, none => f
    | some f, _ => f
    | none, _ => .plain
  let (first, second) ← match g.operands with
    | [] => wrongUse ("missing operand after \x27" ++ (arguments.getLast?.getD (← Run.called)) ++ "\x27")
    | [only] => wrongUse ("missing operand after \x27" ++ only ++ "\x27")
    | [first, second] => pure (first, second)
    | _ :: _ :: third :: _ => wrongUse ("extra operand \x27" ++ third ++ "\x27")
  let p : LineComparison :=
    { form := if g.has "q" then .brief else chosen
      ignoresCase := g.has "i"
      ignoredBlanks := if g.has "w" then 3 else if g.has "b" then 2 else if g.has "Z" then 1 else 0
      ignoresReturns := g.has "strip-trailing-cr", tellsSame := g.has "s", isRecursive := g.has "r"
      takesMissing := g.has "N", isText := g.has "a", labels := g.values "L"
      options := arguments.filter fun t => !g.operands.contains t
      tabsLead := g.has "T" }
  comparePaths p 1000 false first second

end HermesBundle.Shell.Tool
