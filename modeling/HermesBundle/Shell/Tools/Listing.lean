import HermesBundle.Shell.Calendar
import HermesBundle.Shell.Format
import HermesBundle.Shell.Pattern
import HermesBundle.Shell.Tools.Transfer

/-! # Listing — programs that show what is known of files

    A listing shows the files that are given and what is in the
    directories.  The order, the form and what is shown of each file can
    be chosen. -/

namespace HermesBundle.Shell.Tool

/-- The name of the user and of the group. -/
def userName : String := "root"

/-- A file in a listing. -/
structure Listed where
  /-- The name as it is shown. -/
  name : String
  /-- The path by which it is found. -/
  path : String
  status : FileStatus

/-- The orders of listings. -/
inductive ListOrder where
  | names
  | sizes
  | times
  | extensions
  | versions
  | none
deriving DecidableEq

/-- The forms of listings. -/
inductive ListForm where
  | lines
  | details
  | columns
  | rows
  | commas
deriving DecidableEq

/-- What marks the kinds of files. -/
inductive ListMarks where
  | none
  | slashes
  | kinds
  | all
deriving DecidableEq

/-- How a listing is made. -/
structure ListStyle where
  order : ListOrder
  form : ListForm
  marks : ListMarks
  isReversed : Bool
  showsHidden : Bool
  showsDots : Bool
  isRecursive : Bool
  staysOutside : Bool
  followsAll : Bool
  followsArguments : Bool
  ignored : List String
  showsOwner : Bool
  showsGroup : Bool
  isHuman : Bool
  showsSize : Bool
  showsNumber : Bool
  directoriesFirst : Bool
  width : Nat
  timeFormat : Option String
  isQuoted : Bool

/-! ## Order -/

/-- The part of a name from its last point on. -/
def extensionOf (name : Octets) : Octets :=
  let tail := name.reverse.takeWhile (· != '.')
  if tail.length < name.length then '.' :: tail.reverse else []

/-- The place of a character in the order of versions; letters come before
    other characters, and a tilde before the end. -/
def versionWeight (c : Option Char) : Int :=
  match c with
  | none => 0
  | some c =>
      if isDigit c then 0
      else if isLetter c then c.toNat
      else if c == '~' then -1
      else c.toNat + 256

/-- The order of texts with numbers in them. -/
def numberedOrder : Nat → Octets → Octets → Ordering
  | 0, _, _ => .eq
  | fuel + 1, a, b =>
      if a.isEmpty && b.isEmpty then .eq
      else
        let part := fun (t : Octets) => t.takeWhile fun c => !isDigit c
        let rec texts : Nat → Octets → Octets → Ordering
          | 0, _, _ => .eq
          | n + 1, s, t =>
              if s.isEmpty && t.isEmpty then .eq
              else
                let x := versionWeight s.head?
                let y := versionWeight t.head?
                if x < y then .lt else if y < x then .gt else texts n s.tail t.tail
        let pa := part a
        let pb := part b
        match texts (pa.length + pb.length + 1) pa pb with
        | .eq =>
            let digits := fun (t : Octets) => t.takeWhile isDigit
            let a := a.drop pa.length
            let b := b.drop pb.length
            let da := digits a
            let db := digits b
            let x := valueOfDigits 10 da
            let y := valueOfDigits 10 db
            if x < y then .lt
            else if y < x then .gt
            else numberedOrder fuel (a.drop da.length) (b.drop db.length)
        | o => o

/-- How many octets stand before the endings of a name, such as those after
    a point. -/
def lengthBeforeEndings : Nat → Nat → Octets → Nat
  | 0, position, _ => position
  | _, position, [] => position
  | fuel + 1, position, _ :: rest =>
      let rec endings : Nat → Octets → Octets
        | 0, t => t
        | n + 1, t =>
            match t with
            | '.' :: c :: more =>
                if isLetter c || c == '~' then
                  endings n (more.dropWhile fun c => isAlphanumeric c || c == '~')
                else t
            | _ => t
      let after := endings rest.length rest
      if after.isEmpty then position + 1
      else lengthBeforeEndings fuel (position + 1 + (rest.length - after.length)) after

/-- The order of versions.  A name with a point in front comes first; then
    names are compared without their endings and then with them. -/
def versionOrder (a b : Octets) : Ordering :=
  let rank := fun (t : Octets) =>
    if t.isEmpty then 0
    else if t == ['.'] then 1
    else if t == ['.', '.'] then 2
    else if t.head? == some '.' then 3
    else 4
  match compare (rank a) (rank b) with
  | .eq =>
      let fuel := a.length + b.length + 1
      let stem := fun (t : Octets) => t.take (lengthBeforeEndings (t.length + 1) 0 t)
      match numberedOrder fuel (stem a) (stem b) with
      | .eq => numberedOrder fuel a b
      | o => o
  | o => o

/-- Whether one file of a listing may stand before another one. -/
def listedBefore (style : ListStyle) (a b : Listed) : Bool :=
  let x := a.name.toList
  let y := b.name.toList
  let byName := !precedes y x
  match style.order with
  | .names => byName
  | .sizes => b.status.size < a.status.size || (a.status.size == b.status.size && byName)
  | .times =>
      b.status.modified < a.status.modified || (a.status.modified == b.status.modified && byName)
  | .extensions =>
      let p := extensionOf x
      let q := extensionOf y
      precedes p q || (p == q && byName)
  | .versions =>
      match versionOrder x y with
      | .lt => true
      | .gt => false
      | .eq => byName
  | .none => true

/-- Files in the order of a listing. -/
def arranged (style : ListStyle) (files : List Listed) : List Listed :=
  let ordered :=
    if style.order = .none then files
    else
      let up := files.mergeSort (listedBefore style)
      if style.isReversed then up.reverse else up
  if style.directoriesFirst then
    ordered.filter (fun f => isDirectory f.status) ++ ordered.filter fun f => !isDirectory f.status
  else ordered

/-! ## One file -/

/-- The letter of a kind of files. -/
def kindLetter : FileKind → Char
  | .regular => '-'
  | .directory => 'd'
  | .link _ => 'l'
  | .device => 'c'
  | .pipe => 'p'

/-- The kind and the permissions of a file in letters. -/
def modeString (f : FileStatus) : Octets := kindLetter f.kind :: modeLetters f.mode

/-- The mark of a file. -/
def markOf (marks : ListMarks) (kind : FileKind) (mode : Nat) : Octets :=
  match marks, kind with
  | .none, _ => []
  | _, .directory => ['/']
  | .slashes, _ => []
  | _, .link _ => ['@']
  | _, .pipe => ['|']
  | .all, .regular => if mayExecute mode then ['*'] else []
  | _, _ => []

/-- A size in at most three digits and a unit, rounded up. -/
def humanSize (base : Nat) (n : Nat) : Octets :=
  let letters := ['K', 'M', 'G', 'T', 'P', 'E']
  let rec scale : Nat → Nat → Nat → Nat → Nat × Nat × Nat
    | 0, unit, power, limit => (unit, power, limit)
    | fuel + 1, unit, power, limit =>
        if n < unit * base then (unit, power, limit) else scale fuel (unit * base) (power + 1) limit
  let (unit, power, _) := scale 6 1 0 0
  if power = 0 then decimal n
  else
    let tenths := (n * 10 + unit - 1) / unit
    let whole := (n + unit - 1) / unit
    let letter := (letters[power - 1]?).getD 'E'
    let letter := if base = 1000 && power = 1 then 'k' else letter
    if tenths < 100 then decimal (tenths / 10) ++ ['.'] ++ decimal (tenths % 10) ++ [letter]
    else if whole < base then decimal whole ++ [letter]
    else
      "1.0".toList ++ [(letters[power]?).getD 'E']

/-- The blocks of 1024 octets that a file takes. -/
def blocksOf (f : FileStatus) : Nat :=
  match f.kind with
  | .regular => (f.size + 4095) / 4096 * 4
  | .directory => 4
  | _ => 0

/-- The time of a file as a listing shows it. -/
def listedTime (style : ListStyle) (now : Int) (modified : Int) : Octets :=
  let moment := Moment.ofMilliseconds modified
  let isRecent := modified ≤ now && now - modified < 31556952000 / 2
  let format := style.timeFormat.getD (if isRecent then "%b %e %H:%M" else "%b %e  %Y")
  Calendar.format format.toList moment

/-- A name in a listing. -/
def shownListed (style : ListStyle) (name : String) : Octets :=
  if style.isQuoted then
    ['\x22'] ++ name.toList.flatMap (fun c =>
      if c == '\x22' || c == '\\' then ['\\', c]
      else if isPrintable c || 127 < c.toNat then [c] else '\\' :: escapeOf c) ++ ['\x22']
  else name.toList

/-- What stands at the end of a detailed line for a link. -/
def linkTail (style : ListStyle) (f : Listed) : Run Octets := do
  match f.status.kind with
  | .link target => do
      let marks ← match ← statusOrNone true f.path with
        | some t => pure (if style.marks = .none || style.marks = .slashes then [] else markOf style.marks t.kind t.mode)
        | none => pure []
      return " -> ".toList ++ shownListed style target ++ marks
  | _ => return markOf style.marks f.status.kind f.status.mode

/-- The width of a text on the screen. -/
def screenWidth (t : Octets) : Nat := (characters t).length

/-- Blanks between columns, with stops at every eighth place. -/
def indentation : Nat → Nat → Nat → Octets
  | 0, _, _ => []
  | fuel + 1, at_, goal =>
      if goal ≤ at_ then []
      else if goal / 8 > (at_ + 1) / 8 then '\t' :: indentation fuel (at_ + 8 - at_ % 8) goal
      else ' ' :: indentation fuel (at_ + 1) goal

/-! ## Many files -/

/-- The widths of columns; none if the lines would be too long. -/
def columnWidths (widths : List Nat) (byRows : Bool) (columns limit : Nat) : Option (List Nat) :=
  let count := widths.length
  let rows := (count + columns - 1) / columns
  let place := fun i => if byRows then i % columns else i / rows
  let found := (List.range columns).map fun c =>
    let here := (widths.zipIdx.filter fun (_, i) => place i == c).map (·.1)
    let widest := here.foldl max 0
    if c + 1 == columns then max widest 3 else max (widest + 2) 3
  if found.foldl (· + ·) 0 < limit then some found else none

/-- The most columns that fit. -/
def bestColumns (widths : List Nat) (byRows : Bool) (limit : Nat) : Nat → List Nat
  | 0 => [widths.foldl max 0]
  | n + 1 =>
      match columnWidths widths byRows (n + 1) limit with
      | some found => found
      | none => bestColumns widths byRows limit n

/-- Names in columns. -/
def inColumns (byRows : Bool) (limit : Nat) (cells : List Octets) : Octets :=
  let widths := cells.map screenWidth
  let most := max 1 (min cells.length (limit / 3))
  let columns := bestColumns widths byRows limit most
  let count := columns.length
  let rows := (cells.length + count - 1) / count
  let line := fun (r : Nat) =>
    let places := (List.range count).map fun c => if byRows then r * count + c else c * rows + r
    let here := places.filterMap fun i => cells[i]?
    let rec row : List Octets → List Nat → Nat → Nat → Octets
      | [], _, _, _ => []
      | cell :: rest, ws, start, at_ =>
          indentation (start - at_ + 1) at_ start ++ cell
            ++ row rest ws.tail (start + ws.headD 0) (start + screenWidth cell)
    row here columns 0 0 ++ ['\n']
  if cells.isEmpty then [] else ((List.range rows).map line).flatten

/-- Names with commas between them. -/
def withCommas (limit : Nat) : List Octets → Nat → Octets
  | [], _ => ['\n']
  | cell :: rest, position =>
      let width := screenWidth cell
      if position = 0 then cell ++ withCommas limit rest width
      else if position + 2 + width < limit then
        ", ".toList ++ cell ++ withCommas limit rest (position + 2 + width)
      else ",\n".toList ++ cell ++ withCommas limit rest width

/-- Shows files in the form of the listing. -/
def showListed (style : ListStyle) (files : List Listed) : Run Unit := do
  let now := (← get).toWorld.now
  let sizeText := fun (n : Nat) => if style.isHuman then humanSize 1024 n else decimal n
  let blockText := fun (f : Listed) => if style.isHuman then humanSize 1024 (blocksOf f.status * 1024) else decimal (blocksOf f.status)
  let numberWidth := files.foldl (fun w f => max w (decimal (f.status.node.getD 0)).length) 0
  let blockWidth := files.foldl (fun w f => max w (blockText f).length) 0
  let front := fun (f : Listed) (aligned : Bool) =>
    (if style.showsNumber then
        padLeft ' ' (if aligned then numberWidth else 0) (decimal (f.status.node.getD 0)) ++ [' '] else [])
      ++ (if style.showsSize then padLeft ' ' (if aligned then blockWidth else 0) (blockText f) ++ [' '] else [])
  match style.form with
  | .details => do
      let widest := fun (part : Listed → Octets) =>
        files.foldl (fun w f => max w (part f).length) 0
      let links := widest fun f => decimal f.status.links
      let sizes := widest fun f => sizeText f.status.size
      for f in files do
        let tail ← linkTail style f
        Run.print (front f true ++ modeString f.status ++ [' ']
          ++ padLeft ' ' links (decimal f.status.links) ++ [' ']
          ++ (if style.showsOwner then userName.toList ++ [' '] else [])
          ++ (if style.showsGroup then userName.toList ++ [' '] else [])
          ++ padLeft ' ' sizes (sizeText f.status.size) ++ [' ']
          ++ listedTime style now f.status.modified ++ [' '] ++ shownListed style f.name ++ tail
          ++ ['\n'])
  | form => do
      let cells := files.map fun f =>
        (front f (form != .commas), shownListed style f.name ++ markOf style.marks f.status.kind f.status.mode)
      let flat := cells.map fun (a, b) => a ++ b
      match form with
      | .columns => Run.print (inColumns false style.width flat)
      | .rows => Run.print (inColumns true style.width flat)
      | .commas => if flat.isEmpty then pure () else Run.print (withCommas style.width flat 0)
      | _ => Run.print (flat.flatMap fun t => t ++ ['\n'])

/-- Lists a directory, and those below it if asked to.  `isFirst` says that
    nothing has been listed before. -/
def listDirectory (style : ListStyle) (titled : Bool) : Nat → Bool → String → Run Nat
  | 0, _, _ => return 0
  | fuel + 1, isFirst, path => do
      match ← Run.status true path with
      | .error e => do
          Run.objection ("cannot open directory " ++ (← Run.quoted path) ++ ": " ++ e.text)
          return 2
      | .ok f => do
          if titled then
            Run.print ((if isFirst then [] else ['\n']) ++ path.toList ++ [':', '\n'])
          let names := (← get).toWorld.namesIn f.location
          let dots := if style.showsDots then [".", ".."] else []
          let visible := names.filter fun name =>
            (style.showsHidden || name.toList.head? != some '.')
              && !style.ignored.any fun p => matchesName p.toList name.toList
          let entries ← (dots ++ visible).mapM fun name => do
            let inner := inDirectory path name.toList
            match ← Run.status style.followsAll inner with
            | .ok s => return (some (Listed.mk name inner s), 0)
            | .error _ =>
                match ← Run.status false inner with
                | .ok s => return (some (Listed.mk name inner s), 0)
                | .error e => do
                    Run.objection ("cannot access " ++ (← Run.quoted inner) ++ ": " ++ e.text)
                    return (none, 1)
          let status := entries.foldl (fun n (_, k) => max n k) 0
          let files := arranged style (entries.filterMap (·.1))
          if style.form = .details || style.showsSize then
            let total := files.foldl (fun n f => n + blocksOf f.status) 0
            let shown := if style.isHuman then humanSize 1024 (total * 1024) else decimal total
            Run.print ("total ".toList ++ shown ++ ['\n'])
          showListed style files
          if style.isRecursive then
            let inner := files.filter fun f =>
              isDirectory f.status && f.name != "." && f.name != ".." && !(style.followsAll && false)
            overall (fun (f : Listed) => listDirectory style titled fuel false f.path) inner status
          else return status

/-- How a listing is made by the options. -/
def listStyle (g : Given) : Run ListStyle := do
  let order : ListOrder :=
    match g.last? ["t", "S", "U", "f", "X", "v", "sort", "c", "u"] with
    | some "t" => .times
    | some "S" => .sizes
    | some "U" => .none
    | some "f" => .none
    | some "X" => .extensions
    | some "v" => .versions
    | some "sort" =>
        match (g.value? "sort").getD "" with
        | "size" => .sizes
        | "time" => .times
        | "none" => .none
        | "extension" => .extensions
        | "version" => .versions
        | _ => .names
    | _ => .names
  let form : ListForm :=
    match g.last? ["l", "1", "C", "x", "m", "g", "o", "n", "full-time", "format"] with
    | some "1" =>
        -- A single column does not take back the details.
        if g.has "l" || g.has "g" || g.has "o" || g.has "n" then .details else .lines
    | some "C" => .columns
    | some "x" => .rows
    | some "m" => .commas
    | some "format" =>
        match (g.value? "format").getD "" with
        | "long" => .details
        | "verbose" => .details
        | "commas" => .commas
        | "across" => .rows
        | "horizontal" => .rows
        | "vertical" => .columns
        | _ => .lines
    | some _ => .details
    | none => .lines
  let marks : ListMarks :=
    match g.last? ["F", "p", "file-type", "indicator-style"] with
    | some "F" => if ["never", "no", "none"].contains ((g.value? "F").getD "always") then .none
        else if ["auto", "tty", "if-tty"].contains ((g.value? "F").getD "always") then .none else .all
    | some "p" => .slashes
    | some "file-type" => .kinds
    | some "indicator-style" =>
        match (g.value? "indicator-style").getD "" with
        | "slash" => .slashes
        | "file-type" => .kinds
        | "classify" => .all
        | _ => .none
    | _ => .none
  let timeFormat : Option String :=
    if g.has "full-time" then some "%Y-%m-%d %H:%M:%S.%N %z"
    else
      match g.value? "time-style" with
      | some "full-iso" => some "%Y-%m-%d %H:%M:%S.%N %z"
      | some "long-iso" => some "%Y-%m-%d %H:%M"
      | some t =>
          match t.toList with
          | '+' :: rest => some (String.ofList rest)
          | _ => none
      | none => none
  let width := match g.value? "w" with
    | some t => match decimal? t.toList with
      | some 0 => 1000000
      | some n => n
      | none => 80
    | none => 80
  return {
    order := order, form := form, marks := marks, isReversed := g.has "r"
    showsHidden := g.has "a" || g.has "A" || g.has "f"
    showsDots := (g.last? ["a", "A", "f"]).any fun k => k != "A"
    isRecursive := g.has "R" && !g.has "d", staysOutside := g.has "d", followsAll := g.has "L"
    followsArguments := g.has "H" || g.has "L"
      || !(form = .details || g.has "F" || g.has "d")
    ignored := g.values "I" ++ (if g.has "a" || g.has "A" then [] else g.values "hide")
      ++ (if g.has "B" then ["*~", ".*~"] else [])
    showsOwner := !g.has "g", showsGroup := !(g.has "o" || g.has "G")
    isHuman := g.has "h", showsSize := g.has "s", showsNumber := g.has "i"
    directoriesFirst := g.has "group-directories-first", width := width, timeFormat := timeFormat
    isQuoted := g.has "Q" }

/-- The options of listings. -/
def listOptions : List OptionSpec :=
  flags "lgonfpcutUXvxmCDGHLNZbkq1yST" ++
  [flag 'a' "all", flag 'A' "almost-all", flag 'd' "directory", ⟨some 'F', "classify", .optional⟩,
   flag 'r' "reverse", flag 'R' "recursive", flag 'h' "human-readable", flag 's' "size",
   flag 'i' "inode", flag 'B' "ignore-backups", valued 'I' "ignore", long "hide" .required,
   valued 'w' "width", long "sort" .required, long "time" .required, long "time-style" .required,
   long "full-time" .none, long "format" .required, long "file-type" .none,
   long "indicator-style" .required, long "group-directories-first" .none, flag 'Q' "quote-name",
   long "quoting-style" .required, long "color" .optional, long "literal" .none,
   long "dereference" .none, long "no-group" .none, long "si" .none, long "author" .none,
   long "show-control-chars" .none, long "hide-control-chars" .none, long "escape" .none,
   long "numeric-uid-gid" .none, long "block-size" .required, long "zero" .none]

/-- Options in which a letter without a value is not read as one with a
    value. -/
def withPlainMark (specs : List OptionSpec) (letter : Char) : List OptionSpec :=
  specs.flatMap fun o =>
    if o.letter == some letter then [⟨some letter, "", .none⟩, { o with letter := none }] else [o]

/-- Lists files and directories. -/
def ls : Tool := fun arguments => do
  let g ← given (withPlainMark listOptions 'F') 2 arguments
  let g := { g with options := g.options.map fun (k, v) => (if k == "classify" then "F" else k, v) }
  let style ← listStyle g
  let operands := if g.operands.isEmpty then ["."] else g.operands
  let found ← operands.mapM fun path => do
    let first ← match ← Run.status false path with
      | .error e => pure (Except.error e)
      | .ok s =>
          if isLink s && style.followsArguments then
            match ← Run.status true path with
            | .ok t =>
                -- Links to other files are shown themselves unless all are followed.
                if isDirectory t || style.followsAll || g.has "H" then pure (.ok t) else pure (.ok s)
            | .error e => if style.followsAll then pure (.error e) else pure (.ok s)
          else pure (.ok s)
    match first with
    | .ok s => return some (Listed.mk path path s)
    | .error e => do
        Run.objection ("cannot access " ++ (← Run.quoted path) ++ ": " ++ e.text)
        return none
  let status := if found.any (·.isNone) then 2 else 0
  let listed := found.filterMap id
  let isInner := fun (f : Listed) => isDirectory f.status && !style.staysOutside
  let files := arranged style (listed.filter fun f => !isInner f)
  let directories := arranged { style with directoriesFirst := false } (listed.filter isInner)
  if !files.isEmpty then showListed style files
  let titled := style.isRecursive || operands.length > 1
  let rec all : List Listed → Bool → Nat → Run Nat
    | [], _, status => return status
    | f :: rest, isFirst, status => do
        let here ← listDirectory style titled 200 isFirst f.path
        all rest false (max status here)
  all directories files.isEmpty status

/-! ## What is known of files -/

/-- The kind of a file in words. -/
def kindText (f : FileStatus) : String := kindName f

/-- The number of the user. -/
def userNumber : Nat := 0

/-- The text of a field about a file; none if there is no such field. -/
def statusText (path : String) (f : FileStatus) (letter : Char) : Run Octets := do
  let time := Calendar.format "%Y-%m-%d %H:%M:%S.%N %z".toList (Moment.ofMilliseconds f.modified)
  let seconds := signedDecimal (Moment.ofMilliseconds f.modified).seconds
  let type := match f.kind with
    | .regular => 0o100000
    | .directory => 0o040000
    | .link _ => 0o120000
    | .device => 0o020000
    | .pipe => 0o010000
  match letter with
  | 'n' => return path.toList
  | 'N' => do
      match f.kind with
      | .link target => return ((← Run.quoted path) ++ " -> " ++ (← Run.quoted target)).toList
      | _ => return (← Run.quoted path).toList
  | 's' => return decimal f.size
  | 'F' => return (kindText f).toList
  | 'a' => return digitsOf 8 f.mode
  | 'A' => return modeString f
  | 'f' => return digitsOf 16 (type + f.mode)
  | 'h' => return decimal f.links
  | 'u' => return decimal userNumber
  | 'g' => return decimal userNumber
  | 'U' => return userName.toList
  | 'G' => return userName.toList
  | 'b' => return decimal (blocksOf f * 2)
  | 'B' => return decimal 512
  | 'o' => return decimal 4096
  | 'i' => return decimal (f.node.getD 2)
  | 'd' => return decimal 1
  | 'D' => return decimal 1
  | 't' => return decimal 0
  | 'T' => return decimal 0
  | 'm' => return ['/']
  | 'C' => return ['?']
  | 'w' => return time
  | 'x' => return time
  | 'y' => return time
  | 'z' => return time
  | 'W' => return seconds
  | 'X' => return seconds
  | 'Y' => return seconds
  | 'Z' => return seconds
  | _ => return ['?']

/-- Writes a format about a file. -/
def writeStatus (reads : Bool) (path : String) (f : FileStatus) : Nat → Octets → Run Unit
  | 0, _ => return ()
  | _, [] => return ()
  | fuel + 1, '%' :: rest => do
      let flags := rest.takeWhile fun c => "\x27-+.#0 I".toList.contains c && c != '.'
      let after := rest.drop flags.length
      let digits := after.takeWhile isDigit
      let after := after.drop digits.length
      let (places, after) :=
        match after with
        | '.' :: r =>
            let p := r.takeWhile isDigit
            (some (valueOfDigits 10 p), r.drop p.length)
        | r => (none, r)
      match after with
      | [] => do
          Run.print ('%' :: rest)
      | '%' :: after => do
          Run.print ['%']
          writeStatus reads path f fuel after
      | letter :: after => do
          let t ← statusText path f letter
          let t := match places with
            | some n =>
                if "nNFAUG".toList.contains letter then t.take n
                else if "WXYZ".toList.contains letter then
                  t ++ ['.'] ++ (zeroPadded 10 9 ((f.modified % 1000).toNat * 1000000)).take n
                else t
            | none => t
          let width := valueOfDigits 10 digits
          let isNumber := "sahugbBoidDtTfWXYZ".toList.contains letter
          let t :=
            if flags.contains '#' && letter == 'a' then '0' :: t
            else if flags.contains '#' && letter == 'f' then "0x".toList ++ t else t
          Run.print (if isNumber then fittedNumber flags width true [] t else fitted flags width t)
          writeStatus reads path f fuel after
  | fuel + 1, c :: rest => do
      if c == '\\' && reads then
        match readEscape .systemFormat rest with
        | some (t, rest) => do
            Run.print t
            writeStatus reads path f fuel rest
        | none => return ()
      else do
        Run.print [c]
        writeStatus reads path f fuel rest

/-- The usual format about files. -/
def usualStatus : String :=
  "  File: %N\n  Size: %-10s\tBlocks: %-10b IO Block: %-6o %F\n"
    ++ "Device: %Hd,%Ld\tInode: %-11i Links: %h\n"
    ++ "Access: (%04a/%10.10A)  Uid: (%5u/%8U)   Gid: (%5g/%8G)\n"
    ++ "Access: %x\nModify: %y\nChange: %z\n Birth: %w\n"

/-- Shows what is known of files. -/
def stat : Tool := fun arguments => do
  let g ← given
    [valued 'c' "format", flag 'f' "file-system", flag 'L' "dereference", flag 't' "terse",
     long "printf" .required, long "cached" .required] 1 arguments
  if g.operands.isEmpty then Run.missing 1 "operand"
  let (format, reads) :=
    match g.last? ["c", "printf"] with
    | some "c" => ((g.value? "c").getD "" ++ "\n", false)
    | some _ => ((g.value? "printf").getD "", true)
    | none =>
        if g.has "t" then ("%n %s %b %f %u %g %D %i %h %t %T %X %Y %Z %W %o\n", false)
        else (usualStatus, false)
  overall
    (fun path => do
      let found ← if path == "-" then Run.descriptorStatus 0 else Run.status (g.has "L") path
      match found with
      | .ok f => do
          writeStatus reads path f (format.length + 1) format.toList
          return 0
      | .error e =>
          if path == "-" then cannot ("cannot stat " ++ inputTitle) e
          else cannot ("cannot statx " ++ (← Run.quoted path)) e)
    g.operands 0

end HermesBundle.Shell.Tool
