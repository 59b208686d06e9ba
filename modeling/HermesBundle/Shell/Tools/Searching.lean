import HermesBundle.Shell.Pattern
import HermesBundle.Shell.Regex.Notation
import HermesBundle.Shell.Tools.Passing
import HermesBundle.Shell.Tools.Paths

/-! # Searching — lines that match patterns

    A line is selected if one of the patterns is found in it.  What is
    shown of the selected lines, how many of them and what stands around
    them can be chosen. -/

namespace HermesBundle.Shell.Tool

/-- How patterns are written. -/
inductive PatternStyle where
  | basic
  | extended
  | fixed
  | perl
deriving DecidableEq

/-- How lines are searched. -/
structure LineSearch where
  searches : List Search
  wholeWords : Bool
  wholeLines : Bool

namespace LineSearch

/-- The places where a match that starts at a place can end, the last one
    first. -/
def endsAt (r : Search) (s : Subject) (i : Nat) : List Nat :=
  if r.regex.hasAgain then
    ((Regex.ways r.mode s (4 * s.size + 200) r.regex (i, [])).map (·.1)).mergeSort fun a b => b ≤ a
  else (r.regex.ends r.mode s [i]).reverse

/-- The longest match at a place. -/
def matchAt (l : LineSearch) (s : Subject) (i : Nat) : Option Nat :=
  let longest := fun (js : List Nat) => js.foldl (fun best j => max best (j + 1)) 0
  let found := longest (l.searches.filterMap fun r =>
    if l.wholeLines then if i = 0 then (endsAt r s 0).find? (· == s.size) else none
    else if l.wholeWords then
      if 0 < i && Regex.isWordAt s (i - 1) then none
      else (endsAt r s i).find? fun j => !Regex.isWordAt s j
    else (endsAt r s i).head?)
  if found = 0 then none else some (found - 1)

/-- The first match from a place on: where it starts and ends. -/
def findFrom (l : LineSearch) (s : Subject) : Nat → Nat → Option (Nat × Nat)
  | 0, _ => none
  | fuel + 1, i =>
      if s.size < i then none
      else
        match l.matchAt s i with
        | some j => some (i, j)
        | none => l.findFrom s fuel (i + 1)

/-- Whether a line is matched. -/
def isIn (l : LineSearch) (s : Subject) : Bool :=
  if l.wholeLines then (l.matchAt s 0).isSome
  else if l.wholeWords then (l.findFrom s (s.size + 1) 0).isSome
  else l.searches.any fun r => r.isIn s

/-- The matches of a line that are not empty. -/
def all (l : LineSearch) (s : Subject) : Nat → Nat → List (Nat × Nat)
  | 0, _ => []
  | fuel + 1, i =>
      match l.findFrom s (s.size + 1 - i) i with
      | none => []
      | some (a, b) => if a < b then (a, b) :: l.all s fuel b else l.all s fuel (a + 1)

end LineSearch

/-- What is shown of selected lines. -/
structure SearchOutput where
  isInverted : Bool
  counts : Bool
  names : Option Bool
  isQuiet : Bool
  onlyMatches : Bool
  numbers : Bool
  offsets : Bool
  fileNames : Bool
  nullAfterName : Bool
  tabs : Bool
  most : Option Nat
  before : Nat
  after : Nat
  /-- What stands between lines that are not neighbours, if anything. -/
  separator : Option Octets
  ending : Char
  treatsAsText : Bool
  skipsBinary : Bool
  isUtf8 : Bool

/-- How far a search of a file has come. -/
structure SearchState where
  /-- The number of the line, and where it starts. -/
  number : Nat
  offset : Nat
  selected : Nat
  /-- Lines before this one that may be shown, the latest first. -/
  held : List (Nat × Nat × Octets)
  /-- How many lines after a selected one are still shown. -/
  following : Nat
  /-- The number of the last line that was shown; 0 if it was in a file
      before. -/
  shown : Option Nat
  isOver : Bool
  /-- Whether something was found that is not text. -/
  isBinary : Bool

/-- What stands before a line that is shown. -/
def lineHead (o : SearchOutput) (name : String) (mark : Char) (number offset : Nat) : Octets :=
  (if o.fileNames then name.toList ++ (if o.nullAfterName then ['\x00'] else [mark]) else [])
    ++ (if o.numbers then (if o.tabs then padLeft ' ' 4 (decimal number) else decimal number) ++ [mark] else [])
    ++ (if o.offsets then (if o.tabs then padLeft ' ' 11 (decimal offset) else decimal offset) ++ [mark] else [])
    ++ (if o.tabs && (o.fileNames || o.numbers || o.offsets) then ['\t'] else [])

/-- Whether octets are no text. -/
def isNoText (o : SearchOutput) (t : Octets) : Bool :=
  !o.treatsAsText && (t.contains '\x00' || (o.isUtf8 && (characters t).any fun c => !isWellFormed c))

/-- Shows a line, or the parts of it that match. -/
def showLine (o : SearchOutput) (l : LineSearch) (name : String) (mark : Char) (number offset : Nat)
    (line : Octets) : Run Unit := do
  if o.onlyMatches then
    if mark == ':' && !o.isInverted then
      let s := Subject.ofOctets o.isUtf8 line
      for (i, j) in l.all s (s.size + 2) 0 do
        let start := (s.slice 0 i).length
        Run.print (lineHead o name mark number (offset + start) ++ s.slice i j ++ [o.ending])
  else Run.print (lineHead o name mark number offset ++ line ++ [o.ending])

/-- Shows what separates lines that are not neighbours. -/
def showGap (o : SearchOutput) (s : SearchState) (first : Nat) : Run Unit := do
  match s.shown, o.separator with
  | some last, some separator =>
      if last = 0 || last + 1 < first then Run.print (separator ++ ['\n'])
  | _, _ => pure ()

/-- Searches the lines of a file. -/
def searchLines (o : SearchOutput) (l : LineSearch) (name : String) :
    List Octets → SearchState → Run (SearchState × List Octets)
  | [], s => return (s, [])
  | record :: rest, s => do
      if s.isOver && s.following = 0 then return (s, record :: rest)
      else
        let line := if record.getLast? == some o.ending then record.dropLast else record
        let number := s.number + 1
        let next := { s with number := number, offset := s.offset + record.length }
        let isSelected :=
          !s.isOver && (l.isIn (Subject.ofOctets o.isUtf8 line) != o.isInverted)
        let isSilent := o.isQuiet || o.counts || o.names.isSome || s.isBinary
        if isSelected then do
          let next := { next with selected := s.selected + 1 }
          let isOver := (o.most.any fun m => m ≤ next.selected) || o.isQuiet || o.names.isSome
          if isSilent then
            searchLines o l name rest { next with isOver := isOver || s.isBinary && !o.counts, held := [] }
          else if isNoText o line then
            searchLines o l name rest { next with isBinary := true, isOver := true, held := [] }
          else do
            let first := match s.held.getLast? with
              | some (n, _, _) => n
              | none => number
            showGap o s first
            for (n, at_, text) in s.held.reverse do
              showLine o l name '-' n at_ text
            showLine o l name ':' number s.offset line
            searchLines o l name rest
              { next with isOver := isOver, held := [], following := o.after, shown := some number }
        else if s.following > 0 && !isSilent then do
          showLine o l name '-' number s.offset line
          searchLines o l name rest { next with following := s.following - 1, shown := some number }
        else
          searchLines o l name rest
            { next with held := ((number, s.offset, line) :: s.held).take o.before }

/-- Searches one input; the result tells whether something was selected. -/
def searchInput (o : SearchOutput) (l : LineSearch) (label : String) (t : Octets)
    (shownGap : Bool) : Run (Bool × List Octets × Bool) := do
  let hasNull := t.contains '\x00' && !o.treatsAsText
  if hasNull && o.skipsBinary then return (false, [], shownGap)
  else do
    let start : SearchState :=
      ⟨0, 0, 0, [], 0, if shownGap then some 0 else none, false, hasNull⟩
    let (s, rest) ← searchLines o l label (recordsOf o.ending t) start
    let found := s.selected > 0
    let isSilent := o.isQuiet || o.counts || o.names.isSome
    if o.counts then
      Run.print ((if o.fileNames then label.toList ++ (if o.nullAfterName then ['\x00'] else [':']) else [])
        ++ decimal s.selected ++ ['\n'])
    match o.names with
    | some wanted =>
        if found == wanted && !o.isQuiet then
          Run.print (label.toList ++ [if o.nullAfterName then '\x00' else '\n'])
    | none => pure ()
    if found && s.isBinary && !isSilent then
      Run.objection (label ++ ": binary file matches")
    return (found, rest, shownGap || s.shown.isSome)

/-- What is done with directories. -/
inductive DirectoryAction where
  | read
  | recurse
  | skip
deriving DecidableEq

/-- The files below a directory that pass the filters, and the failures on
    the way. -/
def searchedFiles (passes : String → Bool) (enters : String → Bool) (followsAll : Bool) :
    Nat → String → Run (List String)
  | 0, _ => return []
  | fuel + 1, path => do
      match ← Run.status true path with
      | .error _ => return [path]
      | .ok f =>
          if f.kind == .directory then do
            let names := (← get).toWorld.namesIn f.location
            let inner ← names.mapM fun name => do
              let here := if path.isEmpty then name else inDirectory path name.toList
              match ← Run.status followsAll here with
              | .ok s =>
                  match s.kind with
                  | .directory => if enters name then searchedFiles passes enters followsAll fuel here else return []
                  | .regular => return if passes name then [here] else []
                  | _ => return []
              | .error _ => return []
            return inner.flatten
          else return [path]

/-- The patterns as searches; a fault ends the program. -/
def compilePatterns (style : PatternStyle) (mode : SearchMode) (patterns : List Octets) :
    Run (List Search) := do
  let isUtf8 ← Run.isUtf8
  patterns.mapM fun t => do
    match style with
    | .fixed =>
        let codes := (Subject.ofOctets isUtf8 t).codes.toList
        return ⟨codes.foldr (fun c r => .seq (.char c) r) .empty, mode, 0⟩
    | style => do
        let notation_ := if style = .basic then RegexNotation.basicLines else RegexNotation.extendedLines
        let t := if style = .perl then plainKinds t else t
        match Search.ofOctetsWith notation_ isUtf8 mode t with
        | .ok (r, remarks) => do
            for remark in remarks do
              Run.objection ("warning: " ++ remark)
            return r
        | .error e => Run.quit 2 e.text
where
  /-- Kinds of characters by a letter, in sets. -/
  plainKinds : Octets → Octets
    | '\\' :: 'd' :: rest => "[0-9]".toList ++ plainKinds rest
    | '\\' :: 'D' :: rest => "[\x5e0-9]".toList ++ plainKinds rest
    | '\\' :: 't' :: rest => '\t' :: plainKinds rest
    | '\\' :: 'h' :: rest => "[ \t]".toList ++ plainKinds rest
    | '\\' :: c :: rest => '\\' :: c :: plainKinds rest
    | '(' :: '?' :: ':' :: rest => '(' :: plainKinds rest
    | c :: rest => c :: plainKinds rest
    | [] => []

/-- The options of searches. -/
def searchOptions : List OptionSpec :=
  flags "ywxzsvbnHhoqaIrRLlcTZUu"
    ++ [flag 'E' "extended-regexp", flag 'F' "fixed-strings", flag 'G' "basic-regexp",
      flag 'P' "perl-regexp", valued 'e' "regexp", valued 'f' "file", flag 'i' "ignore-case",
      long "no-ignore-case" .none, valued 'm' "max-count", valued 'd' "directories",
      valued 'D' "devices", valued 'A' "after-context", valued 'B' "before-context",
      valued 'C' "context", long "color" .optional, long "colour" .optional,
      long "include" .required, long "exclude" .required, long "exclude-dir" .required,
      long "exclude-from" .required, long "label" .required, long "binary-files" .required,
      long "group-separator" .required, long "no-group-separator" .none, long "line-buffered" .none,
      long "word-regexp" .none, long "line-regexp" .none, long "null-data" .none,
      long "no-messages" .none, long "invert-match" .none, long "byte-offset" .none,
      long "line-number" .none, long "with-filename" .none, long "no-filename" .none,
      long "only-matching" .none, long "quiet" .none, long "silent" .none, long "text" .none,
      long "recursive" .none, long "dereference-recursive" .none, long "files-without-match" .none,
      long "files-with-matches" .none, long "count" .none, long "initial-tab" .none,
      long "null" .none, long "binary" .none]

/-- The letters of options with long names. -/
def searchLetters : List (String × String) :=
  [("word-regexp", "w"), ("line-regexp", "x"), ("null-data", "z"), ("no-messages", "s"),
   ("invert-match", "v"), ("byte-offset", "b"), ("line-number", "n"), ("with-filename", "H"),
   ("no-filename", "h"), ("only-matching", "o"), ("quiet", "q"), ("silent", "q"), ("text", "a"),
   ("recursive", "r"), ("dereference-recursive", "R"), ("files-without-match", "L"),
   ("files-with-matches", "l"), ("count", "c"), ("initial-tab", "T"), ("null", "Z"), ("y", "i")]

/-- The line that says how searches are used. -/
def searchUse : Run String := do
  return "Usage: " ++ (← Run.called) ++ " [OPTION]... PATTERNS [FILE]..."

/-- Says how a search is used and ends it. -/
def searchUsage {α : Type} : Run α := do
  Run.remark (← searchUse)
  Run.hint
  throw (.exited 2)

/-- The options and operands of a search. -/
def searchGiven (arguments : List String) : Run Given := do
  -- A number alone asks for lines around the selected ones.
  let counted := arguments.map fun t =>
    match t.toList with
    | '-' :: c :: rest => if isDigit c && rest.all isDigit then "-C" ++ String.ofList (c :: rest) else t
    | _ => t
  let stop := (arguments.findIdx? (· == "--")).getD arguments.length
  let g ← givenForUse searchOptions ⟨[← searchUse], false⟩ 2 (counted.take stop ++ arguments.drop stop)
  return { g with options := g.options.map fun (k, v) => ((searchLetters.lookup k).getD k, v) }

/-- Searches files for lines that match. -/
def grepAs (usual : PatternStyle) : Tool := fun arguments => do
  let g ← searchGiven arguments
  let isUtf8 ← Run.isUtf8
  let style ← match (["E", "F", "G", "P"].filter g.has) with
    | [] => pure usual
    | ["E"] => pure .extended
    | ["F"] => pure .fixed
    | ["G"] => pure .basic
    | ["P"] => pure .perl
    | _ => Run.quit 2 "conflicting matchers specified"
  for (key, value) in g.options do
    let t := (value.getD "").toList
    if ["A", "B", "C"].contains key && (decimal? t).isNone then
      Run.quit 2 (String.ofList t ++ ": invalid context length argument")
    else if key == "m" && (integer? t).isNone then Run.quit 2 "invalid max count"
  let length := fun (key : String) => (g.value? key).bind fun t => decimal? t.toList
  let around := length "C"
  let before := length "B"
  let after := length "A"
  let most := ((g.value? "m").bind fun t => integer? t.toList).bind fun n =>
    if n < 0 then none else some n.toNat
  let action ← match g.value? "d" with
    | none => pure (if g.has "r" || g.has "R" then DirectoryAction.recurse else .read)
    | some "read" => pure .read
    | some "recurse" => pure .recurse
    | some "skip" => pure .skip
    | some t => do
        Run.objection ("invalid argument " ++ (← Run.inQuotes t) ++ " for "
          ++ (← Run.inQuotes "--directories"))
        Run.remark "Valid arguments are:"
        for word in ["read", "recurse", "skip"] do
          Run.remark ("  - " ++ (← Run.inQuotes word))
        searchUsage
  match g.value? "D" with
  | some t => if t != "read" && t != "skip" then Run.quit 2 "unknown devices method"
  | none => pure ()
  match g.value? "binary-files" with
  | some t => if !(["binary", "text", "without-match"].contains t) then Run.quit 2 "unknown binary-files type"
  | none => pure ()
  let mut patterns : List Octets := []
  for (key, value) in g.options do
    if key == "e" then patterns := patterns ++ splitOn '\n' (value.getD "").toList
    else if key == "f" then
      match ← inputContent (value.getD "") with
      | .ok t => patterns := patterns ++ linesOf t
      | .error e => Run.quit 2 ((value.getD "") ++ ": " ++ e.text)
  let mut files := g.operands
  if !g.has "e" && !g.has "f" then
    match g.operands with
    | [] => searchUsage
    | t :: rest => do
        patterns := splitOn '\n' t.toList
        files := rest
  let folds := (g.last? ["i", "no-ignore-case"]) == some "i"
  let ending := if g.has "z" then '\x00' else '\n'
  if most == some 0 && g.last? ["l", "L"] != some "L" then throw (.exited 1)
  let searches ← compilePatterns style ⟨folds, g.has "z"⟩ patterns
  let l : LineSearch := ⟨searches, g.has "w" && !g.has "x", g.has "x"⟩
  let isRecursive := action = .recurse
  let operands := if files.isEmpty then if isRecursive then [""] else ["-"] else files
  let hasDirectory ← files.anyM fun path => do
    match ← Run.status true path with
    | .ok f => return f.kind == .directory
    | .error _ => return false
  let named :=
    match g.last? ["H", "h"] with
    | some "H" => true
    | some _ => false
    | none => files.length > 1 || (isRecursive && (files.isEmpty || hasDirectory))
  let binary := g.value? "binary-files"
  let o : SearchOutput :=
    { isInverted := g.has "v", counts := g.has "c"
      names := match g.last? ["l", "L"] with
        | some "l" => some true
        | some _ => some false
        | none => none
      isQuiet := g.has "q", onlyMatches := g.has "o", numbers := g.has "n", offsets := g.has "b"
      fileNames := named, nullAfterName := g.has "Z", tabs := g.has "T", most := most
      before := (before.or around).getD 0, after := (after.or around).getD 0
      separator := if g.has "no-group-separator" || !(["A", "B", "C"].any g.has) then none
        else some ((g.value? "group-separator").getD "--").toList
      ending := ending
      treatsAsText := g.has "a" || binary == some "text" || g.has "z"
      skipsBinary := g.has "I" || binary == some "without-match", isUtf8 := isUtf8 }
  let o := if o.counts && o.names.isSome then { o with counts := false } else o
  let labelOf := fun path : String =>
    if path == "-" then (g.value? "label").getD ("(" ++ inputTitle ++ ")") else path
  let fails := fun (path : String) (e : Errno) => do
    if !g.has "s" then Run.objection (labelOf path ++ ": " ++ e.text)
  let passes := fun (name : String) =>
    let included := g.values "include"
    (included.isEmpty || included.any fun p => matchesName p.toList name.toList)
      && !(g.values "exclude").any fun p => matchesName p.toList name.toList
  let enters := fun (name : String) =>
    !(g.values "exclude-dir").any fun p => matchesName p.toList name.toList
  let mut anyFound := false
  let mut anyFault := false
  let mut shownGap := false
  for operand in operands do
    let paths ←
      if isRecursive && operand != "-" then
        if operand.isEmpty then searchedFiles passes enters (g.has "R") 100 "." else
          searchedFiles passes enters (g.has "R") 100 operand
      else pure [operand]
    for path in paths do
      -- What is found in the directory itself is shown without it.
      let path' := if operand.isEmpty then String.ofList (path.toList.drop 2) else path
      let path := path'
      if o.isQuiet && anyFound then pure ()
      else
        match ← openInput path with
        | .error e => do
            fails path e
            anyFault := true
        | .ok i => do
            match ← Run.readAll i.descriptor with
            | .ok t =>
                if isRecursive || path == "-" || passes (String.ofList (lastComponent path.toList)) then
                  let (found, rest, shown) ← searchInput o l (labelOf path) t shownGap
                  anyFound := anyFound || found
                  shownGap := shown
                  if path == "-" && most.isSome && !rest.isEmpty then
                    Run.keepUnread 0 rest.flatten
                    Run.giveBack 0
            | .error .isDirectory => do
                if action = .read then
                  fails path .isDirectory
                  anyFault := true
                  let _ ← searchInput o l path [] shownGap
            | .error e => do
                fails path e
                anyFault := true
            if path != "-" then closeInput i
  if anyFault && !(o.isQuiet && anyFound) then return 2
  else return if anyFound then 0 else 1

/-- Searches with patterns in the basic notation. -/
def grep : Tool := grepAs .basic

/-- Searches with patterns in the extended notation. -/
def egrep : Tool := grepAs .extended

/-- Searches for texts. -/
def fgrep : Tool := grepAs .fixed

end HermesBundle.Shell.Tool
