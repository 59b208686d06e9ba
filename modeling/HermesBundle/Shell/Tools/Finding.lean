import HermesBundle.Shell.Regex.Matching
import HermesBundle.Shell.Regex.Notation
import HermesBundle.Shell.Tools.Listing
import HermesBundle.Shell.Tools.Starting

/-! # Finding — files below directories that answer a query

    Directories are gone through from the top, or from the bottom if asked
    to.  For each file a query is answered: tests and actions that are
    joined by operators.  Actions hold or fail like tests, so that a query
    is answered only as far as its value is needed. -/

namespace HermesBundle.Shell.Tool

/-! ## Queries -/

/-- A file for which a query is answered. -/
structure Candidate where
  path : String
  /-- The path under which the search has started. -/
  top : String
  depth : Nat
  /-- Whether a link is looked at as the file that it leads to. -/
  isFollowed : Bool
  status : FileStatus

/-- How far a search has come. -/
structure Hunt where
  code : Nat
  /-- Whether the directory is not entered. -/
  isPruned : Bool
  isOver : Bool
  /-- The paths that wait for a command, by its number, the latest first. -/
  waiting : List (Nat × List String)

/-- A query. -/
inductive Query where
  | primary (answer : Candidate → Hunt → Run (Bool × Hunt))
  | negation (q : Query)
  | both (a b : Query)
  | either (a b : Query)
  /-- The value of the second one counts. -/
  | sequence (a b : Query)

namespace Query

/-- A query that only looks. -/
def test (holds : Candidate → Bool) : Query := .primary fun c h => return (holds c, h)

/-- The answer of a query for a file. -/
def answer : Query → Candidate → Hunt → Run (Bool × Hunt)
  | .primary f, c, h => if h.isOver then return (false, h) else f c h
  | .negation q, c, h => do
      let (holds, h) ← answer q c h
      return (!holds, h)
  | .both a b, c, h => do
      let (holds, h) ← answer a c h
      if holds then answer b c h else return (false, h)
  | .either a b, c, h => do
      let (holds, h) ← answer a c h
      if holds then return (true, h) else answer b c h
  | .sequence a b, c, h => do
      let (_, h) ← answer a c h
      answer b c h

end Query

/-- A command that takes many paths at once. -/
structure GatheringCommand where
  number : Nat
  words : List String
  /-- Whether it is run where the files are. -/
  isLocal : Bool

/-- How a search is made. -/
structure HuntPlan where
  minDepth : Nat
  maxDepth : Option Nat
  /-- Whether what is in a directory comes before it. -/
  isDeep : Bool
  followsTops : Bool
  followsAll : Bool
  hasAction : Bool
  deletes : Bool
  prunes : Bool
  regexType : String
  gathering : List GatheringCommand

/-! ## Actions -/

/-- The last component of a path, without slashes at its end. -/
def baseName (path : String) : Octets :=
  let t := lastComponent path.toList
  if t.isEmpty then path.toList else t

/-- The last component of a path with the slashes at its end. -/
def fullBaseName (path : String) : Octets :=
  let name := baseName path
  if name == ['/'] then name
  else path.toList.drop ((withoutSlashes path.toList).length - name.length)

/-- Runs a command for files, perhaps in some directory; none if it could
    not be started. -/
def runForFiles (directory : Option String) (hasInput : Bool) (words : List String) :
    Run (Option Nat) := do
  let _ ← Run.flush
  let name := words.headD ""
  let here := (← get).here
  match directory with
  | none => pure ()
  | some path => do
      match ← Run.spot true path with
      | .ok (.found l _) => modify fun s => { s with here := l }
      | _ => pure ()
  let image ← imageWith (← givenVariables) name (words.drop 1)
  let result ← match image with
    | .error e => do
        Run.objection ((← Run.inQuotes name) ++ ": " ++ e.text)
        pure none
    | .ok image => do
        let process ← Run.keepingDescriptors do
          if !hasInput then
            match ← Run.openFile "/dev/null" .read with
            | .ok number => Run.connect 0 number
            | .error _ => pure ()
          Run.fork (.image image)
        pure (some (← Run.join process).status)
  modify fun s => { s with here := here }
  return result

/-- A word of a command with a path in the place of each mark. -/
def withPath (path word : String) : String :=
  let rec go : Nat → Octets → Octets → Octets
    | 0, _, found => found.reverse
    | _, [], found => found.reverse
    | fuel + 1, '\x7b' :: '\x7d' :: rest, found => go fuel rest (path.toList.reverse ++ found)
    | fuel + 1, c :: rest, found => go fuel rest (c :: found)
  String.ofList (go (word.length + 1) word.toList [])

/-- The directory that a file is in, as a path. -/
def directoryOfFile (path : String) : String := String.ofList (directoryPart path.toList)

/-- The name of a file for a command that is run where it is. -/
def localName (path : String) : String :=
  let name := fullBaseName path
  if name == ['/'] then "/" else String.ofList ("./".toList ++ name)

/-- Runs a command for a file. -/
def runForFile (isLocal isAsked : Bool) (words : List String) (c : Candidate) (h : Hunt) :
    Run (Bool × Hunt) := do
  let agreed ←
    if isAsked then do
      let _ ← Run.flush
      Run.report ("< " ++ words.headD "" ++ " ... " ++ c.path ++ " > ? ").toList
      agrees
    else pure true
  if !agreed then return (false, h)
  else
    let path := if isLocal then localName c.path else c.path
    let directory := if isLocal then some (directoryOfFile c.path) else none
    let status ← runForFiles directory (!isAsked) (words.map (withPath path))
    return (status == some 0, h)

/-- Runs a command for paths that have waited for it. -/
def runGathered (g : GatheringCommand) (h : Hunt) : Run Hunt := do
  let paths := (((h.waiting.lookup g.number).getD []).reverse)
  let rest := h.waiting.filter fun (n, _) => n != g.number
  if paths.isEmpty then return h
  else
    let (directory, paths) :=
      if g.isLocal then (some (directoryOfFile (paths.headD "")), paths.map localName)
      else (none, paths)
    let status ← runForFiles directory true (g.words ++ paths)
    return { h with waiting := rest, code := if status == some 0 then h.code else 1 }

/-- A path waits for a command; the command is run if there are enough, or if
    the path is in another directory. -/
def gather (g : GatheringCommand) (c : Candidate) (h : Hunt) : Run (Bool × Hunt) := do
  let paths := (h.waiting.lookup g.number).getD []
  let isFull :=
    totalSize (paths.map wordLength) + totalSize (g.words.map wordLength) + wordLength c.path > 131072
      || (g.isLocal && paths.any fun p => directoryOfFile p != directoryOfFile c.path)
  let h ← if isFull then runGathered g h else pure h
  let paths := (h.waiting.lookup g.number).getD []
  return (true, { h with
    waiting := (g.number, c.path :: paths) :: h.waiting.filter fun (n, _) => n != g.number })
where
  /-- How long a word is in a command. -/
  wordLength (t : String) : Nat := t.length + 1

/-- Removes a file or an empty directory. -/
def deleteFile (c : Candidate) (h : Hunt) : Run (Bool × Hunt) := do
  if c.path == "." then return (true, h)
  else
    let failed ← match c.status.kind with
      | .directory => removeDirectory c.path
      | _ => do
          match ← Run.spot false c.path with
          | .ok (.found l _) => do
              Run.changeWorld fun w => w.remove l
              pure none
          | .ok (.free _) => pure (some Errno.noEntry)
          | .error e => pure (some e)
    match failed with
    | none => return (true, h)
    | some e => do
        Run.objection ("cannot delete " ++ (← Run.inQuotes c.path) ++ ": " ++ e.text)
        return (false, { h with code := 1 })

/-! ## Formats -/

/-- A piece of a format for what is known of a file. -/
inductive FoundPiece where
  | text (t : Octets)
  | field (flags : Octets) (width : Nat) (precision : Option Nat) (kind : Char) (detail : Char)
  /-- The output ends here. -/
  | stop

/-- The letters of fields that are followed by another letter. -/
def timeFields : Octets := "ABCT".toList

/-- The letters of fields. -/
def foundFields : Octets := "abcdDfFgGhHiklmMnpPsStuUyYZ".toList

/-- Reads a format; complaints are gathered in reverse. -/
def readFoundFormat : Nat → Octets → List FoundPiece → List String →
    Except String (List FoundPiece × List String)
  | 0, _, pieces, warnings => .ok (pieces.reverse, warnings.reverse)
  | _, [], pieces, warnings => .ok (pieces.reverse, warnings.reverse)
  | fuel + 1, '\\' :: c :: rest, pieces, warnings =>
      if c == 'c' then .ok ((.stop :: pieces).reverse, warnings.reverse)
      else if isOctal c then
        let digits := ((c :: rest).take 3).takeWhile isOctal
        readFoundFormat fuel ((c :: rest).drop digits.length)
          (.text [Char.ofNat (valueOfDigits 8 digits % 256)] :: pieces) warnings
      else
        match "abfnrtv\\".toList.zip "\x07\x08\x0c\n\r\t\x0b\\".toList |>.lookup c with
        | some d => readFoundFormat fuel rest (.text [d] :: pieces) warnings
        | none =>
            readFoundFormat fuel rest (.text ['\\', c] :: pieces)
              (("warning: unrecognized escape \x60\\" ++ String.singleton c ++ "\x27") :: warnings)
  | fuel + 1, '%' :: '%' :: rest, pieces, warnings =>
      readFoundFormat fuel rest (.text ['%'] :: pieces) warnings
  | fuel + 1, '%' :: rest, pieces, warnings =>
      let flags := rest.takeWhile fun c => "-+ #0".toList.contains c
      let rest := rest.drop flags.length
      let digits := rest.takeWhile isDigit
      let rest := rest.drop digits.length
      let (precision, rest) := match rest with
        | '.' :: r =>
            let p := r.takeWhile isDigit
            (some (valueOfDigits 10 p), r.drop p.length)
        | r => (none, r)
      let lead := ('%' :: flags) ++ digits
      match rest with
      | [] => .error "error: % at end of format string"
      | c :: rest =>
          let width := valueOfDigits 10 digits
          if timeFields.contains c then
            match rest with
            | [] =>
                let field := String.ofList (lead ++ [c])
                readFoundFormat fuel [] (.text (lead ++ [c]) :: pieces)
                  (("warning: format directive \x60" ++ field
                    ++ "\x27 should be followed by another character") :: warnings)
            | d :: rest =>
                readFoundFormat fuel rest (.field flags width precision c d :: pieces) warnings
          else if foundFields.contains c then
            readFoundFormat fuel rest (.field flags width precision c ' ' :: pieces) warnings
          else
            let field := String.ofList (lead ++ [c])
            readFoundFormat fuel rest (.text (lead ++ [c]) :: pieces)
              (("warning: unrecognized format directive \x60" ++ field ++ "\x27") :: warnings)
  | fuel + 1, c :: rest, pieces, warnings =>
      let run := (c :: rest).takeWhile fun d => d != '%' && d != '\\'
      let run := if run.isEmpty then [c] else run
      readFoundFormat fuel ((c :: rest).drop run.length) (.text run :: pieces) warnings

/-- The letter of a kind of file. -/
def typeLetter (f : FileStatus) : Char :=
  match f.kind with
  | .regular => 'f'
  | .directory => 'd'
  | .link _ => 'l'
  | .device => 'c'
  | .pipe => 'p'

/-- The letters of a kind of file and of its mode. -/
def modeColumn (f : FileStatus) : Octets :=
  (match typeLetter f with
    | 'f' => '-'
    | c => c) :: modeLetters f.mode

/-- The path below the one where the search has started. -/
def pathBelow (c : Candidate) : Octets :=
  (c.path.toList.drop c.top.length).dropWhile (· == '/')

/-- The directory of a file in formats. -/
def leadingPath (path : String) : Octets :=
  let bare := withoutSlashes path.toList
  if bare.contains '/' then
    let head := (bare.reverse.dropWhile (· != '/')).drop 1
    head.reverse
  else ['.']

/-- A moment with its second and a fraction of ten digits. -/
def fractionOf (m : Moment) : Octets := zeroPadded 10 9 m.nanoseconds ++ ['0']

/-- What a field of a format shows of a file. -/
def foundField (c : Candidate) (kind detail : Char) : Run Octets := do
  let f := c.status
  let moment := Moment.ofMilliseconds f.modified
  match kind with
  | 'p' => return c.path.toList
  | 'P' => return pathBelow c
  | 'f' => return fullBaseName c.path
  | 'h' => return leadingPath c.path
  | 'H' => return c.top.toList
  | 's' => return decimal f.size
  | 'm' => return digitsOf 8 f.mode
  | 'M' => return modeColumn f
  | 'y' => return [typeLetter f]
  | 'Y' => do
      match ← Run.status true c.path with
      | .ok g => return [typeLetter g]
      | .error _ => return ['N']
  | 'l' =>
      match f.kind with
      | .link target => return target.toList
      | _ => return []
  | 'd' => return decimal c.depth
  | 'n' => return decimal f.links
  | 'u' => return userName.toList
  | 'g' => return userName.toList
  | 'U' => return ['0']
  | 'G' => return ['0']
  | 'k' => return decimal (blocksOf f)
  | 'b' => return decimal (blocksOf f * 2)
  | 'S' => return ['1']
  | 'T' =>
      match detail with
      | '@' => return signedDecimal moment.seconds ++ ['.'] ++ fractionOf moment
      | '+' =>
          return Calendar.format "%Y-%m-%d+%H:%M:%S".toList moment ++ ['.'] ++ fractionOf moment
      | 'T' => return Calendar.format "%H:%M:%S".toList moment ++ ['.'] ++ fractionOf moment
      | 'S' => return Calendar.format "%S".toList moment ++ ['.'] ++ fractionOf moment
      | d => return Calendar.format ['%', d] moment
  | 't' =>
      return Calendar.format "%a %b %e %H:%M:%S".toList moment ++ ['.'] ++ fractionOf moment
        ++ Calendar.format " %Y".toList moment
  | _ => return ['0']

/-- Writes what is known of a file through a format. -/
def printFound (pieces : List FoundPiece) (c : Candidate) (h : Hunt) : Run (Bool × Hunt) := do
  for piece in pieces do
    match piece with
    | .text t => Run.print t
    | .stop => let _ ← Run.flush
    | .field flags width precision kind detail => do
        let t ← foundField c kind detail
        let t := match precision with
          | some n => if "pPfhHlMyYug".toList.contains kind then t.take n else t
          | none => t
        let zeros := flags.contains '0' && "smdnUGkb".toList.contains kind
        let shown :=
          if flags.contains '-' then padRight ' ' width t
          else padLeft (if zeros then '0' else ' ') width t
        Run.print shown
  return (true, h)

/-! ## Tests -/

/-- How a number is compared with one that is given. -/
inductive Comparison where
  | less
  | equal
  | more

/-- Whether a number compares in some way. -/
def Comparison.holds (r : Comparison) (n limit : Int) : Bool :=
  match r with
  | .less => n < limit
  | .equal => n == limit
  | .more => n > limit

/-- A number after a sign that says how it is compared. -/
def comparisonOf (t : Octets) : Option (Comparison × Nat) :=
  match t with
  | '+' :: rest => (decimal? rest).map fun n => (.more, n)
  | '-' :: rest => (decimal? rest).map fun n => (.less, n)
  | rest => (decimal? rest).map fun n => (.equal, n)

/-- A number that may have a fraction, in thousandths, after a sign that says
    how it is compared. -/
def fractionalOf (t : Octets) : Option (Comparison × Nat) :=
  let (r, rest) : Comparison × Octets :=
    match t with
    | '+' :: rest => (.more, rest)
    | '-' :: rest => (.less, rest)
    | rest => (.equal, rest)
  let whole := rest.takeWhile isDigit
  match rest.drop whole.length with
  | [] => if whole.isEmpty then none else some (r, valueOfDigits 10 whole * 1000)
  | '.' :: part =>
      if part.all isDigit && !(whole.isEmpty && part.isEmpty) then
        some (r, valueOfDigits 10 whole * 1000 + valueOfDigits 10 (padRight '0' 3 (part.take 3)))
      else none
  | _ => none

/-- Small letters only. -/
def foldedCase (t : Octets) : Octets := t.map lowered

/-- Whether a text matches a pattern, perhaps without regard to case. -/
def matchesPattern (ignoresCase : Bool) (pattern t : Octets) : Bool :=
  if ignoresCase then matchesName (foldedCase pattern) (foldedCase t) else matchesName pattern t

/-- An expression in the notation with marked groups, in the notation where
    groups are unmarked. -/
def unmarkedGroups : Nat → Octets → Octets
  | 0, _ => []
  | _, [] => []
  | fuel + 1, '\\' :: c :: rest =>
      if "()|".toList.contains c then c :: unmarkedGroups fuel rest
      else '\\' :: c :: unmarkedGroups fuel rest
  | fuel + 1, '[' :: rest =>
      let lead := match rest with
        | '\x5e' :: ']' :: _ => 2
        | '\x5e' :: _ => 1
        | ']' :: _ => 1
        | _ => 0
      let inner := rest.take lead ++ (rest.drop lead).takeWhile (· != ']')
      '[' :: inner ++ unmarkedGroups fuel (rest.drop inner.length)
  | fuel + 1, c :: rest =>
      if "()|\x7b\x7d".toList.contains c then '\\' :: c :: unmarkedGroups fuel rest
      else c :: unmarkedGroups fuel rest

/-- The names of the notations of expressions. -/
def regexTypes : List String :=
  ["findutils-default", "ed", "emacs", "gnu-awk", "grep", "posix-awk", "awk", "posix-basic",
   "posix-egrep", "egrep", "posix-extended", "posix-minimal-basic", "sed"]

/-- The search for an expression in a notation. -/
def pathSearch (type : String) (ignoresCase isUtf8 : Bool) (t : Octets) :
    Except RegexFault Search :=
  let mode : SearchMode := ⟨ignoresCase, false⟩
  if ["findutils-default", "emacs"].contains type then
    Search.ofOctets .extendedLines isUtf8 mode (unmarkedGroups (t.length + 1) t)
  else if ["ed", "grep", "posix-basic", "posix-minimal-basic", "sed"].contains type then
    Search.ofOctets .basicEditing isUtf8 mode t
  else Search.ofOctets .extendedLines isUtf8 mode t

/-- Whether a text as a whole matches. -/
def matchesWhole (search : Search) (isUtf8 : Bool) (t : Octets) : Bool :=
  let subject := Subject.ofOctets isUtf8 t
  match search.matchAt subject 0 with
  | some found => found.finish == subject.size
  | none => false

/-- The kinds of files in the argument of a test. -/
def kindsArgument (test t : String) : Run Octets := do
  let quitFor := fun (m : String) => Run.quit 1 m
  let rec go : Nat → Octets → Octets → Run Octets
    | 0, _, found => return found
    | fuel + 1, cs, found => do
        match cs with
        | [] => return found
        | c :: rest =>
            if !"bcdpflsD".toList.contains c then
              quitFor ("Unknown argument to " ++ test ++ ": " ++ String.singleton c)
            else if found.contains c then
              quitFor ("Duplicate file type " ++ (← Run.inQuotes (String.singleton c))
                ++ " in the argument list to " ++ test ++ ".")
            else
              match rest with
              | [] => return c :: found
              | [','] =>
                  quitFor ("Last file type in list argument to " ++ test
                    ++ " is missing, i.e., list is ending on: \x27,\x27")
              | ',' :: rest => go fuel rest (c :: found)
              | _ =>
                  quitFor ("Must separate multiple arguments to " ++ test ++ " using: \x27,\x27")
  if t.isEmpty then quitFor ("Arguments to " ++ test ++ " should contain at least one letter")
  else go (t.length + 1) t.toList []

/-- The test of the size of files. -/
def sizeTest (t : String) : Run Query := do
  match t.toList.getLast? with
  | none => Run.quit 1 "invalid null argument to -size"
  | some last => do
      let unit ←
        match last with
        | 'b' => pure 512
        | 'c' => pure 1
        | 'w' => pure 2
        | 'k' => pure 1024
        | 'M' => pure 1048576
        | 'G' => pure 1073741824
        | c =>
            if isDigit c then pure 512
            else Run.quit 1 ("invalid -size type \x60" ++ String.singleton c ++ "\x27")
      let digits := if isDigit last then t.toList else t.toList.dropLast
      match comparisonOf digits with
      | none => Run.quit 1 ("Invalid argument \x60" ++ t ++ "\x27 to -size")
      | some (r, n) => return .test fun c => r.holds ((c.status.size + unit - 1) / unit : Nat) n

/-- The test of the mode of files. -/
def modeTest (t : String) : Run Query := do
  let (kind, body) := match t.toList with
    | '-' :: rest => ('-', rest)
    | '/' :: rest => ('/', rest)
    | rest => (' ', rest)
  match modeOf body with
  | none => Run.quit 1 ("invalid mode " ++ (← Run.inQuotes t))
  | some f =>
      return .test fun c =>
        let wanted := f (c.status.kind == .directory) 0 0
        match kind with
        | '-' => c.status.mode &&& wanted == wanted
        | '/' => wanted = 0 || c.status.mode &&& wanted != 0
        | _ => c.status.mode == wanted

/-- The moment of a file, or of a description. -/
def referenceTime (isDescription : Bool) (t : String) : Run Int := do
  if isDescription then
    match Calendar.momentOf (← Run.present) t.toList with
    | some m => return m.milliseconds
    | none =>
        Run.quit 1 ("I cannot figure out how to interpret " ++ (← Run.inQuotes t)
          ++ " as a date or time")
  else
    match ← Run.status true t with
    | .ok f => return f.modified
    | .error e => Run.quit 1 ((← Run.inQuotes t) ++ ": " ++ e.text)

/-! ## Reading queries -/

/-- A word of a query. -/
inductive QueryToken where
  | opening (isOwn : Bool)
  | closing (isOwn : Bool)
  | negation (name : String)
  | conjunction (name : String)
  | disjunction (name : String)
  | comma (name : String)
  | primary (q : Query)

/-- How strongly a word binds. -/
def QueryToken.strength : QueryToken → Nat
  | .comma _ => 1
  | .disjunction _ => 2
  | .conjunction _ => 3
  | .negation _ => 4
  | _ => 0

/-- What stood before a part of a query. -/
inductive QueryContext where
  | operator (name : String)
  | opening

/-- Reads a part of a query whose operators bind more strongly than some
    strength; what is left is returned. -/
def readQuery : Nat → Nat → QueryContext → List QueryToken → Except String (Query × List QueryToken)
  | 0, _, _, _ => .error "invalid expression"
  | fuel + 1, strength, before, tokens => do
      let (first, rest) ←
        match tokens, before with
        | [], _ => .error "invalid expression"
        | .primary q :: rest, _ => .ok (q, rest)
        | .negation name :: rest, _ => do
            let (q, rest) ← readQuery fuel 4 (.operator name) rest
            pure (.negation q, rest)
        | .opening isOwn :: rest, _ =>
            match rest with
            | [] => .error (unclosed "(")
            | .closing true :: _ => .error (unclosed "(")
            | .closing false :: _ =>
                if isOwn then .error (unclosed "(")
                else .error "invalid expression; empty parentheses are not allowed."
            | rest => do
                let (q, rest) ← readQuery fuel 0 .opening rest
                match rest with
                | .closing _ :: rest => pure (q, rest)
                | _ =>
                    .error ("invalid expression; I was expecting to find a \x27)\x27 somewhere "
                      ++ "but did not see one.")
        | .closing false :: _, .operator name =>
            .error ("expected an expression between \x27" ++ name ++ "\x27 and \x27)\x27")
        | .closing true :: _, .operator name => .error ("expected an expression after \x27" ++ name ++ "\x27")
        | .closing _ :: _, .opening => .error "invalid expression; you have too many \x27)\x27"
        | .conjunction name :: _, _ => .error (unpreceded name)
        | .disjunction name :: _, _ => .error (unpreceded name)
        | .comma name :: _, _ => .error (unpreceded name)
      readOperators fuel strength first rest
where
  /-- Says that a parenthesis is not closed. -/
  unclosed (name : String) : String :=
    "invalid expression; expected to find a \x27)\x27 but didn\x27t see one. "
      ++ "Perhaps you need an extra predicate after \x27" ++ name ++ "\x27"
  /-- Says that an operator stands first. -/
  unpreceded (name : String) : String :=
    "invalid expression; you have used a binary operator \x27" ++ name ++ "\x27 with nothing before it."
  /-- Goes on after the first operand. -/
  readOperators : Nat → Nat → Query → List QueryToken → Except String (Query × List QueryToken)
    | 0, _, q, rest => .ok (q, rest)
    | fuel + 1, strength, q, rest =>
        match rest with
        | [] => .ok (q, [])
        | token :: after =>
            if token.strength ≤ strength then .ok (q, rest)
            else
              match token with
              | .conjunction name => do
                  let (b, rest) ← readQuery fuel 3 (.operator name) after
                  readOperators fuel strength (.both q b) rest
              | .disjunction name => do
                  let (b, rest) ← readQuery fuel 2 (.operator name) after
                  readOperators fuel strength (.either q b) rest
              | .comma name => do
                  let (b, rest) ← readQuery fuel 1 (.operator name) after
                  readOperators fuel strength (.sequence q b) rest
              | _ => .ok (q, rest)

/-- Words of a query with the conjunctions that are not written. -/
def joinedTokens : List QueryToken → List QueryToken
  | [] => []
  | [t] => [t]
  | a :: b :: rest =>
      let ends := match a with
        | .primary _ => true
        | .closing _ => true
        | _ => false
      let begins := match b with
        | .primary _ => true
        | .opening _ => true
        | .negation _ => true
        | _ => false
      if ends && begins then a :: .conjunction "-a" :: joinedTokens (b :: rest)
      else a :: joinedTokens (b :: rest)

/-- Whether an argument belongs to a query. -/
def looksLikeQuery (isLeading : Bool) (t : String) : Bool :=
  match t.toList with
  | '-' :: _ :: _ => true
  | [')'] => !isLeading
  | [','] => !isLeading
  | ['!'] => true
  | ['('] => true
  | _ => false

/-- The words of a command up to a semicolon, or to a plus sign after a mark;
    none if it does not end. -/
def takeCommand : List String → List String → Option (Bool × List String × List String)
  | [], _ => none
  | t :: rest, found =>
      if t == ";" then some (false, found.reverse, rest)
      else if t == "+" && found.head? == some "\x7b\x7d" then some (true, found.reverse, rest)
      else takeCommand rest (t :: found)

/-- What was read of a query so far: the plan and the words in reverse. -/
abbrev QueryReading := HuntPlan × List QueryToken

/-- Reads a command to be run for files. -/
def readCommand (name : String) (p : HuntPlan) (arguments : List String) :
    Run (Query × HuntPlan × List String) := do
  let isLocal := name == "-execdir" || name == "-okdir"
  let isAsked := name == "-ok" || name == "-okdir"
  match if isAsked then (takeCommand arguments []).filter (fun (many, _) => !many) else takeCommand arguments [] with
  | none => Run.quit 1 ("missing argument to \x60" ++ name ++ "\x27")
  | some (_, [], _) =>
      Run.quit 1 ("invalid argument \x60" ++ arguments.headD "" ++ "\x27 to \x60" ++ name ++ "\x27")
  | some (false, words, rest) =>
      return (.primary (runForFile isLocal isAsked words), p, rest)
  | some (true, words, rest) => do
      let words := words.dropLast
      if words.contains "\x7b\x7d" then
        Run.quit 1 ("Only one instance of \x7b\x7d is supported with " ++ name ++ " ... +")
      if words.isEmpty then
        Run.quit 1 ("invalid argument \x60\x7b\x7d\x27 to \x60" ++ name ++ "\x27")
      let g : GatheringCommand := ⟨p.gathering.length, words, isLocal⟩
      return (.primary (gather g), { p with gathering := p.gathering ++ [g] }, rest)

/-- A file that output goes to. -/
def outputFile (path : String) : Run Nat := do
  match ← Run.openAs path .write with
  | .ok d => return d
  | .error e => Run.quit 1 ((← Run.inQuotes path) ++ ": " ++ e.text)

/-- Does a piece of work with its output in a file. -/
def withOutput {α : Type} (descriptor : Nat) (piece : Run α) : Run α := do
  let _ ← Run.flush
  Run.keepingDescriptors do
    match ← Run.openingNumber descriptor with
    | some number => do
        Run.changeWorld fun w => w.retain number
        Run.connect 1 number
    | none => pure ()
    let a ← piece
    let _ ← Run.flush
    return a

/-- A format that was read, after warnings about it. -/
def formatArgument (t : String) : Run (List FoundPiece) := do
  match readFoundFormat (t.length + 1) t.toList [] [] with
  | .error e => Run.quit 1 e
  | .ok (pieces, warnings) => do
      for w in warnings do
        Run.objection w
      return pieces

/-- The names of the tests that compare a number of a file. -/
def numberTest (name : String) : Option (Candidate → Nat) :=
  match name with
  | "-links" => some fun c => c.status.links
  | "-uid" => some fun _ => 0
  | "-gid" => some fun _ => 0
  | "-inum" => some fun c => c.status.node.getD 0
  | _ => none

/-- The test that stands for a name with an argument; none if there is no such
    test. -/
def argumentTest (p : HuntPlan) (name t : String) : Option (Run Query) :=
  let invalid := fun (_ : Unit) =>
    Run.quit 1 ("invalid argument \x60" ++ t ++ "\x27 to \x60" ++ name ++ "\x27")
  let pattern := t.toList
  let age := fun (minutes : Bool) => do
    match fractionalOf pattern with
    | none => invalid ()
    | some (r, n) => do
        let now := (← get).toWorld.now
        return Query.test fun c =>
          let ms := now - c.status.modified
          if minutes then
            -- An age in minutes is rounded up.
            let limit : Int := (n : Int) * 60
            match r with
            | .more => ms > limit
            | .less => ms < limit
            | .equal => limit - 60000 < ms && ms ≤ limit
          else
            let day : Int := 86400000
            let limit : Int := (n : Int) * 86400
            match r with
            | .more => ms ≥ limit + day
            | .less => ms < limit
            | .equal => limit ≤ ms && ms < limit + day
  let newer := fun (isDescription : Bool) => do
    let moment ← referenceTime isDescription t
    return Query.test fun c => moment < c.status.modified
  let regex := fun (ignoresCase : Bool) => do
    let isUtf8 ← Run.isUtf8
    match pathSearch p.regexType ignoresCase isUtf8 pattern with
    | .ok search => return Query.test fun c => matchesWhole search isUtf8 c.path.toList
    | .error e => Run.quit 1 ("failed to compile regular expression \x27" ++ t ++ "\x27: " ++ e.text)
  let linkName := fun (ignoresCase : Bool) =>
    return Query.test fun c =>
      match c.status.kind with
      | .link target => matchesPattern ignoresCase pattern target.toList
      | _ => false
  match name with
  | "-name" => some (return .test fun c => matchesPattern false pattern (baseName c.path))
  | "-iname" => some (return .test fun c => matchesPattern true pattern (baseName c.path))
  | "-path" => some (return .test fun c => matchesPattern false pattern c.path.toList)
  | "-wholename" => some (return .test fun c => matchesPattern false pattern c.path.toList)
  | "-ipath" => some (return .test fun c => matchesPattern true pattern c.path.toList)
  | "-iwholename" => some (return .test fun c => matchesPattern true pattern c.path.toList)
  | "-lname" => some (linkName false)
  | "-ilname" => some (linkName true)
  | "-regex" => some (regex false)
  | "-iregex" => some (regex true)
  | "-type" => some do
      let kinds ← kindsArgument name t
      return .test fun c => kinds.contains (typeLetter c.status)
  | "-xtype" => some do
      let kinds ← kindsArgument name t
      return .primary fun c h => do
        match ← Run.status (!c.isFollowed) c.path with
        | .ok f => return (kinds.contains (typeLetter f), h)
        | .error _ => return (kinds.contains (typeLetter c.status), h)
  | "-size" => some (sizeTest t)
  | "-perm" => some (modeTest t)
  | "-newer" => some (newer false)
  | "-anewer" => some (newer false)
  | "-cnewer" => some (newer false)
  | "-newermm" => some (newer false)
  | "-newermt" => some (newer true)
  | "-mtime" => some (age false)
  | "-atime" => some (age false)
  | "-ctime" => some (age false)
  | "-mmin" => some (age true)
  | "-amin" => some (age true)
  | "-cmin" => some (age true)
  | "-samefile" => some do
      match ← Run.status true t with
      | .ok f => return .test fun c => isSame f c.status
      | .error e => Run.quit 1 ((← Run.inQuotes t) ++ ": " ++ e.text)
  | "-user" => some do
      if t == userName || (decimal? pattern).isSome then
        return .test fun _ => t == userName || decimal? pattern == some 0
      else Run.quit 1 ((← Run.inQuotes t) ++ " is not the name of a known user")
  | "-group" => some do
      if t == userName || (decimal? pattern).isSome then
        return .test fun _ => t == userName || decimal? pattern == some 0
      else Run.quit 1 ((← Run.inQuotes t) ++ " is not the name of an existing group")
  | "-fstype" => some (return .test fun _ => false)
  | _ =>
      (numberTest name).map fun value => do
        match comparisonOf pattern with
        | some (r, n) => return .test fun c => r.holds (value c) n
        | none => invalid ()

/-- The test or action without an argument that stands for a name; none if
    there is no such one. -/
def plainTest (name : String) : Option (Bool × Query) :=
  let isFile := fun (c : Candidate) => c.status.kind == .regular
  match name with
  | "-true" => some (false, .test fun _ => true)
  | "-false" => some (false, .test fun _ => false)
  | "-empty" => some (false, .primary fun c h => do
      if isFile c then return (c.status.size = 0, h)
      else if c.status.kind == .directory then
        return ((← get).toWorld.namesIn c.status.location |>.isEmpty, h)
      else return (false, h))
  | "-readable" => some (false, .primary fun c h => return (← isThere c, h))
  | "-writable" => some (false, .primary fun c h => return (← isThere c, h))
  | "-executable" => some (false, .primary fun c h => do
      match ← Run.status true c.path with
      | .ok f => return (f.kind == .directory || mayExecute f.mode, h)
      | .error _ => return (false, h))
  | "-nouser" => some (false, .test fun _ => false)
  | "-nogroup" => some (false, .test fun _ => false)
  | "-print" => some (true, .primary fun c h => do
      Run.print (c.path.toList ++ ['\n'])
      return (true, h))
  | "-print0" => some (true, .primary fun c h => do
      Run.print (c.path.toList ++ ['\x00'])
      return (true, h))
  | "-prune" => some (false, .primary fun _ h => return (true, { h with isPruned := true }))
  | "-quit" => some (true, .primary fun _ h => return (true, { h with isOver := true }))
  | "-delete" => some (true, .primary deleteFile)
  | _ => none

where
  /-- Whether the file that a name leads to is there. -/
  isThere (c : Candidate) : Run Bool := do
    match ← Run.status true c.path with
    | .ok _ => return true
    | .error _ => return false

/-- The options of a search that look like tests and always hold. -/
def searchOption (p : HuntPlan) (name : String) : Option HuntPlan :=
  match name with
  | "-depth" => some { p with isDeep := true }
  | "-d" => some { p with isDeep := true }
  | "-follow" => some { p with followsAll := true }
  | "-mount" => some p
  | "-xdev" => some p
  | "-noleaf" => some p
  | "-daystart" => some p
  | "-warn" => some p
  | "-nowarn" => some p
  | "-ignore_readdir_race" => some p
  | "-noignore_readdir_race" => some p
  | _ => none

/-- Reads the words of a query.  `last` is the name that was read last. -/
def readTokens : Nat → Option String → HuntPlan → List QueryToken → List String → Run QueryReading
  | 0, _, p, found, _ => return (p, found.reverse)
  | _, _, p, found, [] => return (p, found.reverse)
  | fuel + 1, last, p, found, name :: rest => do
      let add := fun (p : HuntPlan) (token : QueryToken) (rest : List String) =>
        readTokens fuel (some name) p (token :: found) rest
      let missing := fun (_ : Unit) => Run.quit 1 ("missing argument to \x60" ++ name ++ "\x27")
      let depthArgument := fun (set : Nat → HuntPlan) => do
        match rest with
        | [] => missing ()
        | t :: rest =>
            if !t.isEmpty && t.toList.all isDigit then
              add (set (valueOfDigits 10 t.toList)) (.primary (.test fun _ => true)) rest
            else
              Run.quit 1 ("Expected a positive decimal integer argument to " ++ name
                ++ ", but got " ++ (← Run.inQuotes t))
      if !looksLikeQuery false name then
        Run.objection ("paths must precede expression: \x60" ++ name ++ "\x27")
        match last, ← Run.status false name with
        | some before, .ok _ =>
            Run.objection ("possible unquoted pattern after predicate \x60" ++ before ++ "\x27?")
        | _, _ => pure ()
        throw (.exited 1)
      match name with
      | "(" => add p (.opening false) rest
      | ")" => add p (.closing false) rest
      | "!" => add p (.negation name) rest
      | "-not" => add p (.negation name) rest
      | "-a" => add p (.conjunction name) rest
      | "-and" => add p (.conjunction name) rest
      | "-o" => add p (.disjunction name) rest
      | "-or" => add p (.disjunction name) rest
      | "," => add p (.comma name) rest
      | "-maxdepth" => depthArgument fun n => { p with maxDepth := some n }
      | "-mindepth" => depthArgument fun n => { p with minDepth := n }
      | "-regextype" =>
          match rest with
          | [] => missing ()
          | t :: rest =>
              if regexTypes.contains t then
                add { p with regexType := t } (.primary (.test fun _ => true)) rest
              else do
                let types ← regexTypes.mapM Run.inQuotes
                Run.quit 1 ("Unknown regular expression type " ++ (← Run.inQuotes t)
                  ++ "; valid types are " ++ String.intercalate ", " types ++ ".")
      | "-printf" =>
          match rest with
          | [] => missing ()
          | t :: rest => do
              let pieces ← formatArgument t
              add { p with hasAction := true } (.primary (.primary (printFound pieces))) rest
      | "-fprintf" =>
          match rest with
          | path :: t :: rest => do
              let d ← outputFile path
              let pieces ← formatArgument t
              add { p with hasAction := true }
                (.primary (.primary fun c h => withOutput d (printFound pieces c h))) rest
          | _ => missing ()
      | _ =>
          if name == "-fprint" || name == "-fprint0" then
            match rest with
            | [] => missing ()
            | path :: rest => do
                let d ← outputFile path
                let ending := if name == "-fprint" then '\n' else '\x00'
                let write := fun (c : Candidate) (h : Hunt) => withOutput d do
                  Run.print (c.path.toList ++ [ending])
                  return (true, h)
                add { p with hasAction := true } (.primary (.primary write)) rest
          else if ["-exec", "-execdir", "-ok", "-okdir"].contains name then do
            let (q, p, rest) ← readCommand name p rest
            add { p with hasAction := true } (.primary q) rest
          else
            match searchOption p name, plainTest name with
            | some p, _ => add p (.primary (.test fun _ => true)) rest
            | none, some (isAction, q) =>
                let p := { p with hasAction := p.hasAction || isAction }
                let p := if name == "-delete" then { p with isDeep := true, deletes := true } else p
                let p := if name == "-prune" then { p with prunes := true } else p
                add p (.primary q) rest
            | none, none =>
                match argumentTest p name (rest.headD "") with
                | none => Run.quit 1 ("unknown predicate \x60" ++ name ++ "\x27")
                | some make =>
                    match rest with
                    | [] => missing ()
                    | _ :: rest => do add p (.primary (← make)) rest

/-- The query of some words.  Files are printed if no action is among
    them. -/
def queryOf (hasAction : Bool) (tokens : List QueryToken) : Except String Query := do
  let print := match plainTest "-print" with
    | some (_, q) => q
    | none => .test fun _ => true
  if tokens.isEmpty then return print
  else
    let all := joinedTokens tokens
    let all :=
      if hasAction then all
      else .opening true :: all ++ [.closing true, .conjunction "-a", .primary print]
    let (q, rest) ← readQuery (4 * all.length + 8) 0 .opening all
    match rest with
    | [] => return q
    | .closing _ :: _ => .error "you have too many \x27)\x27"
    | _ => .error "paths must precede expression"

/-! ## The search -/

/-- Answers the query for a file and for what is below it.  `fuel` bounds the
    depth. -/
def huntIn (p : HuntPlan) (q : Query) (top : String) : Nat → Nat → String → Hunt → Run Hunt
  | 0, _, _, h => return h
  | fuel + 1, depth, path, h => do
      let follows := p.followsAll || (depth = 0 && p.followsTops)
      let found ← match ← Run.status follows path with
        | .ok f => pure (.ok f)
        | .error e => if follows then Run.status false path else pure (.error e)
      match found with
      | .error e => do
          Run.objection ((← Run.inQuotes path) ++ ": " ++ e.text)
          return { h with code := 1 }
      | .ok f => do
          let c : Candidate := ⟨path, top, depth, follows, f⟩
          let h := { h with isPruned := false }
          let isWanted := p.minDepth ≤ depth
          let h ← if isWanted && !p.isDeep then pure (← q.answer c h).2 else pure h
          let enters :=
            f.kind == .directory && !h.isPruned && !h.isOver && p.maxDepth.all fun n => depth < n
          let h ←
            if enters then do
              let names := (← get).toWorld.namesIn f.location
              names.foldlM
                (fun h name =>
                  if h.isOver then return h
                  else huntIn p q top fuel (depth + 1) (inDirectory path name.toList) h)
                h
            else pure h
          if isWanted && p.isDeep && !h.isOver then return (← q.answer c h).2 else return h

/-- Takes the options that come first: which links are followed. -/
def takeFollowing : HuntPlan → List String → HuntPlan × List String
  | p, [] => (p, [])
  | p, t :: rest =>
      match t with
      | "-H" => takeFollowing { p with followsTops := true, followsAll := false } rest
      | "-L" => takeFollowing { p with followsTops := true, followsAll := true } rest
      | "-P" => takeFollowing { p with followsTops := false, followsAll := false } rest
      | "--" => (p, rest)
      | _ => if t.toList.take 2 == ['-', 'O'] then takeFollowing p rest else (p, t :: rest)

/-- Searches for files. -/
def find : Tool := fun arguments => do
  let p : HuntPlan :=
    { minDepth := 0, maxDepth := none, isDeep := false, followsTops := false, followsAll := false
      hasAction := false, deletes := false, prunes := false, regexType := "findutils-default"
      gathering := [] }
  let (p, arguments) := takeFollowing p arguments
  let tops := arguments.takeWhile fun t => !looksLikeQuery true t
  let words := arguments.drop tops.length
  let (p, tokens) ← readTokens (words.length + 1) none p [] words
  if p.deletes && p.prunes && !(words.contains "-depth" || words.contains "-d") then
    Run.quit 1 ("The -delete action automatically turns on -depth, but -prune does nothing when "
      ++ "-depth is in effect.  If you want to carry on anyway, just explicitly use the -depth option.")
  match queryOf p.hasAction tokens with
  | .error e => Run.quit 1 e
  | .ok q => do
      let h : Hunt := ⟨0, false, false, []⟩
      let h ← (if tops.isEmpty then ["."] else tops).foldlM
        (fun h top => if h.isOver then return h else huntIn p q top 1000 0 top h) h
      let h ← p.gathering.foldlM (fun h g => runGathered g h) h
      return h.code

end HermesBundle.Shell.Tool
