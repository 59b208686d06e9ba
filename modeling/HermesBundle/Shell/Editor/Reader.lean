import HermesBundle.Shell.Editor.Command

/-! # Reader — scripts of an editor from their text

    A script comes in pieces, each of which is read from its start; blocks
    and the text of a command can go on in the next piece.  A fault is told
    with the number of characters that were read before it was found. -/

namespace HermesBundle.Shell.Editor

/-- How far a script has been read. -/
structure Reading where
  /-- What is left of the piece. -/
  rest : Octets
  /-- How many characters of the piece were read. -/
  position : Nat
  line : Nat
  script : Script
  /-- The open blocks, with the numbers of the pieces they are in. -/
  blocks : List (Nat × Nat)
  /-- Whether the text of the last command goes on in the next piece. -/
  isPending : Bool
  piece : Nat
  isExtended : Bool
  isUtf8 : Bool

/-- A fault in a script: what is said, and after how many characters. -/
structure Fault where
  text : String
  position : Nat
  line : Nat
  piece : Nat
  /-- The files that commands before it write. -/
  files : List String

/-- A step of reading. -/
abbrev Step (α : Type) := Reading → Except Fault (α × Reading)

/-- Something is wrong at the place that was reached. -/
def refuse {α : Type} (text : String) (r : Reading) : Except Fault α :=
  .error ⟨text, r.position, r.line, r.piece, r.script.files⟩

/-- The next character, if there is one. -/
def take (r : Reading) : Option Char × Reading :=
  match r.rest with
  | [] => (none, r)
  | c :: rest =>
      (some c, { r with
        rest := rest, position := r.position + 1, line := if c == '\n' then r.line + 1 else r.line })

/-- Gives a character back. -/
def putBack (c : Option Char) (r : Reading) : Reading :=
  match c with
  | none => r
  | some c =>
      { r with
        rest := c :: r.rest, position := r.position - 1, line := if c == '\n' then r.line - 1 else r.line }

/-- Passes over characters of a kind. -/
def passWhile (holds : Char → Bool) (r : Reading) : Reading :=
  let passed := r.rest.takeWhile holds
  { r with
    rest := r.rest.drop passed.length, position := r.position + passed.length
    line := r.line + passed.count '\n' }

/-- The next character that is no blank. -/
def takeVisible (r : Reading) : Option Char × Reading := take (passWhile isBlank r)

/-- A number; 0 if there is none. -/
def takeNumber (r : Reading) : Nat × Reading :=
  let digits := r.rest.takeWhile isDigit
  (valueOfDigits 10 digits, passWhile isDigit r)

/-- The characters up to one of a kind. -/
def takeUntil (stops : Char → Bool) (r : Reading) : Octets × Reading :=
  (r.rest.takeWhile fun c => !stops c, passWhile (fun c => !stops c) r)

/-- The name of a label. -/
def takeLabel (r : Reading) : String × Reading :=
  let (t, r) := takeUntil (fun c => isSpace c || c == ';' || c == '\x7d') (passWhile isBlank r)
  (String.ofList t, r)

/-- The name of a file, up to the end of the line. -/
def takeName (r : Reading) : String × Reading :=
  let (t, r) := takeUntil (· == '\n') (passWhile isBlank r)
  (String.ofList t, (take r).2)

/-- Whether nothing else stands behind a command. -/
def finishCommand (r : Reading) : Except Fault Reading :=
  let (c, after) := takeVisible r
  match c with
  | some '\x7d' => .ok (putBack c after)
  | some '#' => .ok (putBack c after)
  | none => .ok after
  | some '\n' => .ok after
  | some ';' => .ok after
  | some _ => refuse "extra characters after command" after

/-! ## Texts between delimiters -/

/-- The kind of a set in a regular expression that is open. -/
inductive SetState where
  | outside
  /-- Right behind the bracket, or behind the caret after it. -/
  | start
  | afterCaret
  | inside
  /-- In the name of a kind, which ends in a mark and a bracket. -/
  | named (mark : Char)
  | namedAfter (mark : Char)
  | namedEnd
deriving DecidableEq

/-- The state after a character that is not special for itself. -/
def SetState.next (s : SetState) (c : Char) (following : Option Char) : SetState :=
  let opens := c == '[' && following.any fun d => d == ':' || d == '.' || d == '='
  match s with
  | .outside => if c == '[' then .start else .outside
  | .start =>
      if c == '\x5e' then .afterCaret
      else if opens then .named (following.getD ':') else .inside
  | .afterCaret => if opens then .named (following.getD ':') else .inside
  | .inside =>
      if c == ']' then .outside
      else if opens then .named (following.getD ':') else .inside
  | .named mark => .namedAfter mark
  | .namedAfter mark => if c == mark && following == some ']' then .namedEnd else .namedAfter mark
  | .namedEnd => .inside

/-- The text up to a delimiter; none if it is missing.  A delimiter in a set
    belongs to the text. -/
def takeDelimited (delimiter : Char) (isRegex : Bool) :
    Nat → SetState → Reading → Octets → Option (Octets × Reading) × Reading
  | 0, _, r, _ => (none, r)
  | fuel + 1, s, r, found =>
      match take r with
      | (none, r) => (none, r)
      | (some c, after) =>
          if c == '\n' && isRegex then (none, r)
          else if c == '\n' then (none, r)
          else if c == delimiter && (s == .outside || !isRegex) then
            (some (found.reverse, after), after)
          else if c == '\\' then
            match take after with
            | (none, after) => (none, after)
            | (some d, after) =>
                let found :=
                  if d == 'n' && isRegex then '\n' :: found
                  else if d == '\n' then (if isRegex then '\n' :: found else '\n' :: '\\' :: found)
                  else if d == delimiter && (isRegex || d != '&') then d :: found
                  else if s != .outside && isRegex && d == ']' then d :: '\\' :: found
                  else d :: '\\' :: found
                let s := if isRegex && s != .outside then (if d == ']' then .outside else .inside) else s
                takeDelimited delimiter isRegex fuel s after found
          else
            let s := if isRegex then s.next c after.rest.head? else s
            takeDelimited delimiter isRegex fuel s after (c :: found)

/-- The text up to a delimiter. -/
def takeText (delimiter : Char) (isRegex : Bool) (fault : String) : Step Octets := fun r =>
  match takeDelimited delimiter isRegex (r.rest.length + 1) .outside r [] with
  | (some (t, after), _) => .ok (t, after)
  | (none, after) => refuse fault after

/-! ## Escapes -/

/-- The value of digits to a base at the start of a text, and how many
    there are. -/
def escapeNumber (base most : Nat) (t : Octets) : Option (Char × Octets) :=
  let digits := (t.take most).takeWhile fun c => digitValue c < base
  if digits.isEmpty then none
  else some (Char.ofNat (valueOfDigits base digits % 256), t.drop digits.length)

/-- The character that an escape stands for, after the backslash, and what
    follows it. -/
def escaped (t : Octets) : Option (Char × Octets) :=
  match t with
  | 'a' :: rest => some ('\x07', rest)
  | 'f' :: rest => some ('\x0c', rest)
  | 'n' :: rest => some ('\n', rest)
  | 'r' :: rest => some ('\r', rest)
  | 't' :: rest => some ('\t', rest)
  | 'v' :: rest => some ('\x0b', rest)
  | 'c' :: c :: rest => some (Char.ofNat (Nat.xor (raised c).toNat 64), rest)
  | 'd' :: rest => escapeNumber 10 3 rest
  | 'o' :: rest => escapeNumber 8 3 rest
  | 'x' :: rest => escapeNumber 16 2 rest
  | _ => none

/-- The text that a command adds, without its backslashes. -/
def plainText : Nat → Octets → Octets
  | 0, t => t
  | _, [] => []
  | fuel + 1, '\\' :: rest =>
      match escaped rest with
      | some (c, rest) => c :: plainText fuel rest
      | none =>
          match rest with
          | c :: rest => c :: plainText fuel rest
          | [] => []
  | fuel + 1, c :: rest => c :: plainText fuel rest

/-- The parts of a replacement; plain characters are in reverse. -/
def pieces : Nat → Octets → Octets → List Piece
  | 0, _, plain => [.text plain.reverse]
  | _, [], plain => if plain.isEmpty then [] else [.text plain.reverse]
  | fuel + 1, '\\' :: rest, plain =>
      let before : List Piece := if plain.isEmpty then [] else [.text plain.reverse]
      match rest with
      | [] => [.text ('\\' :: plain).reverse]
      | c :: after =>
          if isDigit c then before ++ .group (digitValue c) :: pieces fuel after []
          else
            match c with
            | 'U' => before ++ .changes .upper :: pieces fuel after []
            | 'L' => before ++ .changes .lower :: pieces fuel after []
            | 'u' => before ++ .changes .upperFirst :: pieces fuel after []
            | 'l' => before ++ .changes .lowerFirst :: pieces fuel after []
            | 'E' => before ++ .changes .finish :: pieces fuel after []
            | c =>
                match escaped rest with
                | some (d, after) => pieces fuel after (d :: plain)
                | none => pieces fuel after (c :: plain)
  | fuel + 1, '&' :: rest, plain =>
      (if plain.isEmpty then [] else [.text plain.reverse]) ++ .group 0 :: pieces fuel rest []
  | fuel + 1, c :: rest, plain => pieces fuel rest (c :: plain)

/-- The highest group of a replacement. -/
def highestGroup (parts : List Piece) : Nat :=
  parts.foldl (fun n p => match p with
    | .group k => max n k
    | _ => n) 0

/-- The characters of one side of a transliteration. -/
def transliterated (isUtf8 : Bool) : Nat → Octets → List Octets
  | 0, _ => []
  | _, [] => []
  | fuel + 1, '\\' :: rest =>
      match rest with
      | 'n' :: rest => ['\n'] :: transliterated isUtf8 fuel rest
      | '\\' :: rest => ['\\'] :: transliterated isUtf8 fuel rest
      | rest =>
          match escaped rest with
          | some (c, rest) => [c] :: transliterated isUtf8 fuel rest
          | none =>
              match rest with
              | c :: rest => [c] :: transliterated isUtf8 fuel rest
              | [] => [['\\']]
  | fuel + 1, c :: rest =>
      let character := if isUtf8 then ((characters (c :: rest)).head?).getD [c] else [c]
      character :: transliterated isUtf8 fuel ((c :: rest).drop character.length)

/-! ## Regular expressions and addresses -/

/-- The search that a text describes; none for the empty text. -/
def searchOf (t : Octets) (ignoresCase byLine : Bool) : Step (Option Search) := fun r =>
  if t.isEmpty then
    if ignoresCase || byLine then refuse "cannot specify modifiers on empty regexp" r else .ok (none, r)
  else
    let form := if r.isExtended then RegexNotation.extendedEditing else RegexNotation.basicEditing
    match Search.ofOctets form r.isUtf8 ⟨ignoresCase, byLine⟩ t with
    | .ok search => .ok (some search, r)
    | .error e => refuse e.text r

/-- The letters behind a regular expression of an address. -/
def takeModifiers : Nat → Bool → Bool → Reading → Bool × Bool × Reading
  | 0, i, m, r => (i, m, r)
  | fuel + 1, i, m, r =>
      let (c, after) := takeVisible r
      match c with
      | some 'I' => takeModifiers fuel true m after
      | some 'M' => takeModifiers fuel i true after
      | c => (i, m, putBack c after)

/-- The address that starts with a character, if there is one. -/
def takeAddress (c : Option Char) : Step (Option RangeEnd) := fun r =>
  let matching := fun (delimiter : Char) (r : Reading) => do
    let (t, r) ← takeText delimiter true "unterminated address regex" r
    let (i, m, r) := takeModifiers (r.rest.length + 1) false false r
    let (search, r) ← searchOf t i m r
    .ok (some (RangeEnd.at (.matching search)), r)
  match c with
  | some '/' => matching '/' r
  | some '\\' =>
      match take r with
      | (some d, r) => matching d r
      | (none, r) => refuse "unterminated address regex" r
  | some '$' => .ok (some (.at .last), r)
  | some '+' =>
      let (n, r) := takeNumber (passWhile isBlank r)
      .ok (some (.after n), r)
  | some '~' =>
      let (n, r) := takeNumber (passWhile isBlank r)
      .ok (some (.multiple n), r)
  | some c =>
      if isDigit c then
        let (n, r) := takeNumber (putBack (some c) r)
        match takeVisible r with
        | (some '~', after) =>
            let (size, after) := takeNumber (passWhile isBlank after)
            .ok (some (.at (if size > 0 then .step n size else .line n)), after)
        | (d, after) => .ok (some (.at (.line n)), putBack d after)
      else .ok (none, r)
  | none => .ok (none, r)

/-- The lines that a command is for, and the character behind that. -/
def takeSelection (c : Option Char) : Step (Selection × Option Char) := fun r => do
  let (first, r) ← takeAddress c r
  let (selection, c, r) ← match first with
    | none => Except.ok (Selection.mk none none false, c, r)
    | some (.at first) => do
        let (c, r) := takeVisible r
        match c with
        | some ',' => do
            let (d, r) := takeVisible r
            let (last, r) ← takeAddress d r
            match last with
            | none => refuse "unexpected \x60,\x27" r
            | some last => do
                -- As the end of a range, steps are their first line.
                let last := match last with
                  | .at (.step n _) => .at (.line n)
                  | last => last
                let (c, r) := takeVisible r
                Except.ok (Selection.mk (some first) (some last) false, c, r)
        | c => Except.ok (Selection.mk (some first) none false, c, r)
    | some _ => refuse "invalid usage of +N or ~N as first address" r
  match selection.first, selection.last with
  | some (.line 0), some (.at (.matching _)) => pure ()
  | some (.line 0), _ => refuse "invalid usage of line address 0" r
  | _, _ => pure ()
  match c with
  | some '!' => do
      let (c, r) := takeVisible (passWhile isSpace r)
      if c == some '!' then refuse "multiple \x60!\x27s" r
      else .ok (({ selection with isNegated := true }, c), r)
  | c => .ok ((selection, c), r)

/-! ## Commands -/

/-- The text that a command adds, up to a line that does not end in a
    backslash.  The result tells whether the text goes on in the next
    piece. -/
def takeLines : Nat → Reading → Octets → Octets × Bool × Reading
  | 0, r, found => (found.reverse, false, r)
  | fuel + 1, r, found =>
      match take r with
      | (none, r) => (found.reverse, false, r)
      | (some '\n', r) => (found.reverse, false, r)
      | (some '\\', r) =>
          match take r with
          | (none, r) => (found.reverse, true, r)
          | (some c, r) => takeLines fuel r (c :: '\\' :: found)
      | (some c, r) => takeLines fuel r (c :: found)

/-- The text of a command that adds one. -/
def takeAdded : Step (Octets × Bool) := fun r =>
  let (c, after) := takeVisible r
  let finish := fun (r : Reading) =>
    let (t, isPending, r) := takeLines (r.rest.length + 1) r []
    let text := plainText (t.length + 1) t ++ ['\n']
    Except.ok ((text, isPending), r)
  match c with
  | none => refuse "expected \\ after \x60a\x27, \x60c\x27 or \x60i\x27" after
  | some '\\' =>
      match take (passWhile isBlank after) with
      | (none, after) => .ok (([], true), after)
      | (some '\n', after) => if after.rest.isEmpty then .ok (([], true), after) else finish after
      | (some _, _) => finish after
  | some c => finish (putBack (some c) after)

/-- The options of a substitution. -/
structure SubstitutionOptions where
  isGlobal : Bool
  prints : Bool
  number : Option Nat
  ignoresCase : Bool
  byLine : Bool
  file : Option String

/-- The options behind a substitution. -/
def takeOptions : Nat → SubstitutionOptions → Step SubstitutionOptions
  | 0, o, r => .ok (o, r)
  | fuel + 1, o, r =>
      let (c, after) := take r
      match c with
      | none => .ok (o, after)
      | some c =>
          if c == '\n' || c == ';' then .ok (o, after)
          else if c == '\x7d' || c == '#' then .ok (o, putBack (some c) after)
          else if isSpace c then takeOptions fuel o after
          else if c == 'i' || c == 'I' then takeOptions fuel { o with ignoresCase := true } after
          else if c == 'm' || c == 'M' then takeOptions fuel { o with byLine := true } after
          else if c == 'p' then
            if o.prints then refuse "multiple \x60p\x27 options to \x60s\x27 command" after
            else takeOptions fuel { o with prints := true } after
          else if c == 'g' then
            if o.isGlobal then refuse "multiple \x60g\x27 options to \x60s\x27 command" after
            else takeOptions fuel { o with isGlobal := true } after
          else if c == 'w' then
            let (name, after) := takeName after
            if name.isEmpty then refuse "missing filename in r/R/w/W commands" after
            else .ok ({ o with file := some name }, after)
          else if isDigit c then
            if o.number.isSome then refuse "multiple number options to \x60s\x27 command" after
            else
              let (n, after) := takeNumber (putBack (some c) after)
              if n = 0 then refuse "number option to \x60s\x27 command may not be zero" after
              else takeOptions fuel { o with number := some n } after
          else refuse "unknown option to \x60s\x27" after

/-- How many groups an expression has. -/
def groupCount (search : Option Search) : Nat := (search.map (·.groups)).getD 9

/-- A substitution after its letter. -/
def takeSubstitution : Step Substitution := fun r => do
  let fault := "unterminated \x60s\x27 command"
  match take r with
  | (none, r) => refuse fault r
  | (some delimiter, r) => do
      let (pattern, r) ← takeText delimiter true fault r
      let (replacement, r) ← takeText delimiter false fault r
      let parts := pieces (replacement.length + 1) replacement []
      let (o, r) ← takeOptions (r.rest.length + 1) ⟨false, false, none, false, false, none⟩ r
      -- The file is opened before the expression is looked at.
      let withFile := fun {α : Type} (e : Except Fault α) =>
        e.mapError fun f => { f with files := f.files ++ o.file.toList }
      let (search, r) ← withFile (searchOf pattern o.ignoresCase o.byLine r)
      if groupCount search < highestGroup parts then
        withFile (refuse
          ("invalid reference \\" ++ toString (highestGroup parts) ++ " on \x60s\x27 command\x27s RHS") r)
      else
        .ok (⟨search, parts, o.isGlobal, o.number.getD 1, o.prints, o.file⟩, r)

/-- A transliteration after its letter. -/
def takeTransliteration : Step Action := fun r => do
  let fault := "unterminated \x60y\x27 command"
  match take r with
  | (none, r) => refuse fault r
  | (some delimiter, r) => do
      let (source, r) ← takeText delimiter false fault r
      let (target, r) ← takeText delimiter false fault r
      let a := transliterated r.isUtf8 (source.length + 1) source
      let b := transliterated r.isUtf8 (target.length + 1) target
      if a.length != b.length then refuse "strings for \x60y\x27 command are different lengths" r
      else do
        let r ← finishCommand r
        .ok (.transliterate a b, r)

/-- A number behind a command, if there is one. -/
def takeArgument (r : Reading) : Option Nat × Reading :=
  let (c, after) := takeVisible r
  match c with
  | some d =>
      if isDigit d then
        let (n, after) := takeNumber (putBack c after)
        (some n, after)
      else (none, putBack c after)
  | none => (none, after)

/-- Adds a command. -/
def add (selection : Selection) (action : Action) (r : Reading) : Reading :=
  { r with script := { r.script with commands := r.script.commands.push ⟨selection, action⟩ } }

/-- The commands without anything behind their letter. -/
def bareAction (c : Char) : Option Action :=
  match c with
  | 'd' => some .delete
  | 'D' => some .deleteFirst
  | 'F' => some .showName
  | 'g' => some .takeHold
  | 'G' => some .addHold
  | 'h' => some .keep
  | 'H' => some .addToHold
  | 'n' => some .next
  | 'N' => some .addNext
  | 'p' => some .print
  | 'P' => some .printFirst
  | 'x' => some .exchange
  | 'z' => some .clear
  | '=' => some .showNumber
  | _ => none

/-- The file of a command. -/
def takeFile (action : String → Action) : Step Action := fun r =>
  let (name, r) := takeName r
  if name.isEmpty then refuse "missing filename in r/R/w/W commands" r else .ok (action name, r)

/-- Reads a command after its addresses. -/
def takeCommand (selection : Selection) (c : Char) (r : Reading) : Except Fault Reading := do
  let jump := fun (condition : JumpCondition) =>
    let (label, r) := takeLabel r
    Except.ok (add selection (.jump condition label) r)
  let filed := fun (action : String → Action) => do
    let (action, r) ← takeFile action r
    Except.ok (add selection action r)
  let added := fun (action : Octets → Action) => do
    let ((t, isPending), r) ← takeAdded r
    Except.ok { add selection (action t) r with isPending := isPending }
  match bareAction c with
  | some action => do
      let r ← finishCommand r
      .ok (add selection action r)
  | none =>
      match c with
      | '#' =>
          if selection.first.isSome then refuse "comments don\x27t accept any addresses" r
          else
            let text := r.rest.takeWhile (· != '\n')
            let quiet := text.head? == some 'n' && r.position = 1 && r.piece = 1
            let r := (takeUntil (· == '\n') r).2
            .ok { r with script := { r.script with isQuiet := r.script.isQuiet || quiet } }
      | '\x7b' =>
          let place := r.script.commands.size
          .ok { add selection (.block 0) r with blocks := (place, r.piece) :: r.blocks }
      | '\x7d' =>
          match r.blocks with
          | [] => refuse "unexpected \x60\x7d\x27" r
          | (place, _) :: blocks =>
              if selection.first.isSome then refuse "\x7d doesn\x27t want any addresses" r
              else do
                let r ← finishCommand r
                let finish := r.script.commands.size
                let commands := r.script.commands.modify place fun c =>
                  { c with action := .block finish }
                .ok { r with blocks := blocks, script := { r.script with commands := commands } }
      | ':' =>
          if selection.first.isSome then refuse ": doesn\x27t want any addresses" r
          else
            let (label, r) := takeLabel r
            if label.isEmpty then refuse "\x22:\x22 lacks a label" r
            else
              let place := r.script.commands.size
              .ok { r with script := { r.script with labels := (label, place) :: r.script.labels } }
      | 'a' => added .append
      | 'i' => added .insert
      | 'c' => added .change
      | 'b' => jump .always
      | 't' => jump .replaced
      | 'T' => jump .unchanged
      | 'l' => do
          let (n, r) := takeArgument r
          let r ← finishCommand r
          .ok (add selection (.showEscaped n) r)
      | 'q' =>
          if selection.last.isSome then refuse "command only uses one address" r
          else do
            let (n, r) := takeArgument r
            let r ← finishCommand r
            .ok (add selection (.quit (n.getD 0)) r)
      | 'Q' =>
          if selection.last.isSome then refuse "command only uses one address" r
          else do
            let (n, r) := takeArgument r
            let r ← finishCommand r
            .ok (add selection (.quitSilently (n.getD 0)) r)
      | 'r' => filed .readFile
      | 'R' => filed .readLine
      | 'w' => filed .write
      | 'W' => filed .writeFirst
      | 's' => do
          let (s, r) ← takeSubstitution r
          .ok (add selection (.substitute s) r)
      | 'y' => do
          let (action, r) ← takeTransliteration r
          .ok (add selection action r)
      | 'v' =>
          let (label, r) := takeLabel r
          let major := (label.toList.takeWhile isDigit)
          if 4 < valueOfDigits 10 major then refuse "expected newer version of sed" r else .ok r
      | c => refuse ("unknown command: \x60" ++ String.singleton c ++ "\x27") r

/-- Reads the commands of a piece. -/
def takeCommands : Nat → Reading → Except Fault Reading
  | 0, r => .ok r
  | fuel + 1, r =>
      let r := passWhile (fun c => isSpace c || c == ';') r
      match take r with
      | (none, r) => .ok r
      | (some c, r) => do
          let ((selection, c), r) ← takeSelection (some c) r
          match c with
          | none => refuse "missing command" r
          | some c => do
              let r ← takeCommand selection c r
              takeCommands fuel r

/-- Gives the last command more text. -/
def addPending (t : Octets) (commands : Array Command) : Array Command :=
  commands.modify (commands.size - 1) fun c =>
    match c.action with
    | .append before => { c with action := .append (before ++ t) }
    | .insert before => { c with action := .insert (before ++ t) }
    | .change before => { c with action := .change (before ++ t) }
    | _ => c

/-- Reads another piece of a script. -/
def readPiece (t : Octets) (r : Reading) : Except Fault Reading :=
  let r := { r with rest := t, position := 0, line := 1, piece := r.piece + 1 }
  let r :=
    if r.isPending then
      let (text, isPending, r) := takeLines (r.rest.length + 1) r []
      let text := plainText (text.length + 1) text ++ ['\n']
      { r with
        isPending := isPending, script := { r.script with commands := addPending text r.script.commands } }
    else r
  takeCommands (t.length + 2) r

/-- Whether all blocks are closed at the end of a script. -/
def finishScript (r : Reading) : Except Fault Script :=
  match r.blocks with
  | [] => .ok r.script
  | (_, piece) :: _ => .error ⟨"unmatched \x60\x7b\x27", 0, 0, piece, r.script.files⟩

/-- Nothing of a script has been read. -/
def startReading (isExtended isUtf8 : Bool) : Reading :=
  ⟨[], 0, 1, ⟨#[], [], false⟩, [], false, 0, isExtended, isUtf8⟩

end HermesBundle.Shell.Editor
