import HermesBundle.Shell.Words

/-! # The grammar — from the text of a script to commands

    Reading goes token by token, with one token read ahead.  Whether a
    word is a reserved one, or an alias, depends on where it stands.  A
    complete command is read with the rest of its line, so that a script
    can be run while it is read. -/

namespace HermesBundle.Shell

/-- What a word may be besides a word, and whether ends of lines are
    skipped in front of it. -/
structure Place where
  skipsLines : Bool
  keywords : Bool
  aliases : Bool

namespace Place

/-- Inside a command. -/
def inside : Place := ⟨false, false, false⟩

/-- Where a command may start. -/
def command : Place := ⟨false, true, true⟩

/-- Where a command has to start, on this line or on a later one. -/
def fresh : Place := ⟨true, true, true⟩

end Place

/-- The reserved words. -/
def keywords : List String :=
  ["!", "case", "do", "done", "elif", "else", "esac", "fi", "for", "if", "in", "then", "until",
   "while", "\x7b", "\x7d"]

/-- Reads an operator that starts with a character, or the same one
    doubled. -/
def readDoubled (c : Char) : Reader Token := do
  if ← Reader.takeIf c then return .operator (String.ofList [c, c])
  else return .operator (String.singleton c)

/-- Reads a redirection whose descriptor may have been given. -/
def readArrow (given : Option Nat) : Reader Token := do
  match ← Reader.take with
  | some '>' => do
      let kind : RedirectKind ←
        if ← Reader.takeIf '>' then pure .append
        else if ← Reader.takeIf '|' then pure .overwrite
        else if ← Reader.takeIf '&' then pure .duplicate
        else pure .write
      return .redirect (given.getD 1) kind none
  | _ => do
      if ← Reader.takeIf '<' then
        let stripsTabs ← Reader.takeIf '-'
        let s ← get
        set { s with nextDocument := s.nextDocument + 1 }
        return .redirect (given.getD 0) (.document s.nextDocument) (some stripsTabs)
      else
        let kind : RedirectKind ←
          if ← Reader.takeIf '&' then pure .duplicate
          else if ← Reader.takeIf '>' then pure .readWrite
          else pure .read
        return .redirect (given.getD 0) kind none

mutual

/-- Reads a token as it stands in the source. -/
def readRaw (commands : CommandsReader) : Nat → Reader Token
  | 0 => return .finish
  | fuel + 1 => do
      match ← Reader.peekJoined with
      | none => return .finish
      | some c =>
          match c with
          | ' ' => do
              let _ ← Reader.take
              readRaw commands fuel
          | '\t' => do
              let _ ← Reader.take
              readRaw commands fuel
          | '#' => do
              Reader.skipLine (← get).left
              readRaw commands fuel
          | '\n' => do
              let _ ← Reader.take
              return .newline
          | '&' => do
              let _ ← Reader.take
              readDoubled '&'
          | '|' => do
              let _ ← Reader.take
              readDoubled '|'
          | ';' => do
              let _ ← Reader.take
              readDoubled ';'
          | '(' => do
              let _ ← Reader.take
              return .operator "("
          | ')' => do
              let _ ← Reader.take
              return .operator ")"
          | _ =>
              if c == '<' || c == '>' then readArrow none
              else do
                let word ← readWord commands (readToken commands fuel .inside)
                let after ← Reader.peekJoined
                match word.bare?.map String.toList with
                | some [d] =>
                    if isDigit d && (after == some '<' || after == some '>') then
                      readArrow (some (digitValue d))
                    else return .word word false
                | _ => return .word word (word.any quotes)
where
  /-- Whether a piece comes from quotes. -/
  quotes : Piece → Bool
    | .literal _ isQuoted => isQuoted
    | .mark => true
    | _ => false

/-- Reads a token at a place. -/
def readToken (commands : CommandsReader) : Nat → Place → Reader Token
  | 0, _ => return .finish
  | fuel + 1, place => do
      let s ← get
      let token ←
        match s.ahead with
        | some token => do
            set { s with ahead := none }
            pure token
        | none => readRaw commands fuel
      match token with
      | .newline =>
          if place.skipsLines then do
            readDocuments commands (readToken commands fuel .inside)
            readToken commands fuel place
          else return token
      | .word word isQuoted => do
          let s ← get
          let mayBeAlias := place.aliases || s.expectsAlias
          set { s with expectsAlias := false }
          if isQuoted then return token
          else
            match word.bare? with
            | none => return token
            | some text =>
                if place.keywords && keywords.contains text then return .keyword text
                else if mayBeAlias && !s.active.any fun a => a.name == text then
                  match s.aliases.find? text with
                  | some value => do
                      Reader.pushAlias text value
                      readToken commands fuel { place with aliases := true }
                  | none => return token
                else return token
      | token => do
          modify fun s => { s with expectsAlias := false }
          return token

end

/-- Gives a token back, to be read again. -/
def unread (token : Token) : Reader Unit := modify fun s => { s with ahead := some token }

/-- Whether a token ends a list of commands. -/
def endsList : Token → Bool
  | .finish => true
  | .operator text => text == ")" || text == ";;"
  | .keyword text => ["do", "done", "elif", "else", "esac", "fi", "then", "\x7d"].contains text
  | _ => false

/-- The assignment that a word at the start of a command is. -/
def assignment? (word : Word) : Option (String × Word) :=
  match word with
  | .literal text false :: rest =>
      let t := text.toList
      let name := leadingName t
      if name.isEmpty then none
      else
        match t.drop name.length with
        | '=' :: value =>
            some (String.ofList name,
              if value.isEmpty then rest
              else .literal (String.ofList value) false :: rest)
        | _ => none
  | _ => none

/-- The names that no function can have. -/
def reservedNames : List String :=
  [".", ":", "break", "continue", "eval", "exec", "exit", "export", "readonly", "return", "set",
   "shift", "times", "trap", "unset"]

/-- The kind of list that is read. -/
inductive ListKind where
  /-- The commands of a line. -/
  | line
  /-- Commands of which there is at least one. -/
  | body
  /-- Commands of which there may be none. -/
  | branch
deriving DecidableEq

/-- Reads the target of a redirection. -/
def readTarget (next : Place → Reader Token) (descriptor : Nat) (kind : RedirectKind)
    (document : Option Bool) : Reader Redirect := do
  match kind, document with
  | .document number, some stripsTabs => do
      let _ ← Reader.takeWhile isBlank (← get).left []
      match ← Reader.peekJoined with
      | none => Reader.refuseToken .finish none
      | some c =>
          if endsWord c then Reader.refuseToken (← next .inside) none
          else
            let (delimiter, isQuoted) ← readDelimiter (← get).left.succ [] false
            modify fun s => { s with
              announced := s.announced ++ [⟨number, delimiter, isQuoted, stripsTabs⟩] }
            return .mk descriptor kind []
  | _, _ => do
      match ← next .inside with
      | .word word _ => return .mk descriptor kind word
      | token => Reader.refuseToken token none

/-- Reads words up to the end of the command, and the token after them. -/
def readWords (next : Place → Reader Token) : Nat → List Word → Reader (List Word × Token)
  | 0, found => return (found.reverse, .finish)
  | fuel + 1, found => do
      match ← next .inside with
      | .word word _ => readWords next fuel (word :: found)
      | token => return (found.reverse, token)

/-- Reads redirections as long as there are any. -/
def readRedirects (next : Place → Reader Token) :
    Nat → List Redirect → Reader (List Redirect)
  | 0, found => return found.reverse
  | fuel + 1, found => do
      match ← next .command with
      | .redirect descriptor kind document => do
          let r ← readTarget next descriptor kind document
          readRedirects next fuel (r :: found)
      | token => do
          unread token
          return found.reverse

/-- The operator that is expected. -/
def expect (next : Place → Reader Token) (place : Place) (token : Token) : Reader Unit := do
  let found ← next place
  if found.name != token.name then Reader.refuseToken found (some token)

mutual

/-- Reads commands up to the end of a list. -/
def readList : Nat → ListKind → Bool → List Command → Reader (List Command)
  | 0, _, _, found => return found.reverse
  | fuel + 1, kind, isFirst, found => do
      let next := readToken (readList fuel .branch true []) fuel
      let documents := readDocuments (readList fuel .branch true []) (next .inside)
      let place : Place := ⟨kind != .line, true, true⟩
      match ← next place with
      | .newline => do
          documents
          return found.reverse
      | .finish => do
          documents
          unread .finish
          return found.reverse
      | token => do
          unread token
          if kind != .line && (!isFirst || kind = .branch) && endsList token then
            return found.reverse
          else
            let command ← readAndOr fuel
            match ← next .inside with
            | .operator "&" => readList fuel kind false (.background command :: found)
            | .operator ";" => readList fuel kind false (command :: found)
            | .newline => do
                unread .newline
                readList fuel kind false (command :: found)
            | .finish => do
                documents
                unread .finish
                return (command :: found).reverse
            | token =>
                if kind = .line then Reader.refuseToken token none
                else do
                  unread token
                  return (command :: found).reverse

/-- Reads pipelines joined by logical operators. -/
def readAndOr : Nat → Reader Command
  | 0 => return .sequence []
  | fuel + 1 => do
      let first ← readPipeline fuel .inside
      readAndOrRest fuel first

/-- Continues a row of pipelines joined by logical operators. -/
def readAndOrRest : Nat → Command → Reader Command
  | 0, first => return first
  | fuel + 1, first => do
      let next := readToken (readList fuel .branch true []) fuel
      match ← next .inside with
      | .operator "&&" => do
          let second ← readPipeline fuel .fresh
          readAndOrRest fuel (.both first second)
      | .operator "||" => do
          let second ← readPipeline fuel .fresh
          readAndOrRest fuel (.either first second)
      | token => do
          unread token
          return first

/-- Reads commands joined by pipes. -/
def readPipeline : Nat → Place → Reader Command
  | 0, _ => return .sequence []
  | fuel + 1, place => do
      let next := readToken (readList fuel .branch true []) fuel
      match ← next place with
      | .keyword "!" => do
          let first ← readCommand fuel .command
          return .negation (← readPipes fuel [first])
      | token => do
          unread token
          let first ← readCommand fuel .inside
          readPipes fuel [first]

/-- Reads the commands after the first one of a pipeline. -/
def readPipes : Nat → List Command → Reader Command
  | 0, found => return .pipeline found.reverse
  | fuel + 1, found => do
      let next := readToken (readList fuel .branch true []) fuel
      match ← next .inside with
      | .operator "|" => do
          let command ← readCommand fuel .fresh
          readPipes fuel (command :: found)
      | token => do
          unread token
          match found with
          | [command] => return command
          | _ => return .pipeline found.reverse

/-- Reads one command. -/
def readCommand : Nat → Place → Reader Command
  | 0, _ => return .sequence []
  | fuel + 1, place => do
      let next := readToken (readList fuel .branch true []) fuel
      let line := (← get).line
      let withRedirects := fun (command : Command) => do
        let redirects ← readRedirects next (← get).left.succ []
        if redirects.isEmpty then return command
        else
          match command with
          | .subshell line body _ => return Command.subshell line body redirects
          | command => return Command.redirected line command redirects
      match ← next place with
      | .keyword "if" => do
          let (condition, consequence, alternative) ← readBranches fuel
          withRedirects (.choice condition consequence alternative)
      | .keyword "while" => do
          let condition ← readList fuel .body true []
          expect next .inside (.keyword "do")
          let body ← readList fuel .body true []
          expect next .inside (.keyword "done")
          withRedirects (.repeated false condition body)
      | .keyword "until" => do
          let condition ← readList fuel .body true []
          expect next .inside (.keyword "do")
          let body ← readList fuel .body true []
          expect next .inside (.keyword "done")
          withRedirects (.repeated true condition body)
      | .keyword "for" => do
          let name ←
            match ← next .inside with
            | .word word false =>
                match word.bare? with
                | some name =>
                    if isName name then pure name else Reader.refuse "Bad for loop variable"
                | none => Reader.refuse "Bad for loop variable"
            | _ => Reader.refuse "Bad for loop variable"
          let words ←
            match ← next .fresh with
            | .keyword "in" => do
                let (words, ending) ← readWords next (← get).left.succ []
                match ending with
                | .newline => unread .newline
                | .operator ";" => pure ()
                | token => Reader.refuseToken token none
                pure (some words)
            | .operator ";" => pure none
            | token => do
                unread token
                pure none
          expect next .fresh (.keyword "do")
          let body ← readList fuel .body true []
          expect next .inside (.keyword "done")
          withRedirects (.forEach line name words body)
      | .keyword "case" => do
          let subject ←
            match ← next .inside with
            | .word word _ => pure word
            | token => Reader.refuseToken token (some (.word [] false))
          expect next .fresh (.keyword "in")
          let branches ← readCases fuel []
          withRedirects (.select line subject branches)
      | .operator "(" => do
          let body ← readList fuel .body true []
          expect next .inside (.operator ")")
          withRedirects (.subshell line body [])
      | .keyword "\x7b" => do
          let body ← readList fuel .body true []
          expect next .inside (.keyword "\x7d")
          -- Braces around nothing but a subshell are as good as none, so its
          -- redirections give way to theirs.
          match body with
          | [.subshell line inner own] => withRedirects (.subshell line inner own)
          | _ => withRedirects (.sequence body)
      | .word word isQuoted => do
          unread (.word word isQuoted)
          readSimple fuel (← get).line true [] [] []
      | .redirect descriptor kind document => do
          unread (.redirect descriptor kind document)
          readSimple fuel (← get).line true [] [] []
      | token => Reader.refuseToken token none

/-- Reads the words and redirections of a simple command.  As long as only
    assignments have come, the next word can be an alias. -/
def readSimple : Nat → Nat → Bool → List (String × Word) → List Word → List Redirect →
    Reader Command
  | 0, line, _, assignments, words, redirects =>
      return .simple line assignments.reverse words.reverse redirects.reverse
  | fuel + 1, line, isStart, assignments, words, redirects => do
      let next := readToken (readList fuel .branch true []) fuel
      match ← next ⟨false, false, isStart⟩ with
      | .word word _ =>
          match if isStart then assignment? word else none with
          | some a => readSimple fuel line true (a :: assignments) words redirects
          | none => readSimple fuel line false assignments (word :: words) redirects
      | .redirect descriptor kind document => do
          let r ← readTarget next descriptor kind document
          readSimple fuel line isStart assignments words (r :: redirects)
      | .operator "(" =>
          match words, assignments, redirects with
          | [word], [], [] => do
              expect next .inside (.operator ")")
              let name := word.bare?.getD ""
              if !isName name || reservedNames.contains name then
                Reader.refuse "Bad function name"
              let line := (← get).line
              let body ← readCommand fuel .fresh
              return .define line name body
          | _, _, _ => do
              unread (.operator "(")
              return .simple line assignments.reverse words.reverse redirects.reverse
      | token => do
          unread token
          return .simple line assignments.reverse words.reverse redirects.reverse

/-- Reads condition, consequence and alternative of a choice. -/
def readBranches : Nat → Reader (List Command × List Command × List Command)
  | 0 => return ([], [], [])
  | fuel + 1 => do
      let next := readToken (readList fuel .branch true []) fuel
      let condition ← readList fuel .body true []
      expect next .inside (.keyword "then")
      let consequence ← readList fuel .body true []
      match ← next .inside with
      | .keyword "elif" => do
          let (c, t, e) ← readBranches fuel
          return (condition, consequence, [.choice c t e])
      | .keyword "else" => do
          let alternative ← readList fuel .body true []
          expect next .inside (.keyword "fi")
          return (condition, consequence, alternative)
      | token => do
          unread token
          expect next .inside (.keyword "fi")
          return (condition, consequence, [])

/-- Reads patterns set apart by bars, up to the closing parenthesis. -/
def readPatterns : Nat → Token → List Word → Reader (List Word)
  | 0, _, found => return found.reverse
  | fuel + 1, token, found => do
      let next := readToken (readList fuel .branch true []) fuel
      let word :=
        match token with
        | .word word _ => word
        | .keyword text => [.literal text false]
        | _ => []
      match ← next .inside with
      | .operator "|" => do
          let token ← next .inside
          readPatterns fuel token (word :: found)
      | .operator ")" => return (word :: found).reverse
      | token => Reader.refuseToken token (some (.operator ")"))

/-- Reads the branches of a selection and its end. -/
def readCases : Nat → List (List Word × List Command) →
    Reader (List (List Word × List Command))
  | 0, found => return found.reverse
  | fuel + 1, found => do
      let next := readToken (readList fuel .branch true []) fuel
      match ← next ⟨true, true, false⟩ with
      | .keyword "esac" => return found.reverse
      | token => do
          let first ←
            match token with
            | .operator "(" => next .inside
            | token => pure token
          let patterns ← readPatterns fuel first []
          let body ← readList fuel .branch true []
          match ← next ⟨true, true, false⟩ with
          | .keyword "esac" => return ((patterns, body) :: found).reverse
          | .operator ";;" => readCases fuel ((patterns, body) :: found)
          | token => Reader.refuseToken token (some (.operator ";;"))

end

/-- What reading the next complete command of a source yields. -/
inductive Reading where
  /-- Commands, possibly none, the source after them, and whether they end
      with it. -/
  | commands (body : List Command) (rest : Source) (isLast : Bool)
  /-- The source is at its end. -/
  | finished (rest : Source)
  | refused (refusal : Refusal)

/-- Reads the commands of a line, which may go on over several lines. -/
def Source.nextLine (s : Source) : Reading :=
  match (readList (2 * s.left + 20) .line true []).run { s with ahead := none } with
  | .error refusal => .refused refusal
  | .ok (body, after) =>
      let isLast := match after.ahead with
        | some .finish => true
        | _ => false
      if body.isEmpty && isLast then .finished { after with ahead := none }
      else .commands body { after with ahead := none } isLast

/-- A source with more text at its end. -/
def Source.extended (s : Source) (t : Octets) : Source :=
  { s with
    rest := s.rest ++ t, left := s.left + t.length
    active := s.active.map fun a => { a with after := a.after + t.length } }

/-- Whether a reading of a source would be the same if the source went on.  It
    is if the reading has stopped in front of the end, or at the end without
    looking at it. -/
def Source.settles (s : Source) (r : Reading) : Bool :=
  match r with
  | .commands _ rest _ =>
      rest.left != 0
        || (s.rest.getLast? == some '\n'
          && match (s.extended ['\n']).nextLine with
            | .commands _ rest _ => rest.left == 1
            | _ => false)
  | _ => false

/-- Reads a whole source as a text in which expansions are replaced. -/
def Source.wholeText (s : Source) : Except Refusal Word :=
  let commands := readList (2 * s.left + 20) .branch true []
  let next := readToken commands (2 * s.left + 20) .inside
  match (readPieces commands next .document .finish (2 * s.left + 2) Draft.empty).run s with
  | .error refusal => .error refusal
  | .ok (d, _) => .ok d.word

end HermesBundle.Shell
