import HermesBundle.Shell.Script

/-! # Sources — the text of a script while it is read

    A source yields characters and counts lines.  Aliases are read in
    place of the words they stand for; an alias is not replaced again
    while its own text is read.  Input that the script holds for its
    commands is announced on a line and stands below it. -/

namespace HermesBundle.Shell

/-- Why a script cannot be read, and on which line that was found out. -/
structure Refusal where
  line : Nat
  reason : String

/-- A part of a script that the grammar knows. -/
inductive Token where
  | finish
  | newline
  /-- An operator, by its text. -/
  | operator (text : String)
  /-- A reserved word. -/
  | keyword (text : String)
  | word (word : Word) (isQuoted : Bool)
  | redirect (descriptor : Nat) (kind : RedirectKind) (document : Option Bool)

/-- What a token is called in a complaint. -/
def Token.name : Token → String
  | .finish => "end of file"
  | .newline => "newline"
  | .operator text => "\x22" ++ text ++ "\x22"
  | .keyword text => "\x22" ++ text ++ "\x22"
  | .word _ _ => "word"
  | .redirect _ _ _ => "redirection"

/-- An alias whose text is being read. -/
structure ActiveAlias where
  name : String
  /-- How much of the source is left after its text. -/
  after : Nat
  /-- Whether the word after it may be an alias as well. -/
  endsBlank : Bool

/-- Input that is announced and has not been met yet. -/
structure Announcement where
  number : Nat
  delimiter : Octets
  isQuoted : Bool
  stripsTabs : Bool

/-- The state of a source. -/
structure Source where
  rest : Octets
  /-- The length of the rest. -/
  left : Nat
  line : Nat
  /-- The token that was read and not used. -/
  ahead : Option Token
  aliases : Table String
  active : List ActiveAlias
  /-- Whether the next word may be an alias wherever it stands. -/
  expectsAlias : Bool
  announced : List Announcement
  /-- Inputs that have been read, under their numbers. -/
  documents : List (Nat × Word)
  nextDocument : Nat

/-- A source that starts on some line. -/
def Source.ofOctets (line : Nat) (aliases : Table String) (nextDocument : Nat) (t : Octets) :
    Source :=
  ⟨t, t.length, line, none, aliases, [], false, [], [], nextDocument⟩

/-- A reader of a source. -/
abbrev Reader (α : Type) := StateT Source (Except Refusal) α

namespace Reader

/-- The script is refused on the line that is being read. -/
def refuse {α : Type} (reason : String) : Reader α := do
  let s ← get
  throw ⟨s.line, "Syntax error: " ++ reason⟩

/-- The longest complaint about a token. -/
def complaintLimit : Nat := 63

/-- A token is refused, perhaps for want of another. -/
def refuseToken {α : Type} (token : Token) (expected : Option Token) : Reader α :=
  let text :=
    match expected with
    | none => token.name ++ " unexpected"
    | some t => token.name ++ " unexpected (expecting " ++ t.name ++ ")"
  refuse (String.ofList (text.toList.take complaintLimit))

/-- Takes aliases off whose texts have been read to their ends. -/
def dropAliases (left : Nat) : List ActiveAlias → List ActiveAlias × Bool
  | [] => ([], false)
  | a :: rest =>
      if left ≤ a.after then
        let (others, blank) := dropAliases left rest
        (others, a.endsBlank || blank)
      else (a :: rest, false)

/-- The next character, which is not taken. -/
def peek : Reader (Option Char) := do
  let s ← get
  return s.rest.head?

/-- Takes the next character. -/
def take : Reader (Option Char) := do
  let s ← get
  match s.rest with
  | [] => return none
  | c :: rest => do
      let (active, blank) :=
        if s.active.isEmpty then ([], false) else dropAliases s.left s.active
      set { s with
        rest := rest, left := s.left - 1, active := active
        expectsAlias := s.expectsAlias || blank
        line := if c == '\n' then s.line + 1 else s.line }
      return some c

/-- Takes line ends that are escaped. -/
def joinLines : Nat → Reader Unit
  | 0 => return ()
  | fuel + 1 => do
      match (← get).rest with
      | '\\' :: '\n' :: _ => do
          let _ ← take
          let _ ← take
          joinLines fuel
      | _ => return ()

/-- The next character after escaped line ends, which is not taken. -/
def peekJoined : Reader (Option Char) := do
  match (← get).rest with
  | '\\' :: '\n' :: _ => do
      joinLines (← get).left
      peek
  | t => return t.head?

/-- Takes the next character after escaped line ends. -/
def takeJoined : Reader (Option Char) := do
  let _ ← peekJoined
  take

/-- Takes the next character if it is the expected one. -/
def takeIf (c : Char) : Reader Bool := do
  if (← peekJoined) == some c then
    let _ ← take
    return true
  else return false

/-- Takes characters as long as they are of some kind, escaped line ends
    aside. -/
def takeWhile (kind : Char → Bool) : Nat → Octets → Reader Octets
  | 0, found => return found.reverse
  | fuel + 1, found => do
      match ← peekJoined with
      | some c =>
          if kind c then do
            let _ ← take
            takeWhile kind fuel (c :: found)
          else return found.reverse
      | none => return found.reverse

/-- Skips to the end of the line. -/
def skipLine : Nat → Reader Unit
  | 0 => return ()
  | fuel + 1 => do
      match ← peek with
      | none => return ()
      | some '\n' => return ()
      | some _ => do
          let _ ← take
          skipLine fuel

/-- Puts the text of an alias in front of the rest. -/
def pushAlias (name text : String) : Reader Unit := do
  let s ← get
  let cs := text.toList
  if !cs.isEmpty then
    set { s with
      rest := cs ++ s.rest, left := s.left + cs.length
      active := ⟨name, s.left, (cs.getLast?.map isBlank).getD false⟩ :: s.active }

/-- A line with its end, and whether it goes on in the next one. -/
def takeLine (joins : Bool) : Nat → Bool → Octets → Reader (Octets × Bool)
  | 0, _, line => return (line.reverse, false)
  | fuel + 1, isEscaped, line => do
      match ← take with
      | none => return (line.reverse, false)
      | some c =>
          if c == '\n' then
            if joins && isEscaped then return ((line.drop 1).reverse, true)
            else return ((c :: line).reverse, false)
          else takeLine joins fuel (c == '\\' && !isEscaped) (c :: line)

/-- The lines up to the one that is the delimiter, in reverse. -/
def takeDocument (a : Announcement) : Nat → Bool → List Octets → Reader (List Octets)
  | 0, _, lines => return lines
  | fuel + 1, isContinued, lines => do
      if (← peek).isNone then return lines
      else
        let (line, continues) ← takeLine (!a.isQuoted) (← get).left.succ false []
        let shown := if a.stripsTabs && !isContinued then line.dropWhile (· == '\t') else line
        let ended := shown.getLast? == some '\n'
        let bare := if ended then shown.dropLast else shown
        if !isContinued && !continues && bare == a.delimiter then return lines
        else takeDocument a fuel continues (shown :: lines)

end Reader

end HermesBundle.Shell
