import HermesBundle.Shell.Octets

/-! # Scripts — words and commands before they are run

    A word is a row of pieces.  What is quoted stands for itself; the other
    pieces are replaced when the word is expanded.  The input that a script
    holds for its own commands is kept under a number, for it comes after
    the line that asks for it. -/

namespace HermesBundle.Shell

/-- What a redirection does with its descriptor. -/
inductive RedirectKind where
  | read
  | readWrite
  | write
  /-- Writes to a file even if it is there and may not be overwritten. -/
  | overwrite
  | append
  | duplicate
  /-- Input given in the script itself, under a number. -/
  | document (number : Nat)
deriving DecidableEq

mutual

/-- A piece of a word. -/
inductive Piece where
  | literal (text : String) (isQuoted : Bool)
  /-- A quotation mark. -/
  | mark
  | parameter (name : String) (change : Change) (isQuoted : Bool)
  /-- What commands print. -/
  | output (body : List Command) (isQuoted : Bool)
  | arithmetic (expression : List Piece) (isQuoted : Bool)
  /-- Braces that hold no parameter. -/
  | unknown

/-- How the value of a parameter is changed. -/
inductive Change where
  | keep
  | length
  /-- Another word if the parameter is unset, or also if it is empty. -/
  | orElse (alsoEmpty : Bool) (word : List Piece)
  /-- Likewise, and the parameter is set to the word. -/
  | orSet (alsoEmpty : Bool) (word : List Piece)
  /-- Likewise, but without a value the script ends. -/
  | orFail (alsoEmpty : Bool) (word : List Piece)
  /-- Another word if the parameter is set, or set and not empty. -/
  | ifSet (alsoEmpty : Bool) (word : List Piece)
  /-- Without the shortest or the longest head that matches a pattern. -/
  | dropHead (longest : Bool) (pattern : List Piece)
  /-- Without the shortest or the longest tail that matches a pattern. -/
  | dropTail (longest : Bool) (pattern : List Piece)

/-- A redirection of a descriptor. -/
inductive Redirect where
  | mk (descriptor : Nat) (kind : RedirectKind) (target : List Piece)

/-- A command. -/
inductive Command where
  | simple (line : Nat) (assignments : List (String × List Piece)) (words : List (List Piece))
      (redirects : List Redirect)
  | pipeline (stages : List Command)
  | negation (command : Command)
  | both (first second : Command)
  | either (first second : Command)
  /-- A command that the shell does not wait for. -/
  | background (command : Command)
  | sequence (body : List Command)
  | subshell (line : Nat) (body : List Command) (redirects : List Redirect)
  | choice (condition consequence alternative : List Command)
  | repeated (untilTrue : Bool) (condition body : List Command)
  | forEach (line : Nat) (name : String) (words : Option (List (List Piece)))
      (body : List Command)
  | select (line : Nat) (subject : List Piece)
      (branches : List (List (List Piece) × List Command))
  /-- A compound command under redirections. -/
  | redirected (line : Nat) (command : Command) (redirects : List Redirect)
  | define (line : Nat) (name : String) (body : Command)

end

instance : Inhabited Command := ⟨.sequence []⟩

/-- A word before expansion. -/
abbrev Word := List Piece

/-- Whether a change does not show the value itself. -/
def Change.dropsValue : Change → Bool
  | .length => true
  | .ifSet _ _ => true
  | _ => false

/-- Whether a change makes no sense of a parameter that is not set. -/
def Change.needsValue : Change → Bool
  | .keep => true
  | .length => true
  | .dropHead _ _ => true
  | .dropTail _ _ => true
  | _ => false

/-- The text of a word that consists of plain literals only. -/
def Word.bare? : Word → Option String
  | [] => some ""
  | .literal text false :: rest => (Word.bare? rest).map (text ++ ·)
  | _ => none

end HermesBundle.Shell
