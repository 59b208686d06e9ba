import HermesBundle.Shell.Builtins.Arguments
import HermesBundle.Shell.Format
import HermesBundle.Shell.Pattern

/-! # Lines — the builtins that read a line and print their arguments

    A line is read octet by octet, so that what follows it is left to
    others.  It is divided like the value of a parameter, but the last
    variable takes all that is left. -/

namespace HermesBundle.Shell.Builtin

/-- How many octets a line can have. -/
def lineLimit : Nat := 1000000

/-- Reads a line, and tells whether it was ended.  A backslash takes the
    meaning from what follows it, unless the line is raw. -/
def readGlyphs (isRaw : Bool) : Nat → Bool → List Glyph → Run (List Glyph × Bool)
  | 0, _, found => return (found.reverse, false)
  | fuel + 1, isEscaped, found => do
      match ← Run.read 0 1 with
      | .ok (c :: _) =>
          if c == '\x00' then readGlyphs isRaw fuel isEscaped found
          else if isEscaped then
            if c == '\n' then readGlyphs isRaw fuel false found
            else readGlyphs isRaw fuel false (⟨c, true⟩ :: found)
          else if !isRaw && c == '\\' then readGlyphs isRaw fuel true found
          else if c == '\n' then return (found.reverse, true)
          else readGlyphs isRaw fuel false (⟨c, false⟩ :: found)
      | _ => return (found.reverse, false)

/-- Whether a character is white and divides fields. -/
def isWhite (c : Char) : Bool := c == ' ' || c == '\t' || c == '\n'

/-- A glyph that divides fields and is white. -/
def dividesAsBlank (dividers : Octets) (g : Glyph) : Bool :=
  !g.isQuoted && isWhite g.char && dividers.contains g.char

/-- A glyph that divides fields. -/
def dividesAtAll (dividers : Octets) (g : Glyph) : Bool :=
  !g.isQuoted && dividers.contains g.char

/-- The first field of a line that does not start with blanks, and what
    follows it and its divider. -/
def firstField (dividers : Octets) (gs : List Glyph) : List Glyph × List Glyph :=
  let field := gs.takeWhile fun g => !dividesAtAll dividers g
  let rest := (gs.drop field.length).dropWhile (dividesAsBlank dividers)
  match rest with
  | g :: more =>
      if dividesAtAll dividers g && !isWhite g.char then
        (field, more.dropWhile (dividesAsBlank dividers))
      else (field, rest)
  | [] => (field, [])

/-- Divides a line among variables; the last one takes all that is left. -/
def divideLine (dividers : Octets) : List String → List Glyph → List (String × String)
  | [], _ => []
  | [name], gs =>
      let (field, rest) := firstField dividers gs
      let value :=
        if rest.isEmpty then field
        else (gs.reverse.dropWhile (dividesAsBlank dividers)).reverse
      [(name, glyphString value)]
  | name :: names, gs =>
      let (field, rest) := firstField dividers gs
      (name, glyphString field) :: divideLine dividers names rest

/-- Reads a line into variables. -/
def read : Builtin := fun arguments => do
  let a ← divideArguments "p:r" arguments
  if a.operands.isEmpty then Run.fail "arg count"
  else
    let (gs, isEnded) ← readGlyphs (a.has 'r') lineLimit false []
    let dividers := (← get).toContext.dividers
    for (name, value) in divideLine dividers a.operands (gs.dropWhile (dividesAsBlank dividers)) do
      checkName name
      Run.assign name value
    return if isEnded then 0 else 1

/-- Arguments with their escapes read, and whether the output is ended by
    one of them.  Arguments are set apart by blanks; the pieces found so far
    are in reverse. -/
def echoedArguments : List String → List Octets → List Octets × Bool
  | [], found => (found.reverse, false)
  | argument :: rest, found =>
      let u := unescaped .shellArgument argument.toList
      if u.stops then ((u.text :: found).reverse, true)
      else echoedArguments rest (if rest.isEmpty then u.text :: found else [' '] :: u.text :: found)

/-- Writes arguments with their escapes read, and ends the line unless the
    first argument forbids it. -/
def echo : Builtin := fun arguments => do
  let isOpen := arguments.head? == some "-n"
  let (pieces, stops) := echoedArguments (if isOpen then arguments.drop 1 else arguments) []
  Run.print pieces.flatten
  if !isOpen && !stops then Run.print ['\n']
  return 0

/-- What is said of an argument that does not fit a field. -/
def conversionText : Conversion → String
  | .nothing => "expected numeric value"
  | .partly => "not completely converted"
  | .outOfRange => "Numerical result out of range"
  | .whole => ""

/-- The formats of the shell. -/
def shellFormatter : Formatter where
  isShell := true
  form := .double
  warn argument conversion :=
    Run.complain (String.ofList argument ++ ": " ++ conversionText conversion)
  refuse t := Run.complain t
  quote := none

/-- Writes arguments through a format. -/
def printf : Builtin := fun arguments => do
  let a ← divideArguments "" arguments
  match a.operands with
  | [] => Run.fail "usage: printf format [arg ...]"
  | format :: rest => do
      let filling ← fillAll shellFormatter format.toList (rest.length + 2) ⟨rest, 0, false⟩
      return filling.status

end HermesBundle.Shell.Builtin
