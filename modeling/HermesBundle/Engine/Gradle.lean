import HermesBundle.Text.Blank
import HermesBundle.Text.Entries

/-! # Gradle files — what a native project says about its engine

    A properties file is read line by line; later settings of a key
    replace earlier ones.  A build script is searched for a line that
    enables Hermes, either outright or by reference to the properties. -/

namespace HermesBundle.Engine

/-- What one line of a properties file is. -/
inductive PropertyLine where
  /-- Blank, or a comment. -/
  | ignored
  /-- Without a separator; the trimmed line is kept for the report. -/
  | skipped (line : Text)
  | setting (key value : Text)
deriving DecidableEq

/-- Splits a text at the first occurrence of a code point. -/
def splitFirst (separator : CodePoint) (t : Text) : Option (Text × Text) :=
  match t with
  | [] => none
  | c :: rest =>
      if c = separator then some ([], rest)
      else (splitFirst separator rest).map fun (a, b) => (c :: a, b)

/-- Reads one line: blanks at its ends do not count, and the value is
    everything after the first separator. -/
def PropertyLine.ofText (raw : Text) : PropertyLine :=
  let line := raw.trim
  if line.isEmpty || line.startsWith "#" then .ignored
  else
    match splitFirst '=' line with
    | none => .skipped line
    | some (key, value) => .setting key value

/-- The lines of a properties file. -/
def propertyLines (content : Text) : List PropertyLine :=
  (content.splitOn '\n').map PropertyLine.ofText

/-- The settings among some lines. -/
def settingsOf (lines : List PropertyLine) : Entries Text :=
  lines.filterMap fun
    | .setting key value => some (key, value)
    | _ => none

/-- The properties of a file: each key with its last value, in the order
    of the first settings. -/
def parseProperties (content : Text) : Entries Text :=
  Entries.update [] (settingsOf (propertyLines content))

/-- The lines of a properties file that have no separator. -/
def skippedLines (content : Text) : List Text :=
  (propertyLines content).filterMap fun
    | .skipped line => some line
    | _ => none

/-- One position of a pattern. -/
inductive Slot where
  | exact (c : CodePoint)
  /-- Anything but a line feed. -/
  | anyOfLine
deriving DecidableEq

/-- A pattern that matches a string only. -/
def exactly (s : String) : List Slot := (Text.ofString s).map .exact

/-- The rest of a text after a pattern at its start. -/
def dropPattern (pattern : List Slot) (t : Text) : Option Text :=
  match pattern, t with
  | [], t => some t
  | _ :: _, [] => none
  | .exact c :: slots, d :: rest => if c = d then dropPattern slots rest else none
  | .anyOfLine :: slots, d :: rest =>
      if d = CodePoint.ofChar '\n' then none else dropPattern slots rest

/-- A text without the blanks at its start. -/
def dropBlanks (t : Text) : Text := t.dropWhile CodePoint.isBlank

/-- Whether a text starts with the setting, given the pattern of its
    value: blanks, the key, blanks, the value, at most one comma and at
    least one blank. -/
def startsWithSetting (value : List Slot) (t : Text) : Bool :=
  match dropPattern (exactly "enableHermes:") (dropBlanks t) with
  | none => false
  | some afterKey =>
      match dropPattern value (dropBlanks afterKey) with
      | none => false
      | some afterValue =>
          match afterValue with
          | [] => false
          | c :: rest =>
              if c = CodePoint.ofChar ',' then (rest.head?.map CodePoint.isBlank).getD false
              else c.isBlank

/-- The rests of a text at which a line starts. -/
def lineStarts (t : Text) : List Text :=
  let rec following : Text → List Text
    | [] => []
    | c :: rest => if c = CodePoint.ofChar '\n' then rest :: following rest else following rest
  t :: following t

/-- Whether some line of a script starts the setting. -/
def hasSetting (value : List Slot) (script : Text) : Bool :=
  (lineStarts script).any (startsWithSetting value)

/-- The value that enables Hermes outright. -/
def bareValue : List Slot := exactly "true"

/-- The value that refers to the properties; the dot of the property's
    name may be any character. -/
def referenceValue : List Slot :=
  exactly "(findProperty(\x27expo" ++ [.anyOfLine]
    ++ exactly "jsEngine\x27) ?: \x22jsc\x22) == \x22hermes\x22"

/-- Whether a build script enables Hermes outright. -/
def enablesHermes (script : Text) : Bool := hasSetting bareValue script

/-- Whether a build script leaves the engine to the properties. -/
def refersToProperties (script : Text) : Bool := hasSetting referenceValue script

end HermesBundle.Engine
