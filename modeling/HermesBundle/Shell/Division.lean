import HermesBundle.Shell.Pattern

/-! # Division — from the fragments of an expanded word to its fields

    Only what comes from an expansion that was not quoted can divide a
    word.  Such a stretch is divided at the characters of `IFS`; blanks
    among them count once, and not at all at the start of a field.  A
    stretch of parameters in quotes is divided between them and nowhere
    else.  Quotation marks keep the field they stand in, even if nothing is
    in it. -/

namespace HermesBundle.Shell

/-- The mark between parameters that become fields of their own. -/
def parameterMark : Char := '\x00'

/-- A fragment of an expanded word. -/
inductive Fragment where
  /-- What stands for itself. -/
  | text (gs : List Glyph)
  /-- A quotation mark. -/
  | mark
  /-- What can be divided. -/
  | loose (gs : List Glyph)
  /-- Parameters in quotes. -/
  | parameters (gs : List Glyph)

/-- The glyphs of a fragment. -/
def Fragment.glyphs : Fragment → List Glyph
  | .text gs => gs
  | .mark => []
  | .loose gs => gs
  | .parameters gs => gs

/-- A word that is being divided. -/
structure Division where
  /-- The fields that have ended, the latest first. -/
  done : List (List Glyph)
  /-- The field at hand, the latest glyph first. -/
  current : List Glyph
  /-- Whether there is anything in the field at hand, if only a mark. -/
  isPresent : Bool
  /-- Whether blanks have just ended a field. -/
  isAfterBlank : Bool
  /-- Whether the last stretch was one of parameters in quotes. -/
  isAfterParameters : Bool

/-- A character that divides fields and is dropped around them. -/
def isWhiteDivider (c : Char) : Bool := c == ' ' || c == '\t' || c == '\n' || c == parameterMark

namespace Division

/-- Nothing has been divided. -/
def start : Division := ⟨[], [], false, false, false⟩

/-- Ends the field at hand. -/
def close (d : Division) (isAfterBlank : Bool) : Division :=
  ⟨d.current.reverse :: d.done, [], false, isAfterBlank, d.isAfterParameters⟩

/-- Takes a glyph that does not divide. -/
def add (d : Division) (g : Glyph) : Division :=
  { d with current := g :: d.current, isPresent := true, isAfterBlank := false }

/-- Takes a glyph of a stretch, given the characters that divide it and
    whether blanks among them count as others do. -/
def step (dividers : Octets) (isStrict : Bool) (d : Division) (g : Glyph) : Division :=
  if !(g.char == parameterMark || dividers.contains g.char) then d.add g
  else
    let isBlank := isWhiteDivider g.char
    if d.isAfterBlank then { d with isAfterBlank := isBlank }
    else if isBlank && !isStrict then if d.isPresent then d.close true else d
    else d.close false

/-- Takes a stretch.  What follows parameters in quotes is divided at every
    single blank. -/
def stretch (dividers : Octets) (isOfParameters : Bool) (d : Division) (gs : List Glyph) :
    Division :=
  gs.foldl (step dividers (isOfParameters || d.isAfterParameters))
    { d with isAfterBlank := false, isAfterParameters := isOfParameters }

/-- Takes a fragment. -/
def take (dividers : Octets) (d : Division) : Fragment → Division
  | .text gs => gs.foldl add d
  | .mark => { d with isPresent := true }
  | .loose gs => d.stretch dividers false gs
  | .parameters gs => d.stretch [] true gs

/-- The fields in order.  The field at hand is one of them if there is
    anything in it, or if it is a parameter. -/
def fields (d : Division) : List (List Glyph) :=
  (if d.isPresent || d.isAfterParameters then (d.close false).done else d.done).reverse

end Division

/-- The fields of a word. -/
def fieldsOf (dividers : Octets) (fragments : List Fragment) : List (List Glyph) :=
  (fragments.foldl (Division.take dividers) Division.start).fields

/-- The glyphs of a word that is not divided. -/
def undivided (fragments : List Fragment) : List Glyph := fragments.flatMap Fragment.glyphs

end HermesBundle.Shell
